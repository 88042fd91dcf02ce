import PushLang.Proofs.Binary64.Nearest
import PushLang.Proofs.Builtin.Rearranging
import PushLang.Proofs.Machine.Kept
import PushLang.Proofs.Random.Code

namespace PushLang

variable {χ : Type} {Q : Atom → Prop} {m₀ : Machine χ}

theorem StackOp.keeping (op : StackOp) {k : Kind} (hk : k ≠ .input) :
    (op.run k : Effect χ).Keeping Q m₀ :=
  keeping_always fun _ hm => hm.setStack hk fun _ hv => hm.stacked k _ ((op.rearranged _).mem hv)

theorem IndexOp.keeping (op : IndexOp) {k : Kind} (hk : k ≠ .input) :
    (op.run k : Effect χ).Keeping Q m₀ := by
  apply keeping_action (by decide)
  intro operands _ _ hm
  exact ⟨hm.setStack hk fun v hv => hm.stacked k v ((op.rearranged _ _).mem hv), rfl⟩

theorem keeping_pushDepth (hQ : Closed Q m₀) (k : Kind) :
    (pushDepth k : Effect χ).Keeping Q m₀ :=
  keeping_producing hQ (by decide) (by decide) false fun _ _ _ hm => ⟨hm, hQ.integer _⟩

theorem keeping_compareItems (hQ : Closed Q m₀) {k : Kind} (hk : k ≠ .input) :
    (compareItems k : Effect χ).Keeping Q m₀ :=
  keeping_calculating hQ (by simpa using hk.symm) (by decide) fun _ _ => hQ.boolean _

theorem keeping_comparePair (hQ : Closed Q m₀) {k : Kind} (hk : k ≠ .input) :
    (comparePair k : Effect χ).Keeping Q m₀ := by
  refine keeping_always fun m hm => ?_
  split
  · rename_i a b rest hdown
    refine (hm.setStack hk fun v hv => hm.stacked k v ?_).push (by decide) (hQ.boolean _)
    rw [hdown]
    exact List.mem_cons_of_mem _ (List.mem_cons_of_mem _ hv)
  · exact hm

theorem keeping_compareTop (hQ : Closed Q m₀) {k : Kind} (hk : k ≠ .input) :
    (compareTop k : Effect χ).Keeping Q m₀ := by
  cases k with
  | code | exec => exact keeping_comparePair hQ (by decide)
  | integer | float | boolean | name => exact keeping_compareItems hQ (by decide)
  | input => exact absurd rfl hk

theorem bindTop_induction {P : Machine χ → Prop} {k : Kind}
    (take : ∀ m l, P m → P (m.take l false).2)
    (bind : ∀ m name v, P m → P (m.bind name ⟨k, v⟩)) {m : Machine χ} (h : P m) :
    P (bindTop k m).1 := by
  have hname := take m .name h
  simp only [bindTop, Effect.always]
  rcases htake : m.take .name false with ⟨_ | name, m₁⟩
  · rwa [htake] at hname
  · rw [htake] at hname
    have hvalue := take m₁ k hname
    dsimp only
    rcases htake' : m₁.take k false with ⟨_ | v, m₂⟩
    · rwa [htake'] at hvalue
    · rw [htake'] at hvalue
      exact bind m₂ name v hvalue

theorem keeping_bindTop {k : Kind} (hk : k ≠ .input) : (bindTop k : Effect χ).Keeping Q m₀ := by
  refine keeping_always fun m hm => ?_
  obtain ⟨hkept, hname⟩ := hm.take (k := .name) (by decide) false
  rcases htake : m.take .name false with ⟨_ | name, m₁⟩
  · rw [htake] at hkept
    exact hkept
  · rw [htake] at hkept hname
    obtain ⟨hkept, hvalue⟩ := hkept.take hk false
    dsimp only
    rcases htake' : m₁.take k false with ⟨_ | v, m₂⟩
    · rw [htake'] at hkept
      exact hkept
    · rw [htake'] at hkept hvalue
      exact hkept.bind (hname name rfl) (hvalue v rfl)

theorem allowed_quotient (hQ : Closed Q m₀) (a b : Int64) : Allowed Q .integer (quotient? a b) := by
  unfold quotient?
  split
  · trivial
  · exact hQ.integer _

theorem allowed_remainder (hQ : Closed Q m₀) (a b : Int64) :
    Allowed Q .integer (remainder? a b) := by
  unfold remainder?
  split
  · trivial
  · exact hQ.integer _

theorem allowed_finite (hQ : Closed Q m₀) (x : Double) : Allowed Q .float (finite? x) := by
  unfold finite?
  split
  · exact hQ.float x ‹_›
  · trivial

theorem allowed_divided (hQ : Closed Q m₀) (f : Double → Double → Double) (x y : Double) :
    Allowed Q .float (divided? f x y) := by
  unfold divided?
  split
  · trivial
  · exact allowed_finite hQ _

theorem IntegerOp.keeping (hQ : Closed Q m₀) (op : IntegerOp) :
    (op.run : Effect χ).Keeping Q m₀ := by
  cases op with
  | add | sub | mul | min | max | abs | neg | fromFloat | fromBoolean =>
    exact keeping_calculating hQ (by decide) (by decide) fun _ _ => hQ.integer _
  | div => exact keeping_calculating hQ (by decide) (by decide) fun _ _ => allowed_quotient hQ _ _
  | mod => exact keeping_calculating hQ (by decide) (by decide) fun _ _ => allowed_remainder hQ _ _
  | less | greater =>
    exact keeping_calculating hQ (by decide) (by decide) fun _ _ => hQ.boolean _
  | rand =>
    exact keeping_producing hQ (by decide) (by decide) false fun _ m _ hm =>
      ⟨hm.withSource m.config.integers.sample, hQ.integer _⟩

theorem FloatOp.keeping (hQ : Closed Q m₀) (op : FloatOp) :
    (op.run : Effect χ).Keeping Q m₀ := by
  cases op with
  | add | sub | mul | min | max | abs | neg | sin | cos | tan | exp | ln =>
    exact keeping_calculating hQ (by decide) (by decide) fun _ _ => allowed_finite hQ _
  | div | mod =>
    exact keeping_calculating hQ (by decide) (by decide) fun _ _ => allowed_divided hQ _ _ _
  | less | greater =>
    exact keeping_calculating hQ (by decide) (by decide) fun _ _ => hQ.boolean _
  | fromInteger =>
    exact keeping_calculating hQ (by decide) (by decide) fun _ _ =>
      hQ.float _ (Binary64.isFinite_ofInt64 _)
  | fromBoolean =>
    refine keeping_calculating hQ (by decide) (by decide) fun operands _ => hQ.float _ ?_
    cases operands.1 <;> decide
  | rand =>
    refine keeping_producing hQ (by decide) (by decide) false fun _ m _ hm =>
      ⟨hm.withSource m.config.floats.sample, ?_⟩
    -- Sampling is closed for the settings of `m₀`, which are those of `m`.
    show Q (.float (m.config.floats.sample m.source).1)
    rw [Machine.config_of_setup hm.setup]
    exact hQ.sampled _

theorem BooleanOp.keeping (hQ : Closed Q m₀) (op : BooleanOp) :
    (op.run : Effect χ).Keeping Q m₀ := by
  cases op with
  | literal b => exact keeping_always fun m hm => hm.push (by decide) (hQ.boolean b)
  | not | and | or | xor | fromInteger | fromFloat =>
    exact keeping_calculating hQ (by decide) (by decide) fun _ _ => hQ.boolean _
  | rand =>
    exact keeping_producing hQ (by decide) (by decide) false fun _ _ _ hm =>
      ⟨hm.withSource _, hQ.boolean _⟩

end PushLang
