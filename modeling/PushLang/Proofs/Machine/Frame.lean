import PushLang.Machine.Step

namespace PushLang

variable {χ : Type}

/-- The parts of a machine that built-in instructions work on. -/
inductive Part where
  | stack (k : Kind)
  | bindings
  | source
  deriving DecidableEq

/-- The change `u` cannot be seen from the parts `P`, nor does it see changes of them. It touches
neither the settings nor the active generators nor the way inputs are handed on. -/
structure Frame (P : List Part) (u : Machine χ → Machine χ) : Prop where
  stack : ∀ k, .stack k ∈ P → ∀ m, (u m).stack k = m.stack k
  setStack : ∀ k, .stack k ∈ P → ∀ m s, (u m).setStack k s = u (m.setStack k s)
  bind : .bindings ∈ P → ∀ m name c, (u m).bind name c = u (m.bind name c)
  withSource : .source ∈ P → ∀ (α : Type) m (f : Random.Source → α × Random.Source),
    (u m).withSource f = ((m.withSource f).1, u (m.withSource f).2)
  config : ∀ m, (u m).config = m.config
  activeGenerators : ∀ m, (u m).activeGenerators = m.activeGenerators
  pusher : ∀ m, (u m).pusher = m.pusher

/-- Making the change before the effect is making it after the effect. -/
def Effect.Commutes (u : Machine χ → Machine χ) (e : Effect χ) : Prop :=
  ∀ m, e (u m) = (u (e m).1, (e m).2)

variable {u : Machine χ → Machine χ} {P : List Part}

theorem fixed_of_commutes {e : Effect χ} {m : Machine χ} (h : e (u m) = (u (e m).1, (e m).2))
    (hm : u m = m) : u (e m).1 = (e m).1 := by
  rw [hm] at h
  exact (congrArg Prod.fst h).symm

theorem always_eq_of_commutes {f : Machine χ → Machine χ} {m : Machine χ}
    (h : f (u m) = u (f m)) :
    Effect.always f (u m) = (u (Effect.always f m).1, (Effect.always f m).2) :=
  congrArg (·, Except.ok ()) h

theorem commutes_always {f : Machine χ → Machine χ} (hf : ∀ m, f (u m) = u (f m)) :
    (Effect.always f).Commutes u := fun m => always_eq_of_commutes (hf m)

theorem frame_setStack {k : Kind} (hk : .stack k ∉ P) (s : Stack k.Item) :
    Frame P fun m : Machine χ => m.setStack k s where
  stack l hl m := by
    have hne : l ≠ k := fun h => hk (h ▸ hl)
    exact Stacks.get_set_of_ne _ hne _
  setStack l hl m t := by
    have hne : l ≠ k := fun h => hk (h ▸ hl)
    cases k <;> cases l <;> first | rfl | exact absurd rfl hne
  bind _ _ _ _ := rfl
  withSource _ _ _ _ := rfl
  config _ := rfl
  activeGenerators _ := rfl
  pusher _ := rfl

theorem frame_bindings (hP : .bindings ∉ P) (bindings : NameMap Constant) :
    Frame P fun m : Machine χ => { m with bindings } where
  stack _ _ _ := rfl
  setStack _ _ _ _ := rfl
  bind h := absurd h hP
  withSource _ _ _ _ := rfl
  config _ := rfl
  activeGenerators _ := rfl
  pusher _ := rfl

/-- The count of evaluations is no part that an instruction works on. -/
theorem frame_evaluations (n : Nat) :
    Frame P fun m : Machine χ => { m with evaluations := n } where
  stack _ _ _ := rfl
  setStack _ _ _ _ := rfl
  bind _ _ _ _ := rfl
  withSource _ _ _ _ := rfl
  config _ := rfl
  activeGenerators _ := rfl
  pusher _ := rfl

namespace Frame

variable (hu : Frame P u)
include hu

theorem comp {w : Machine χ → Machine χ} (hw : Frame P w) : Frame P fun m => u (w m) where
  stack k hk m := (hu.stack k hk _).trans (hw.stack k hk m)
  setStack k hk m s := (hu.setStack k hk _ s).trans (congrArg u (hw.setStack k hk m s))
  bind h m name c := (hu.bind h _ name c).trans (congrArg u (hw.bind h m name c))
  withSource h α m f := by rw [hu.withSource h, hw.withSource h]
  config m := (hu.config _).trans (hw.config m)
  activeGenerators m := (hu.activeGenerators _).trans (hw.activeGenerators m)
  pusher m := (hu.pusher _).trans (hw.pusher m)

theorem push {k : Kind} (hk : .stack k ∈ P) (m : Machine χ) (v : k.Item) :
    (u m).push k v = u (m.push k v) := by
  rw [Machine.push, hu.stack k hk, hu.setStack k hk, Machine.push]

theorem drop {k : Kind} (hk : .stack k ∈ P) (m : Machine χ) : (u m).drop k = u (m.drop k) := by
  rw [Machine.drop, hu.stack k hk, hu.setStack k hk, Machine.drop]

theorem push? {k : Kind} (hk : .stack k ∈ P) (m : Machine χ) (v : Option k.Item) :
    (u m).push? k v = u (m.push? k v) := by
  cases v with
  | none => rfl
  | some v => exact hu.push hk m v

theorem take {k : Kind} (hk : .stack k ∈ P) (peek : Bool) (m : Machine χ) :
    (u m).take k peek = ((m.take k peek).1, u (m.take k peek).2) := by
  unfold Machine.take
  rw [hu.stack k hk]
  cases (m.stack k).top? with
  | none => rfl
  | some v =>
    cases peek with
    | true => rfl
    | false => exact congrArg (Prod.mk _) (hu.drop hk m)

theorem takeAll {ks : List Kind} (hks : ∀ k ∈ ks, .stack k ∈ P) (peek : Bool) (m : Machine χ) :
    (u m).takeAll peek ks = ((m.takeAll peek ks).1, u (m.takeAll peek ks).2) := by
  induction ks with
  | nil => rfl
  | cons k ks ih =>
    unfold Machine.takeAll
    rw [ih fun l hl => hks l (List.mem_cons_of_mem _ hl)]
    rcases m.takeAll peek ks with ⟨_ | rest, m₁⟩
    · rfl
    · dsimp only
      rw [hu.take (hks k List.mem_cons_self)]
      rcases m₁.take k peek with ⟨_ | v, m₂⟩
      · rfl
      · rfl

theorem action {ks : List Kind} (hks : ∀ k ∈ ks, .stack k ∈ P) (peek : Bool)
    {f : Callback χ ks Unit}
    (hf : ∀ operands m, f operands (u m) = (u (f operands m).1, (f operands m).2)) :
    (action ks peek f).Commutes u := by
  intro m
  unfold PushLang.action
  rw [hu.takeAll hks]
  rcases m.takeAll peek ks with ⟨_ | operands, m₁⟩
  · rfl
  · dsimp only
    rw [hf]
    rcases f operands m₁ with ⟨m₂, fault | _⟩
    · rfl
    · rfl

theorem producing {ks : List Kind} (hks : ∀ k ∈ ks, .stack k ∈ P) {out : Kind}
    (hout : .stack out ∈ P) (peek : Bool) {f : Callback χ ks out.Item}
    (hf : ∀ operands m, f operands (u m) = (u (f operands m).1, (f operands m).2)) :
    (producing ks out peek f).Commutes u := by
  intro m
  unfold PushLang.producing
  rw [hu.takeAll hks]
  rcases m.takeAll peek ks with ⟨_ | operands, m₁⟩
  · rfl
  · dsimp only
    rw [hf]
    exact congrArg (·, _) (hu.push? hout _ _)

theorem calculating {ks : List Kind} (hks : ∀ k ∈ ks, .stack k ∈ P) {out : Kind}
    (hout : .stack out ∈ P) {f : Operands ks → Except Fault out.Item} :
    (calculating ks out f : Effect χ).Commutes u := hu.producing hks hout false fun _ _ => rfl

end Frame

end PushLang
