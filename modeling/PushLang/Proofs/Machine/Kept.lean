import PushLang.Machine.Step

namespace PushLang

variable {χ : Type}

namespace Machine

/-- The registry, the generators, the settings and the inputs. -/
def setup (m : Machine χ) : Machine χ :=
  { m with
    contents := { input := m.contents.input }
    bindings := ∅
    source := .script []
    evaluations := 0 }

theorem setup_setStack (m : Machine χ) {k : Kind} (hk : k ≠ .input) (s : Stack k.Item) :
    (m.setStack k s).setup = m.setup := by
  cases k <;> first | rfl | exact absurd rfl hk

theorem config_of_setup {m m₀ : Machine χ} (h : m.setup = m₀.setup) : m.config = m₀.config := by
  have hc := congrArg config h
  exact hc

theorem operations_of_setup {m m₀ : Machine χ} (h : m.setup = m₀.setup) :
    m.operations = m₀.operations := by
  have ho := congrArg operations h
  exact ho

theorem instructions_of_setup {m m₀ : Machine χ} (h : m.setup = m₀.setup) :
    m.instructions = m₀.instructions := by
  have hi := congrArg instructions h
  exact hi

theorem pusher_of_setup {m m₀ : Machine χ} (h : m.setup = m₀.setup) : m.pusher = m₀.pusher := by
  have hp := congrArg pusher h
  exact hp

theorem activeGenerators_of_setup {m m₀ : Machine χ} (h : m.setup = m₀.setup) :
    m.activeGenerators = m₀.activeGenerators := by
  have ha := congrArg activeGenerators h
  exact ha

theorem clearStacks_of_setup {m m₀ : Machine χ} (h : m.setup = m₀.setup) :
    m.clearStacks.setup = m₀.clearStacks.setup := by
  have hclear := congrArg clearStacks h
  exact hclear

theorem input_of_setup {m m₀ : Machine χ} (h : m.setup = m₀.setup) :
    m.stack .input = m₀.stack .input := by
  have hi := congrArg (fun m : Machine χ => m.stack .input) h
  exact hi

@[simp] theorem stack_setStack_self (m : Machine χ) (k : Kind) (s : Stack k.Item) :
    (m.setStack k s).stack k = s := Stacks.get_set_self _ _ _

theorem stack_setStack_of_ne (m : Machine χ) {k l : Kind} (h : l ≠ k) (s : Stack k.Item) :
    (m.setStack k s).stack l = m.stack l := Stacks.get_set_of_ne _ h _

theorem stacked_setStack {Q : Atom → Prop} {m : Machine χ}
    (h : ∀ k, ∀ v ∈ (m.stack k).down, Q (k.element.toAtom v)) {k : Kind} {s : Stack k.Item}
    (hs : ∀ v ∈ s.down, Q (k.element.toAtom v)) :
    ∀ l, ∀ v ∈ ((m.setStack k s).stack l).down, Q (l.element.toAtom v) := by
  intro l v hv
  by_cases hl : l = k
  · subst hl
    rw [stack_setStack_self] at hv
    exact hs v hv
  · rw [stack_setStack_of_ne m hl] at hv
    exact h l v hv

/-- `m` differs from `m₀` only in what programs work on, and the atoms on its stacks and the values
bound in it have the property `Q`, as have the names bound since. -/
structure Kept (Q : Atom → Prop) (m m₀ : Machine χ) : Prop where
  setup : m.setup = m₀.setup
  stacked : ∀ k, ∀ v ∈ (m.stack k).down, Q (k.element.toAtom v)
  bound : ∀ (name : String) (c : Constant), m.bindings[name]? = some c → Q (c.kind.element.toAtom c.value)
  named : ∀ name, m.isBound name → m₀.isBound name ∨ Q (.name name)

namespace Kept

variable {Q : Atom → Prop} {m₀ m : Machine χ}

theorem self (h : m.Kept Q m₀) : m.Kept Q m := ⟨rfl, h.stacked, h.bound, fun _ => .inl⟩

theorem trans {m' : Machine χ} (h' : m'.Kept Q m) (h : m.Kept Q m₀) : m'.Kept Q m₀ where
  setup := h'.setup.trans h.setup
  stacked := h'.stacked
  bound := h'.bound
  named name hname := (h'.named name hname).elim (h.named name) .inr

theorem setStack (h : m.Kept Q m₀) {k : Kind} (hk : k ≠ .input) {s : Stack k.Item}
    (hs : ∀ v ∈ s.down, Q (k.element.toAtom v)) : (m.setStack k s).Kept Q m₀ where
  setup := (setup_setStack m hk s).trans h.setup
  stacked := stacked_setStack h.stacked hs
  bound := h.bound
  named := h.named

theorem push (h : m.Kept Q m₀) {k : Kind} (hk : k ≠ .input) {v : k.Item}
    (hv : Q (k.element.toAtom v)) : (m.push k v).Kept Q m₀ := by
  apply h.setStack hk
  intro w hw
  rcases List.mem_cons.mp hw with rfl | hw
  · exact hv
  · exact h.stacked k w hw

theorem drop (h : m.Kept Q m₀) {k : Kind} (hk : k ≠ .input) : (m.drop k).Kept Q m₀ :=
  h.setStack hk fun v hv => h.stacked k v (List.mem_of_mem_tail hv)

theorem withSource (h : m.Kept Q m₀) {α : Type} (f : Random.Source → α × Random.Source) :
    (m.withSource f).2.Kept Q m₀ := ⟨h.setup, h.stacked, h.bound, h.named⟩

theorem evaluated (h : m.Kept Q m₀) (n : Nat) :
    ({ m with evaluations := n } : Machine χ).Kept Q m₀ := ⟨h.setup, h.stacked, h.bound, h.named⟩

theorem bind (h : m.Kept Q m₀) {name : String} {c : Constant} (hname : Q (.name name))
    (hc : Q (c.kind.element.toAtom c.value)) : (m.bind name c).Kept Q m₀ where
  setup := h.setup
  stacked := h.stacked
  bound := by
    intro name' c' hc'
    rw [show (m.bind name c).bindings[name']? = (m.bindings.insert name c)[name']? from rfl,
      Std.ExtTreeMap.getElem?_insert] at hc'
    split at hc'
    · cases hc'
      exact hc
    · exact h.bound name' c' hc'
  named := by
    intro name' hname'
    rw [isBound, show (m.bind name c).bindings = m.bindings.insert name c from rfl,
      Std.ExtTreeMap.contains_insert, Bool.or_eq_true] at hname'
    rcases hname' with heq | hold
    · have heq : name = name' := Std.LawfulEqCmp.eq_of_compare (eq_of_beq heq)
      exact .inr (heq ▸ hname)
    · exact h.named name' hold

theorem top (h : m.Kept Q m₀) {k : Kind} {v : k.Item} (hv : (m.stack k).top? = some v) :
    Q (k.element.toAtom v) := h.stacked k v (List.mem_of_head? hv)

theorem take (h : m.Kept Q m₀) {k : Kind} (hk : k ≠ .input) (peek : Bool) :
    (m.take k peek).2.Kept Q m₀ ∧ ∀ v, (m.take k peek).1 = some v → Q (k.element.toAtom v) := by
  unfold Machine.take
  cases ht : (m.stack k).top? with
  | none => exact ⟨h, by simp⟩
  | some v =>
    refine ⟨?_, ?_⟩
    · cases peek
      · exact h.drop hk
      · exact h
    · intro w hw
      cases hw
      exact h.top ht

end Kept

end Machine

/-- What a property of atoms must be closed under for the instructions of a machine to keep it. -/
structure Closed (Q : Atom → Prop) (m : Machine χ) : Prop where
  integer : ∀ n, Q (.integer n)
  boolean : ∀ b, Q (.boolean b)
  float : ∀ x : Double, x.isFinite → Q (.float x)
  sampled : ∀ s, Q (.float (m.config.floats.sample s).1)
  generated : ∀ name, .instruction name ∈ m.activeGenerators → Q (.name name)
  helper : ∀ name ∈ ["exec.y", "integer.pop", "code.quote", "code.do*range", "exec.do*range"],
    Q (.name name)
  child : ∀ p, Q (.program p) → ∀ a ∈ p, Q a
  built : ∀ p, (∀ a ∈ p, Q a) →
    Program.points p ≤ max (max m.config.maxPoints m.config.maxRandomSize) 1 → Q (.program p)

theorem Closed.congr {Q : Atom → Prop} {m m' : Machine χ} (h : Closed Q m) (hconfig : m'.config = m.config)
    (hactive : m'.activeGenerators = m.activeGenerators) : Closed Q m' where
  integer := h.integer
  boolean := h.boolean
  float := h.float
  sampled := hconfig ▸ h.sampled
  generated := hactive ▸ h.generated
  helper := h.helper
  child := h.child
  built := hconfig ▸ h.built

theorem closed_true (m : Machine χ) : Closed (fun _ => True) m := by
  constructor <;> intros <;> trivial

namespace Operands

def All (Q : Atom → Prop) : (ks : List Kind) → Operands ks → Prop
  | [], _ => True
  | k :: ks, (v, rest) => Q (k.element.toAtom v) ∧ All Q ks rest

end Operands

/-- A result that may be pushed, or a fault that is no failure. -/
def Allowed (Q : Atom → Prop) (k : Kind) : Except Fault k.Item → Prop
  | .ok v => Q (k.element.toAtom v)
  | .error (.failed _) => False
  | .error _ => True

/-- The effect succeeds on every machine that has the property, and keeps it. -/
def Effect.Keeping (Q : Atom → Prop) (m₀ : Machine χ) (e : Effect χ) : Prop :=
  ∀ m, m.Kept Q m₀ → (e m).2 = .ok () ∧ (e m).1.Kept Q m₀

variable {Q : Atom → Prop} {m₀ : Machine χ}

theorem keeping_always {f : Machine χ → Machine χ} (h : ∀ m, m.Kept Q m₀ → (f m).Kept Q m₀) :
    (Effect.always f).Keeping Q m₀ := fun m hm => ⟨rfl, h m hm⟩

theorem Machine.takeAll_induction {P : Machine χ → Prop} {peek : Bool}
    (take : ∀ m k, P m → P (m.take k peek).2) {m : Machine χ} (h : P m) (ks : List Kind) :
    P (m.takeAll peek ks).2 := by
  induction ks with
  | nil => exact h
  | cons k ks ih =>
    unfold takeAll
    rcases hrest : m.takeAll peek ks with ⟨_ | rest, m₁⟩
    · rw [hrest] at ih
      exact ih
    · rw [hrest] at ih
      have htop := take m₁ k ih
      dsimp only
      rcases htaken : m₁.take k peek with ⟨_ | v, m₂⟩ <;> rw [htaken] at htop
      · exact htop
      · exact htop

theorem Machine.Kept.takeAll {m : Machine χ} (h : m.Kept Q m₀) (peek : Bool) {ks : List Kind}
    (hks : .input ∉ ks) :
    (m.takeAll peek ks).2.Kept Q m₀ ∧
      ∀ operands, (m.takeAll peek ks).1 = some operands → operands.All Q ks := by
  induction ks with
  | nil => exact ⟨h, fun _ _ => trivial⟩
  | cons k ks ih =>
    -- The operands behind this one are taken first; it comes from the machine that they leave.
    obtain ⟨hkept, hall⟩ := ih fun hk => hks (List.mem_cons_of_mem _ hk)
    unfold Machine.takeAll
    rcases hrest : m.takeAll peek ks with ⟨_ | rest, m₁⟩
    · rw [hrest] at hkept
      exact ⟨hkept, by simp⟩
    · rw [hrest] at hkept hall
      obtain ⟨hkept, hQ⟩ := hkept.take (fun hk => hks (hk ▸ List.mem_cons_self)) peek (k := k)
      dsimp only
      rcases htop : m₁.take k peek with ⟨_ | v, m₂⟩
      · rw [htop] at hkept
        exact ⟨hkept, by simp⟩
      · rw [htop] at hkept hQ
        refine ⟨hkept, ?_⟩
        rintro _ ⟨⟩
        exact ⟨hQ v rfl, hall rest rfl⟩

theorem Closed.faultValue (hQ : Closed Q m₀) {k : Kind} {v : k.Item}
    (hv : k.faultValue? = some v) : Q (k.element.toAtom v) := by
  cases k with
  | integer => cases hv; exact hQ.integer 0
  | float => cases hv; exact hQ.float _ (by decide)
  | boolean => cases hv; exact hQ.boolean false
  | name | code | exec | input => cases hv

theorem Machine.Kept.push? (hQ : Closed Q m₀) {m : Machine χ} (h : m.Kept Q m₀) {out : Kind}
    (hout : out ≠ .input) {r : Except Fault out.Item} (hr : Allowed Q out r) :
    (m.push? out (resultOf out r)).Kept Q m₀ := by
  rcases r with (_ | _ | reason) | v
  · exact h
  · cases hv : out.faultValue? with
    | none => simpa [resultOf, hv, Machine.push?] using h
    | some v => simpa [resultOf, hv, Machine.push?] using h.push hout (hQ.faultValue hv)
  · exact hr.elim
  · exact h.push hout hr

theorem keeping_producing (hQ : Closed Q m₀) {ks : List Kind} (hks : .input ∉ ks) {out : Kind}
    (hout : out ≠ .input) (peek : Bool) {f : Callback χ ks out.Item}
    (hf : ∀ operands m, operands.All Q ks → m.Kept Q m₀ →
      (f operands m).1.Kept Q m₀ ∧ Allowed Q out (f operands m).2) :
    (producing ks out peek f).Keeping Q m₀ := by
  intro m hm
  obtain ⟨hkept, hall⟩ := hm.takeAll peek hks
  unfold producing
  rcases htake : m.takeAll peek ks with ⟨_ | operands, m₁⟩
  · rw [htake] at hkept
    exact ⟨rfl, hkept⟩
  · rw [htake] at hkept hall
    obtain ⟨hkept, hr⟩ := hf operands m₁ (hall operands rfl) hkept
    refine ⟨?_, hkept.push? hQ hout hr⟩
    dsimp only
    -- Faults are answered by a value or by nothing, unless the callback failed.
    rcases hresult : (f operands m₁).2 with (_ | _ | reason) | v
    · rfl
    · rfl
    · rw [hresult] at hr
      exact hr.elim
    · rfl

theorem keeping_calculating (hQ : Closed Q m₀) {ks : List Kind} (hks : .input ∉ ks) {out : Kind}
    (hout : out ≠ .input) {f : Operands ks → Except Fault out.Item}
    (hf : ∀ operands, operands.All Q ks → Allowed Q out (f operands)) :
    (calculating ks out f : Effect χ).Keeping Q m₀ :=
  keeping_producing hQ hks hout false fun operands _ hall hm => ⟨hm, hf operands hall⟩

theorem keeping_action {ks : List Kind} (hks : .input ∉ ks) (peek : Bool) {f : Callback χ ks Unit}
    (hf : ∀ operands m, operands.All Q ks → m.Kept Q m₀ →
      (f operands m).1.Kept Q m₀ ∧ (f operands m).2 = .ok ()) :
    (action ks peek f).Keeping Q m₀ := by
  intro m hm
  obtain ⟨hkept, hall⟩ := hm.takeAll peek hks
  unfold action
  rcases htake : m.takeAll peek ks with ⟨_ | operands, m₁⟩
  · rw [htake] at hkept
    exact ⟨rfl, hkept⟩
  · rw [htake] at hkept hall
    obtain ⟨hkept, hr⟩ := hf operands m₁ (hall operands rfl) hkept
    rcases hcall : f operands m₁ with ⟨m₂, result⟩
    rw [hcall] at hkept hr
    dsimp only at hr ⊢
    subst hr
    simp only [hcall]
    exact ⟨trivial, hkept⟩

end PushLang
