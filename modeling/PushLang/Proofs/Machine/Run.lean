import PushLang.Proofs.Builtin.Control
import PushLang.Proofs.Machine.Steps

namespace PushLang

variable {χ : Type} {Q : Atom → Prop} {m₀ : Machine χ}

theorem CodeOp.keeping (hQ : Closed Q m₀) (op : CodeOp) : (op.run : Effect χ).Keeping Q m₀ := by
  cases op with
  | quote => exact keeping_always fun m hm => hm.quoteCode
  | fromBoolean =>
    exact keeping_calculating hQ (by decide) (by decide) fun _ _ => hQ.boolean _
  | fromInteger =>
    exact keeping_calculating hQ (by decide) (by decide) fun _ _ => hQ.integer _
  | fromFloat =>
    exact keeping_calculating hQ (by decide) (by decide) fun _ hall => hall.1
  | noop => exact keeping_always fun m hm => hm
  | rand => exact keeping_action (by decide) false fun _ m _ hm => hm.pushRandomCode hQ

theorem ExecOp.kept (hQ : Closed Q m₀) (op : ExecOp) {m : Machine χ} (h : m.Kept Q m₀) :
    (op.apply m).Kept Q m₀ := by
  cases op with
  | k => exact h.execK
  | s => exact h.execS hQ
  | y => exact h.execY hQ
  | noop => exact h

theorem Machine.kept_true (m : Machine χ) : m.Kept (fun _ => True) m :=
  ⟨rfl, fun _ _ _ => trivial, fun _ _ _ => trivial, fun _ => .inl⟩

variable [Host χ]

theorem Builtin.keeping (hQ : Closed Q m₀) {b : Builtin}
    (hb : ∀ op, b = .input op → m₀.PusherKeeps Q) : (b.run : Effect χ).Keeping Q m₀ := by
  cases b with
  | stack k op => exact op.keeping k.2
  | index k op => exact op.keeping k.2
  | depth k => exact keeping_pushDepth hQ k
  | equal k => exact keeping_compareTop hQ k.2
  | define k => exact keeping_bindTop k.2.1
  | integer op => exact op.keeping hQ
  | float op => exact op.keeping hQ
  | boolean op => exact op.keeping hQ
  | nameQuote => exact keeping_always fun m hm => hm.quoteName
  | code op => exact op.keeping hQ
  | exec op => exact keeping_always fun m hm => op.kept hQ hm
  | branch d => exact keeping_always fun m hm => hm.chooseBranch d
  | loop d op => exact keeping_always fun m hm => op.kept hQ hm d
  | input op => exact keeping_always fun m hm => op.kept (hb op rfl) hm

theorem Builtin.setup_run {b : Builtin} {m : Machine χ} (hb : b.AsksNoHost m) :
    (b.run m).2 = .ok () ∧ (b.run m).1.setup = m.setup := by
  obtain ⟨hok, hkept⟩ := b.keeping (closed_true m)
    (fun op hop => (hb op hop).keeps (closed_true m)) m m.kept_true
  exact ⟨hok, hkept.setup⟩

theorem Machine.setup_pushInput {m : Machine χ} (h : m.OwnsPusher) (index : Nat) :
    (m.pushInput index).setup = m.setup := (h.keeps (closed_true m) m rfl m.kept_true index).setup

/-- A built-in or input instruction, or a constant with the property `Q`. -/
def Operation.Plain (Q : Atom → Prop) : Operation χ → Prop
  | .builtin _ => True
  | .input _ => True
  | .constant c => Q (c.kind.element.toAtom c.value)
  | .host _ => False

namespace Machine

/-- What the handle refers to, if it refers to anything. -/
def Denotes (m : Machine χ) (P : Operation χ → Prop) (g : Handle) : Prop :=
  ∀ op, m.operations[g.serial]? = some op → P op

/-- Every atom on the stacks and every bound value has the property `Q`, which the machine keeps. -/
structure Ready (Q : Atom → Prop) (m : Machine χ) : Prop where
  closed : Closed Q m
  pusher : m.PusherKeeps Q
  registered : ∀ (name : String) (g : Handle), m.instructions[name]? = some g →
    m.Denotes (Operation.Plain Q) g
  handled : ∀ g, Q (.instruction g) → m.Denotes (Operation.Plain Q) g
  stacked : ∀ k, ∀ v ∈ (m.stack k).down, Q (k.element.toAtom v)
  bound : ∀ (name : String) (c : Constant), m.bindings[name]? = some c →
    Q (c.kind.element.toAtom c.value)

end Machine

namespace Machine.Ready

variable {m m' : Machine χ}

theorem kept (h : m.Ready Q) : m.Kept Q m := ⟨rfl, h.stacked, h.bound, fun _ => .inl⟩

theorem of_kept (h : m.Ready Q) (hkept : m'.Kept Q m) : m'.Ready Q where
  closed := h.closed.congr (config_of_setup hkept.setup) (activeGenerators_of_setup hkept.setup)
  pusher m'' hm'' := h.pusher m'' (hm''.trans (clearStacks_of_setup hkept.setup))
  registered := by
    simp only [Denotes, operations_of_setup hkept.setup, instructions_of_setup hkept.setup]
    exact h.registered
  handled := by
    simp only [Denotes, operations_of_setup hkept.setup]
    exact h.handled
  stacked := hkept.stacked
  bound := hkept.bound

theorem of_keeping (h : m.Ready Q) {e : Effect χ} (he : e.Keeping Q m) :
    (e m).2 = .ok () ∧ (e m).1.Ready Q := ⟨(he m h.kept).1, h.of_kept (he m h.kept).2⟩

theorem setStack (h : m.Ready Q) {k : Kind} {s : Stack k.Item}
    (hs : ∀ v ∈ s.down, Q (k.element.toAtom v)) : (m.setStack k s).Ready Q where
  closed := h.closed.congr rfl rfl
  pusher := h.pusher
  registered := h.registered
  handled := h.handled
  stacked := stacked_setStack h.stacked hs
  bound := h.bound

theorem push (h : m.Ready Q) {k : Kind} {v : k.Item} (hv : Q (k.element.toAtom v)) :
    (m.push k v).Ready Q := by
  apply h.setStack
  intro w hw
  rcases List.mem_cons.mp hw with rfl | hw
  · exact hv
  · exact h.stacked k w hw

theorem next (h : m.Ready Q) {a : Atom} (hnext : m.next? = some (a, m')) : Q a ∧ m'.Ready Q := by
  obtain ⟨E, hdown, rfl⟩ := exists_of_next? hnext
  have hall := h.stacked .exec
  rw [hdown] at hall
  exact ⟨hall a List.mem_cons_self, h.of_kept ((h.kept.drop (by decide)).evaluated _)⟩

theorem run (h : m.Ready Q) {op : Operation χ} (hop : op.Plain Q) :
    (op.run m).2 = .ok () ∧ (op.run m).1.Ready Q := by
  cases op with
  | builtin b => exact h.of_keeping (b.keeping h.closed fun _ _ => h.pusher)
  | input index =>
    exact h.of_keeping (keeping_always fun m hm => hm.pushInput h.pusher index)
  | constant c => exact ⟨rfl, h.push hop⟩
  | host x => exact hop.elim

theorem invoke (h : m.Ready Q) {g : Handle} (hg : m.Denotes (Operation.Plain Q) g) :
    (invoke g m).2 = .ok () ∧ (invoke g m).1.Ready Q := by
  unfold Machine.invoke
  split
  · rename_i op hop
    exact h.run (hg op hop)
  · exact ⟨rfl, h⟩

theorem resolve (h : m.Ready Q) {name : String} (hname : Q (.name name)) :
    (resolve name m).2 = .ok () ∧ (resolve name m).1.Ready Q := by
  unfold Machine.resolve
  split
  · rename_i c hc
    exact ⟨rfl, h.push (h.bound name c hc)⟩
  · split
    · rename_i g hg
      exact h.invoke (h.registered name g hg)
    · exact ⟨rfl, h.push (k := .name) hname⟩

theorem dispatch (h : m.Ready Q) {a : Atom} (ha : Q a) :
    (dispatch a m).2 = .ok () ∧ (dispatch a m).1.Ready Q := by
  cases a with
  | program children =>
    refine ⟨rfl, h.setStack fun a hmem => ?_⟩
    rcases List.mem_append.mp hmem with hmem | hmem
    · exact h.closed.child children ha a hmem
    · exact h.stacked .exec a hmem
  | integer n => exact ⟨rfl, h.push (k := .integer) ha⟩
  | float x => exact ⟨rfl, h.push (k := .float) ha⟩
  | boolean b => exact ⟨rfl, h.push (k := .boolean) ha⟩
  | name s => exact h.resolve ha
  | instruction g => exact h.invoke (h.handled g ha)

theorem step (h : m.Ready Q) (budget : Nat) :
    (∃ k ≤ budget, (m.step budget).2 = .ok k) ∧ (m.step budget).1.Ready Q := by
  -- `Ready` is the invariant: it holds after an atom is taken and after it is carried out.
  obtain ⟨k, hk, hsteps, hready⟩ := step_induction (P := fun _ m => m.Ready Q)
    (fun _ _ _ _ h hnext => (h.next hnext).2.dispatch (h.next hnext).1) h budget
  exact ⟨⟨k, hk, hsteps⟩, hready⟩

end Machine.Ready

end PushLang
