import PushLang.Proofs.Machine.Meaning
import PushLang.Proofs.Machine.Reference
import PushLang.Proofs.Program.Leaves
import PushLang.Scripted

namespace PushLang

variable {χ : Type}

/-- The names of the instructions that work on the pending code. -/
def ControlName (s : String) : Prop :=
  "exec.".toList <+: s.toList ∨
    s ∈ ["code.quote", "code.if", "code.do*range", "code.do*count", "code.do*times", "name.quote"]

instance : DecidablePred ControlName := fun _ => inferInstanceAs (Decidable (_ ∨ _))

theorem controlName_exec (label : String) : ControlName (Kind.exec.named label) := by
  refine .inl ⟨label.toList, ?_⟩
  simp [Kind.named, Kind.label]

theorem Builtin.controlName_of_mem_parts {b : Builtin} (h : .stack .exec ∈ b.parts) :
    ControlName b.name := by
  have hexec : ∀ k : Kind, .stack .exec ∈ [Part.stack k] → k = .exec := by
    intro k hk
    cases List.mem_singleton.mp hk
    rfl
  cases b with
  | stack k op => rw [name, hexec k h]; exact controlName_exec _
  | index k op | depth k | equal k | define k =>
    simp only [parts, List.mem_cons, Part.stack.injEq, reduceCtorEq, List.not_mem_nil, or_false,
      false_or] at h
    rw [name, ← h]
    exact controlName_exec _
  | integer op | float op | boolean op => exact absurd h (show _ ∉ Part.arithmetic by decide)
  | input op => exact absurd h (show _ ∉ Part.inputs by decide)
  | nameQuote => decide +kernel
  | code op =>
    cases op with
    | quote => decide +kernel
    | fromBoolean | fromInteger | fromFloat | noop | rand => exact absurd h (by decide)
  | exec op => exact controlName_exec _
  | branch d => cases d <;> decide +kernel
  | loop d op => cases d <;> cases op <;> decide +kernel

theorem Operation.Avoids.exec_not_mem {op : Operation χ} {P : List Part}
    (hop : op.Avoids ControlName) (hP : op.parts? = some P) : .stack .exec ∉ P := by
  intro hexec
  cases op with
  | builtin b => cases hP; exact hop (Builtin.controlName_of_mem_parts hexec)
  | input index => cases hP; exact absurd hexec (by decide)
  | constant c =>
    cases hP
    exact hop (Part.stack.inj (List.mem_singleton.mp hexec)).symm
  | host x => exact hop

theorem frame_paused {P : List Part} (hP : .stack .exec ∉ P) (E : List Atom) (n : Nat) :
    Frame P fun m : Machine χ => m.paused E n :=
  (frame_evaluations n).comp (frame_setStack hP ⟨E⟩)

/-- What the stack of a kind receives from an atom that is a literal of it. -/
def Kind.literal? : (k : Kind) → Atom → Option k.Item
  | .integer, a => Element.integer.ofAtom? a
  | .float, a => Element.float.ofAtom? a
  | .boolean, a => Element.boolean.ofAtom? a
  | .name, a => Element.name.ofAtom? a
  | .code, _ => none
  | .exec, _ => none
  | .input, _ => none

namespace Machine

/-- The atom is a literal, or a name that nothing is known by. -/
def IsInert (m : Machine χ) : Atom → Prop
  | .integer _ => True
  | .float _ => True
  | .boolean _ => True
  | .name s => m.bindings[s]? = none ∧ m.instructions[s]? = none
  | .instruction _ => False
  | .program _ => False

theorem IsInert.push {m : Machine χ} {l : Atom} (h : m.IsInert l) (k : Kind) (v : k.Item) :
    (m.push k v).IsInert l := by
  cases l <;> exact h

/-- The atoms can be carried out without regard to the pending code. -/
structure Performs (m : Machine χ) (ls : List Atom) : Prop where
  pusher : m.OwnsPusher
  named : m.IsWellNamed
  bound : m.BindsNoExec
  leaf : ∀ l ∈ ls, l.isProgram = false
  avoids : ∀ l ∈ ls, m.Avoids ControlName l

theorem meaning?_paused (m : Machine χ) (E : List Atom) (n : Nat) (l : Atom) :
    (m.paused E n).meaning? l = m.meaning? l := by
  cases l <;> rfl

namespace Performs

variable {m : Machine χ} {l : Atom} {ls ls' : List Atom}

theorem mono (h : m.Performs ls) (hsubset : ls' ⊆ ls) : m.Performs ls' :=
  ⟨h.pusher, h.named, h.bound, fun l hl => h.leaf l (hsubset hl),
    fun l hl => h.avoids l (hsubset hl)⟩

theorem exists_operation (h : m.Performs ls) (hl : l ∈ ls) :
    ∃ op P, m.meaning? l = some op ∧ op.Avoids ControlName ∧ op.parts? = some P := by
  obtain ⟨op, hmeaning, hop⟩ := exists_meaning? h.named h.bound (h.leaf l hl) (h.avoids l hl)
  obtain ⟨P, hP⟩ := hop.exists_parts
  exact ⟨op, P, hmeaning, hop, hP⟩

end Performs

variable [Host χ]

/-- The machine after the atoms are carried out one after the other. -/
def performAll (m : Machine χ) (ls : List Atom) : Machine χ :=
  ls.foldl (fun m l => (dispatch l m).1) m

/-- With the code `E` pending the machine `D` gets, in exactly `k` steps and without a failure, to
be the machine `D'` with the code `E'` pending, and the steps are counted. -/
def LeadsIn (k : Nat) (D : Machine χ) (E : List Atom) (D' : Machine χ) (E' : List Atom) : Prop :=
  ∀ n, (D.paused E n).step k = (D'.paused E' (n + k), .ok k)

section

variable {D D' D'' : Machine χ} {E E' E'' : List Atom} {k l : Nat}

theorem LeadsIn.trans (h : LeadsIn k D E D' E') (h' : LeadsIn l D' E' D'' E'') :
    LeadsIn (k + l) D E D'' E'' := by
  intro n
  rw [step_add_of_ok (h n), h', ← Nat.add_assoc]
  rfl

theorem LeadsIn.single {a : Atom}
    (h : ∀ n, dispatch a (D.paused E n) = (D'.paused E' n, .ok ())) :
    LeadsIn 1 D (a :: E) D' E' := by
  intro n
  exact step_one (next?_paused D a E n) (h (n + 1))

end

namespace Performs

variable {D : Machine χ} {l : Atom} {ls ls' : List Atom}

/-- A leaf has the same effect whatever the code behind it is. -/
theorem leadsIn_dispatch (h : D.Performs ls) (hl : l ∈ ls) (E : List Atom) :
    LeadsIn 1 D (l :: E) (dispatch l D).1 E := by
  obtain ⟨op, P, hmeaning, hop, hP⟩ := h.exists_operation hl
  apply LeadsIn.single
  intro n
  rw [dispatch_of_meaning? ((meaning?_paused D E n l).trans hmeaning),
    dispatch_of_meaning? hmeaning,
    Operation.commutes hP h.pusher (frame_paused (hop.exec_not_mem hP) E n),
    (Operation.run_registry hP h.pusher).1]

theorem dispatch (h : D.Performs ls) (hl : l ∈ ls) : (dispatch l D).1.Performs ls := by
  obtain ⟨op, P, hmeaning, hop, hP⟩ := h.exists_operation hl
  obtain ⟨-, hoperations, hinstructions, hpusher⟩ := Operation.run_registry hP h.pusher
  rw [dispatch_of_meaning? hmeaning]
  refine ⟨?_, h.named.congr hoperations hinstructions,
    hop.bindsNoExec (by decide +kernel) h.pusher h.bound, h.leaf,
    fun l hl => (h.avoids l hl).congr hoperations⟩
  rw [OwnsPusher, hpusher]
  exact h.pusher

theorem performAll (h : D.Performs ls) (hsubset : ls' ⊆ ls) :
    (D.performAll ls').Performs ls := by
  induction ls' generalizing D with
  | nil => exact h
  | cons l ls' ih =>
    obtain ⟨hl, hsubset⟩ := List.cons_subset.mp hsubset
    exact ih (h.dispatch hl) hsubset

end Performs

theorem performAll_append (D : Machine χ) (ls ls' : List Atom) :
    D.performAll (ls ++ ls') = (D.performAll ls).performAll ls' := List.foldl_append

theorem leadsIn_children {p : Program}
    (hchildren : ∀ a ∈ p, ∀ D : Machine χ, D.Performs a.leaves → ∀ E,
      LeadsIn (1 + a.points) D (a :: E) (D.performAll a.leaves) E)
    {D : Machine χ} (h : D.Performs (Program.leaves p)) (E : List Atom) :
    LeadsIn (Program.points p) D (p ++ E) (D.performAll (Program.leaves p)) E := by
  induction p generalizing D with
  | nil => exact fun n => by simp [step, stepsFrom, performAll]
  | cons a p ih =>
    rw [Program.leaves_cons] at h ⊢
    rw [Program.points_cons, performAll_append]
    have hfirst := hchildren a List.mem_cons_self D (h.mono (List.subset_append_left _ _)) (p ++ E)
    have hrest := (h.performAll (List.subset_append_left _ _)).mono (List.subset_append_right _ _)
    exact hfirst.trans (ih (fun b hb => hchildren b (List.mem_cons_of_mem _ hb)) hrest)

theorem leadsIn_tree (a : Atom) : ∀ D : Machine χ, D.Performs a.leaves → ∀ E,
    LeadsIn (1 + a.points) D (a :: E) (D.performAll a.leaves) E := by
  -- On the tree, for any machine and any code behind it: the siblings are run from the machine that
  -- the nodes before them leave.
  induction a using Atom.tree_induction with
  | leaf a ha =>
    intro D h E
    rw [Atom.leaves_of_isProgram_eq_false ha] at h ⊢
    rw [Atom.points_of_isProgram_eq_false ha]
    exact h.leadsIn_dispatch (List.mem_singleton_self a) E
  | program p ih =>
    intro D h E
    rw [Atom.leaves_program] at h ⊢
    rw [Atom.points_program]
    have hexpand : LeadsIn 1 D (.program p :: E) D (p ++ E) := .single fun _ => rfl
    exact hexpand.trans (leadsIn_children ih h E)

theorem dispatch_inert {D : Machine χ} {l : Atom} (h : D.IsInert l) :
    ∃ c : Constant, dispatch l D = (D.push c.kind c.value, .ok ()) ∧
      ∀ k, ((D.push c.kind c.value).stack k).toList =
        (D.stack k).toList ++ (k.literal? l).toList := by
  have hpush : ∀ (kind : Kind) (v : kind.Item), kind ∉ [.code, .exec, .input] →
      kind.element.toAtom v = l → ∀ k, ((D.push kind v).stack k).toList =
        (D.stack k).toList ++ (k.literal? l).toList := by
    rintro kind v hkind rfl k
    cases kind with
    | code | exec | input => simp at hkind
    | integer | float | boolean | name =>
      cases k <;> simp [push, stack_setStack_of_ne, Stack.push, Stack.toList, Kind.literal?,
        Element.toAtom, Element.ofAtom?]
  cases l with
  | integer n => exact ⟨⟨.integer, n⟩, rfl, hpush .integer n (by decide) rfl⟩
  | float x => exact ⟨⟨.float, x⟩, rfl, hpush .float x (by decide) rfl⟩
  | boolean b => exact ⟨⟨.boolean, b⟩, rfl, hpush .boolean b (by decide) rfl⟩
  | name s =>
    refine ⟨⟨.name, s⟩, ?_, hpush .name s (by decide) rfl⟩
    simp only [dispatch, resolve, h.1, h.2]
  | instruction handle | program p => exact h.elim

theorem performAll_inert {D : Machine χ} {ls : List Atom} (h : ∀ l ∈ ls, D.IsInert l) (k : Kind) :
    ((D.performAll ls).stack k).toList = (D.stack k).toList ++ ls.filterMap k.literal? := by
  induction ls generalizing D with
  | nil => simp [performAll]
  | cons l ls ih =>
    obtain ⟨c, hdispatch, hstack⟩ := dispatch_inert (h l List.mem_cons_self)
    have hrest : ∀ l' ∈ ls, (D.push c.kind c.value).IsInert l' :=
      fun l' hl' => (h l' (List.mem_cons_of_mem _ hl')).push c.kind c.value
    rw [performAll, List.foldl_cons, hdispatch, ← performAll, ih hrest, hstack, List.append_assoc,
      List.filterMap_cons]
    cases k.literal? l <;> rfl

/-- A program whose leaves leave the pending code alone takes one step for each node, comes back to
the code behind it, and has the effect of its leaves from left to right; so does every program with
the same leaves. If they are literals and unknown names, each goes to the stack of its kind. -/
theorem nesting_is_sequencing {D : Machine χ} (hpusher : D.OwnsPusher) (hnamed : D.IsWellNamed)
    (hbound : D.BindsNoExec) {p : Program} (hp : ∀ l ∈ Program.leaves p, D.Avoids ControlName l) :
    (∀ E, LeadsIn (1 + Program.points p) D (.program p :: E)
        (D.performAll (Program.leaves p)) E) ∧
      (∀ q, Program.leaves q = Program.leaves p → ∀ E,
        LeadsIn (1 + Program.points q) D (.program q :: E)
          (D.performAll (Program.leaves p)) E) ∧
      ((∀ l ∈ Program.leaves p, D.IsInert l) → ∀ k,
        ((D.performAll (Program.leaves p)).stack k).toList =
          (D.stack k).toList ++ (Program.leaves p).filterMap k.literal?) := by
  have hsame : ∀ q, Program.leaves q = Program.leaves p → ∀ E,
      LeadsIn (1 + Program.points q) D (.program q :: E) (D.performAll (Program.leaves p)) E := by
    intro q hq E
    rw [← hq, ← Atom.leaves_program, ← Atom.points_program]
    refine leadsIn_tree (.program q) D ⟨hpusher, hnamed, hbound, ?_, ?_⟩ E
    · exact fun l hl => Atom.isProgram_of_mem_leaves hl
    · intro l hl
      rw [Atom.leaves_program, hq] at hl
      exact hp l hl
  exact ⟨hsame p rfl, hsame, fun hinert k => performAll_inert hinert k⟩

/-- An addition in nested code, in front of an instruction that is not run. -/
theorem nesting_is_sequencing_new :
    let D : Machine Scripted := .new {} (.script [])
    let p : Program := [.integer 1, .program [.integer 2, .program [.name "integer.+"]]]
    let ls : List Atom := [.integer 1, .integer 2, .name "integer.+"]
    D.OwnsPusher ∧ D.IsWellNamed ∧ D.BindsNoExec ∧ Program.leaves p = ls ∧
      (∀ l ∈ ls, D.Avoids ControlName l) ∧
      LeadsIn 6 D [.program p, .name "exec.dup"] (D.performAll ls) [.name "exec.dup"] := by
  intro D p ls
  have hleaves : Program.leaves p = ls := by simp [p, ls, Atom.leaves]
  have hpoints : 1 + Program.points p = 6 := by simp [p, Atom.points]
  have hls : ∀ l ∈ ls, D.Avoids ControlName l := by
    intro l hl
    simp only [ls, List.mem_cons, List.not_mem_nil, or_false] at hl
    rcases hl with rfl | rfl | rfl
    · trivial
    · trivial
    · exact show ¬ ControlName "integer.+" by decide +kernel
  have hpusher : D.OwnsPusher := ownsPusher_new {} _
  have hnamed : D.IsWellNamed := isWellNamed_new {} _
  have hbound : D.BindsNoExec := bindsNoExec_new {} _
  refine ⟨hpusher, hnamed, hbound, hleaves, hls, ?_⟩
  rw [← hpoints, ← hleaves]
  exact (nesting_is_sequencing hpusher hnamed hbound (hleaves ▸ hls)).1 _

end Machine

end PushLang
