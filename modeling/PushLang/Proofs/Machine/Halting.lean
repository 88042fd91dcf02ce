import PushLang.Proofs.Builtin.Rearranging
import PushLang.Proofs.Machine.Meaning
import PushLang.Proofs.Machine.Reference
import PushLang.Proofs.Program.Leaves
import PushLang.Scripted

namespace PushLang

open List

variable {χ : Type}

/-- The names of the instructions that copy pending code or bring other code to it. -/
def CopyingName (s : String) : Prop :=
  s ∈ ["exec.dup", "exec.yankdup", "exec.s", "exec.y", "exec.define", "code.if",
    "code.do*range", "code.do*count", "code.do*times",
    "exec.do*range", "exec.do*count", "exec.do*times"]

instance : DecidablePred CopyingName := fun _ => inferInstanceAs (Decidable (_ ∈ _))

theorem Program.points_perm {p q : Program} (h : p ~ q) : points p = points q := by
  induction h with
  | nil => rfl
  | cons a _ ih => rw [points_cons, points_cons, ih]
  | swap a b p =>
    simp only [points_cons]
    omega
  | trans _ _ ih ih' => exact ih.trans ih'

theorem Program.points_le_of_subperm {p q : Program} (h : p <+~ q) : points p ≤ points q := by
  obtain ⟨r, hperm, hsublist⟩ := h
  obtain ⟨rest, hrest⟩ := hsublist.exists_perm_append
  have happend := points_append r rest
  rw [← points_perm hrest, points_perm hperm] at happend
  omega

theorem Program.leaves_subset_of_subperm {p q : Program} (h : p <+~ q) : leaves p ⊆ leaves q := by
  intro l hl
  obtain ⟨a, ha, hl⟩ := mem_leaves.mp hl
  exact mem_leaves.mpr ⟨a, h.subset ha, hl⟩

/-- What is pending after the effect was pending before it, at least as often, unless the host hands
on the inputs. -/
def Effect.BringsNoCode (e : Effect χ) : Prop :=
  ∀ m : Machine χ, m.OwnsPusher → ((e m).1.stack .exec).down <+~ (m.stack .exec).down

theorem bringsNoCode_indexOp {op : IndexOp} (hop : op ≠ .yankDup) :
    (op.run .exec : Effect χ).BringsNoCode := by
  intro m _
  simp only [IndexOp.run, action, Machine.takeAll, Machine.take]
  cases (m.stack .integer).top? with
  | none => exact .refl _
  | some n => exact IndexOp.apply_subperm hop (m.stack .exec) n

theorem bringsNoCode_comparePair : (comparePair .exec : Effect χ).BringsNoCode := by
  intro m _
  simp only [comparePair, Effect.always]
  split
  · rename_i a b rest hdown
    rw [hdown]
    exact (drop_sublist 2 (a :: b :: rest)).subperm
  · exact .refl _

theorem quoteName_subperm (m : Machine χ) :
    ((quoteName m).stack .exec).down <+~ (m.stack .exec).down := by
  unfold quoteName
  split
  · exact (tail_sublist _).subperm
  · exact .refl _

theorem quoteCode_subperm (m : Machine χ) :
    ((quoteCode m).stack .exec).down <+~ (m.stack .exec).down := by
  unfold quoteCode
  split
  · exact (tail_sublist _).subperm
  · exact .refl _

theorem execK_subperm (m : Machine χ) :
    ((execK m).stack .exec).down <+~ (m.stack .exec).down := by
  unfold execK
  split
  · rename_i a b rest hdown
    rw [hdown]
    exact ((sublist_cons_self b rest).cons_cons a).subperm
  · exact .refl _

theorem chooseBranch_subperm (m : Machine χ) :
    ((chooseBranch .exec m).stack .exec).down <+~ (m.stack .exec).down := by
  unfold chooseBranch
  split
  · rename_i condition _ first second rest _ hdown
    have hdown : (m.stack .exec).down = first :: second :: rest := hdown
    rw [hdown]
    cases condition with
    | false => exact (sublist_cons_self first (second :: rest)).subperm
    | true => exact ((sublist_cons_self second rest).cons_cons first).subperm
  · exact .refl _

theorem bringsNoCode_of_parts [Host χ] {op : Operation χ} {P : List Part} (hP : op.parts? = some P)
    (hexec : .stack .exec ∉ P) : op.run.BringsNoCode := by
  intro m hm
  rw [Operation.stack_run hP hm hexec]

/-- The instructions that are not named either leave the pending code alone or take from it. -/
theorem Builtin.bringsNoCode [Host χ] {b : Builtin} (hb : ¬ CopyingName b.name) :
    (Operation.builtin b : Operation χ).run.BringsNoCode := by
  -- Only the instructions on the pending code itself need a look.
  have hother : .stack .exec ∉ b.parts → (Operation.builtin b : Operation χ).run.BringsNoCode :=
    bringsNoCode_of_parts rfl
  cases b with
  | stack k op =>
    obtain ⟨k, hinput⟩ := k
    by_cases hk : k = .exec
    · subst hk
      refine fun m _ => op.apply_subperm ?_ _
      rintro rfl
      exact hb (show CopyingName (Kind.exec.named "dup") by decide +kernel)
    · exact hother (by simpa [parts] using Ne.symm hk)
  | index k op =>
    obtain ⟨k, hinput⟩ := k
    by_cases hk : k = .exec
    · subst hk
      refine bringsNoCode_indexOp ?_
      rintro rfl
      exact hb (show CopyingName (Kind.exec.named "yankdup") by decide +kernel)
    · exact hother (by simpa [parts] using Ne.symm hk)
  | depth k =>
    by_cases hk : k = .exec
    · subst hk
      exact fun _ _ => .refl _
    · exact hother (by simpa [parts] using Ne.symm hk)
  | equal k =>
    obtain ⟨k, hinput⟩ := k
    by_cases hk : k = .exec
    · subst hk
      exact bringsNoCode_comparePair
    · exact hother (by simpa [parts] using Ne.symm hk)
  | define k =>
    obtain ⟨k, hinput⟩ := k
    by_cases hk : k = .exec
    · subst hk
      exact absurd (show CopyingName (Kind.exec.named "define") by decide +kernel) hb
    · exact hother (by simpa [parts] using Ne.symm hk)
  | integer op => exact hother (show _ ∉ Part.arithmetic by decide)
  | float op => exact hother (show _ ∉ Part.arithmetic by decide)
  | boolean op => exact hother (show _ ∉ Part.arithmetic by decide)
  | input op => exact hother (show _ ∉ Part.inputs by decide)
  | nameQuote => exact fun m _ => quoteName_subperm m
  | code op =>
    cases op with
    | quote => exact fun m _ => quoteCode_subperm m
    | fromBoolean | fromInteger | fromFloat | noop | rand => exact hother (by decide)
  | exec op =>
    cases op with
    | k => exact fun m _ => execK_subperm m
    | s | y => exact absurd (by decide +kernel) hb
    | noop => exact hother (by decide)
  | branch d =>
    cases d with
    | code => exact absurd (by decide +kernel) hb
    | exec => exact fun m _ => chooseBranch_subperm m
  | loop d op => cases d <;> cases op <;> exact absurd (by decide +kernel) hb

theorem Operation.Avoids.bringsNoCode [Host χ] {op : Operation χ} (hop : op.Avoids CopyingName) :
    op.run.BringsNoCode := by
  cases op with
  | builtin b => exact Builtin.bringsNoCode hop
  | input index => exact bringsNoCode_of_parts rfl (by decide)
  | constant c =>
    have hkind : c.kind ≠ .exec := hop
    exact bringsNoCode_of_parts rfl (by simpa using hkind.symm)
  | host x => exact hop.elim

namespace Machine

theorem OwnsPusher.paused {m : Machine χ} (h : m.OwnsPusher) (E : List Atom) (n : Nat) :
    (m.paused E n).OwnsPusher := h

theorem IsWellNamed.paused {m : Machine χ} (h : m.IsWellNamed) (E : List Atom) (n : Nat) :
    (m.paused E n).IsWellNamed := h.congr rfl rfl

theorem BindsNoExec.paused {m : Machine χ} (h : m.BindsNoExec) (E : List Atom) (n : Nat) :
    (m.paused E n).BindsNoExec := h

/-- Nothing that is pending copies pending code or brings other code to it. -/
structure IsCopyFree (m : Machine χ) : Prop where
  pusher : m.OwnsPusher
  named : m.IsWellNamed
  bound : m.BindsNoExec
  avoids : ∀ l ∈ Program.leaves (m.stack .exec).down, m.Avoids CopyingName l

/-- The number of nodes of the pending code. -/
def pendingPoints (m : Machine χ) : Nat := Program.points (m.stack .exec).down

namespace IsCopyFree

variable {m m' : Machine χ}

theorem of_subset (h : m.IsCopyFree) (hpusher : m'.pusher = m.pusher)
    (hoperations : m'.operations = m.operations)
    (hinstructions : m'.instructions = m.instructions) (hbound : m'.BindsNoExec)
    (hleaves : Program.leaves (m'.stack .exec).down ⊆ Program.leaves (m.stack .exec).down) :
    m'.IsCopyFree where
  pusher := by
    rw [OwnsPusher, hpusher]
    exact h.pusher
  named := h.named.congr hoperations hinstructions
  bound := hbound
  avoids l hl := (h.avoids l (hleaves hl)).congr hoperations

theorem expand (h : m.IsCopyFree) {p : Program} {E : List Atom}
    (hexec : (m.stack .exec).down = .program p :: E) (n : Nat) :
    (m.paused (p ++ E) n).IsCopyFree ∧
      (m.paused (p ++ E) n).pendingPoints + 1 = m.pendingPoints := by
  have hpending : ((m.paused (p ++ E) n).stack .exec).down = p ++ E := rfl
  constructor
  · refine h.of_subset rfl rfl rfl (h.bound.paused _ n) ?_
    rw [hpending, hexec, Program.leaves_append, Program.leaves_cons, Atom.leaves_program]
    exact Subset.refl _
  · rw [pendingPoints, pendingPoints, hpending, hexec, Program.points_append, Program.points_cons,
      Atom.points_program]
    omega

variable [Host χ]

theorem dispatch_leaf (h : m.IsCopyFree) {a : Atom} {E : List Atom} (hleaf : a.isProgram = false)
    (hexec : (m.stack .exec).down = a :: E) (n : Nat) :
    (dispatch a (m.paused E n)).2 = .ok () ∧ (dispatch a (m.paused E n)).1.IsCopyFree ∧
      (dispatch a (m.paused E n)).1.pendingPoints + 1 ≤ m.pendingPoints := by
  have ha : m.Avoids CopyingName a := by
    apply h.avoids
    rw [hexec, Program.leaves_cons, Atom.leaves_of_isProgram_eq_false hleaf]
    exact mem_cons_self
  obtain ⟨op, hmeaning, hop⟩ :=
    exists_meaning? (h.named.paused E n) (h.bound.paused E n) hleaf (ha.congr rfl)
  obtain ⟨P, hP⟩ := hop.exists_parts
  have hpaused : (m.paused E n).OwnsPusher := h.pusher
  obtain ⟨hok, hoperations, hinstructions, hpusher⟩ := Operation.run_registry hP hpaused
  have hsubperm : ((op.run (m.paused E n)).1.stack .exec).down <+~ E :=
    hop.bringsNoCode (m.paused E n) hpaused
  rw [dispatch_of_meaning? hmeaning]
  refine ⟨hok, h.of_subset hpusher hoperations hinstructions ?_ ?_, ?_⟩
  · exact hop.bindsNoExec (by decide +kernel) hpaused (h.bound.paused E n)
  · rw [hexec, Program.leaves_cons]
    exact Subset.trans (Program.leaves_subset_of_subperm hsubperm) (subset_append_right _ _)
  · have hpoints := Program.points_le_of_subperm hsubperm
    rw [pendingPoints, pendingPoints, hexec, Program.points_cons]
    omega

/-- Carrying out the next atom takes a node away, and the machine stays free of copies. -/
theorem dispatch_next (h : m.IsCopyFree) {a : Atom} {E : List Atom}
    (hexec : (m.stack .exec).down = a :: E) (n : Nat) :
    (dispatch a (m.paused E n)).2 = .ok () ∧ (dispatch a (m.paused E n)).1.IsCopyFree ∧
      (dispatch a (m.paused E n)).1.pendingPoints + 1 ≤ m.pendingPoints := by
  cases a with
  | program p =>
    obtain ⟨hfree, hpoints⟩ := h.expand hexec n
    exact ⟨rfl, hfree, hpoints.le⟩
  | integer i | float x | boolean b | name s | instruction g => exact h.dispatch_leaf rfl hexec n

theorem step (h : m.IsCopyFree) {n : Nat} (hn : m.pendingPoints ≤ n) :
    ∃ k ≤ m.pendingPoints, (m.step n).2 = .ok k ∧ ((m.step n).1.stack .exec).down = [] := by
  -- On the budget, which stays at least the number of nodes as both fall with each atom.
  induction n generalizing m with
  | zero =>
    cases hexec : (m.stack .exec).down with
    | nil => exact ⟨0, Nat.zero_le _, rfl, hexec⟩
    | cons a E =>
      rw [pendingPoints, hexec, Program.points_cons] at hn
      omega
  | succ n ih =>
    cases hexec : (m.stack .exec).down with
    | nil =>
      rw [Machine.step, stepsFrom_of_next?_none (next?_of_exec_nil hexec)]
      exact ⟨0, Nat.zero_le _, rfl, hexec⟩
    | cons a E =>
      obtain ⟨hok, hfree, hpoints⟩ := h.dispatch_next hexec (m.evaluations + 1)
      rcases hdispatch : dispatch a (m.paused E (m.evaluations + 1)) with ⟨m', result⟩
      rw [hdispatch] at hok hfree hpoints
      dsimp only at hok hfree hpoints
      subst hok
      obtain ⟨k, hk, hrest, hempty⟩ := ih hfree (by omega)
      have hone : m.step 1 = (m', .ok 1) := step_one (next?_of_exec hexec) hdispatch
      rw [Nat.add_comm, step_add_of_ok hone, hrest]
      exact ⟨1 + k, by omega, rfl, hempty⟩

end IsCopyFree

variable [Host χ]

/-- Pending code that neither copies pending code nor brings other code to it runs to its end, in
at most as many steps as it has nodes, whatever else is in the machine. -/
theorem halts_without_copying {m : Machine χ} (hpusher : m.OwnsPusher)
    (hnamed : m.IsWellNamed) (hbound : m.BindsNoExec)
    (h : ∀ l ∈ Program.leaves (m.stack .exec).down, m.Avoids CopyingName l) {n : Nat}
    (hn : Program.points (m.stack .exec).down ≤ n) :
    ∃ k ≤ Program.points (m.stack .exec).down,
      (m.step n).2 = .ok k ∧ ((m.step n).1.stack .exec).down = [] :=
  IsCopyFree.step ⟨hpusher, hnamed, hbound, h⟩ hn

/-- A choice between two programs, the second of which drops the code behind it, on a new machine. -/
theorem halts_without_copying_new :
    let E : List Atom := [.boolean false, .name "exec.if", .program [.integer 1, .integer 2],
      .program [.name "exec.k", .name "x"], .name "exec.flush"]
    let m : Machine Scripted := Machine.paused (.new {} (.script [])) E 0
    m.OwnsPusher ∧ m.IsWellNamed ∧ m.BindsNoExec ∧
      (∀ l ∈ Program.leaves E, m.Avoids CopyingName l) ∧
      ∃ k ≤ 9, (m.step 1000).2 = .ok k ∧ ((m.step 1000).1.stack .exec).down = [] := by
  intro E m
  have hpusher : m.OwnsPusher := (ownsPusher_new {} _).paused E 0
  have hnamed : m.IsWellNamed := (isWellNamed_new {} _).paused E 0
  have hbound : m.BindsNoExec := (bindsNoExec_new {} _).paused E 0
  have hpoints : Program.points E = 9 := by simp [E, Atom.points]
  have hE : ∀ l ∈ Program.leaves E, m.Avoids CopyingName l := by
    intro l hl
    simp only [E, Program.leaves_cons, Program.leaves_nil, Atom.leaves, cons_append, nil_append,
      mem_cons, not_mem_nil, or_false] at hl
    rcases hl with rfl | rfl | rfl | rfl | rfl | rfl | rfl
    · trivial
    · exact show ¬ CopyingName "exec.if" by decide +kernel
    · trivial
    · trivial
    · exact show ¬ CopyingName "exec.k" by decide +kernel
    · exact show ¬ CopyingName "x" by decide +kernel
    · exact show ¬ CopyingName "exec.flush" by decide +kernel
  refine ⟨hpusher, hnamed, hbound, hE, ?_⟩
  rw [← hpoints]
  exact halts_without_copying hpusher hnamed hbound hE (show Program.points E ≤ 1000 by omega)

end Machine

end PushLang
