import Mathlib.Data.List.MinMax
import PushLang.Proofs.Machine.Reference
import PushLang.Scripted

namespace PushLang

variable {χ : Type}

mutual

/-- The programs in an atom, itself included, at any depth. -/
def Atom.programs : Atom → List Program
  | .program p => p :: Program.programsWithin p
  | _ => []

def Program.programsWithin : List Atom → List Program
  | [] => []
  | a :: rest => a.programs ++ Program.programsWithin rest

end

theorem Program.mem_programsWithin {p q : Program} :
    q ∈ programsWithin p ↔ ∃ a ∈ p, q ∈ a.programs := by
  induction p with
  | nil => simp [programsWithin]
  | cons a p ih => simp [programsWithin, ih]

@[simp] theorem Atom.mem_programs_program {p q : Program} :
    q ∈ (Atom.program p).programs ↔ q = p ∨ ∃ a ∈ p, q ∈ a.programs := by
  simp [Atom.programs, Program.mem_programsWithin]

theorem Atom.programs_of_isProgram_eq_false {a : Atom} (h : a.isProgram = false) :
    a.programs = [] := by
  cases a with
  | program p => cases h
  | integer n | float x | boolean b | name s | instruction handle => rw [programs]; rintro p ⟨⟩

/-- No program in the atom has more than `bound` points. -/
def Atom.Within (bound : Nat) (a : Atom) : Prop := ∀ q ∈ a.programs, Program.points q ≤ bound

theorem Atom.within_of_isProgram_eq_false {a : Atom} (h : a.isProgram = false) (bound : Nat) :
    a.Within bound := by
  intro q hq
  rw [programs_of_isProgram_eq_false h] at hq
  cases hq

theorem Atom.within_program {bound : Nat} {p : Program} (hpoints : Program.points p ≤ bound)
    (hp : ∀ a ∈ p, a.Within bound) : (Atom.program p).Within bound := by
  intro q hq
  rcases mem_programs_program.mp hq with rfl | ⟨a, ha, hq⟩
  · exact hpoints
  · exact hp a ha q hq

namespace Machine

def programs (m : Machine χ) : List Program := m.atoms.flatMap Atom.programs

/-- The largest of the limits on code and of the sizes of the programs in the machine. -/
def codeBound (m : Machine χ) : Nat :=
  (m.config.maxPoints :: m.config.maxRandomSize :: 1 :: m.programs.map Program.points).foldr max 0

theorem points_le_codeBound {m : Machine χ} {q : Program} (hq : q ∈ m.programs) :
    Program.points q ≤ m.codeBound := by
  apply List.le_max_of_le' 0 _ le_rfl
  simp only [List.mem_cons]
  exact .inr (.inr (.inr (List.mem_map_of_mem hq)))

theorem limits_le_codeBound (m : Machine χ) :
    max (max m.config.maxPoints m.config.maxRandomSize) 1 ≤ m.codeBound := by
  simp only [codeBound, List.foldr_cons]
  omega

theorem closed_within {m : Machine χ} {bound : Nat}
    (h : max (max m.config.maxPoints m.config.maxRandomSize) 1 ≤ bound) :
    Closed (Atom.Within bound) m where
  integer _ := Atom.within_of_isProgram_eq_false rfl bound
  boolean _ := Atom.within_of_isProgram_eq_false rfl bound
  float _ _ := Atom.within_of_isProgram_eq_false rfl bound
  sampled _ := Atom.within_of_isProgram_eq_false rfl bound
  generated _ _ := Atom.within_of_isProgram_eq_false rfl bound
  helper _ _ := Atom.within_of_isProgram_eq_false rfl bound
  child _ hp a ha q hq := hp q (Atom.mem_programs_program.mpr (.inr ⟨a, ha, hq⟩))
  built _ hp hpoints := Atom.within_program (hpoints.trans h) hp

theorem within_of_mem_atoms {m : Machine χ} {a : Atom} (ha : a ∈ m.atoms) :
    a.Within m.codeBound :=
  fun _ hq => points_le_codeBound (List.mem_flatMap.mpr ⟨a, ha, hq⟩)

variable [Host χ]

theorem IsStandard.ready_within {m : Machine χ} (h : m.IsStandard) {bound : Nat}
    (hbound : m.codeBound ≤ bound) :
    m.Ready fun a => a.Within bound ∧ m.Knows a :=
  h.ready (closed_within (m.limits_le_codeBound.trans hbound)) fun _ ha q hq =>
    (within_of_mem_atoms ha q hq).trans hbound

theorem IsStandard.points_le {m : Machine χ} (h : m.IsStandard) (n : Nat) :
    ∀ q ∈ (m.step n).1.programs, Program.points q ≤ m.codeBound := by
  intro q hq
  obtain ⟨a, ha, hq⟩ := List.mem_flatMap.mp hq
  exact (((h.ready_within le_rfl).step n).2.of_mem_atoms ha).1 q hq

/-- However long a machine runs, its programs stay within the bound it started with; a program
that is loaded counts as well. -/
theorem points_le_after_run (m : Machine χ) (h : m.IsStandard) (n : Nat) :
    (∀ q ∈ (m.step n).1.programs, Program.points q ≤ m.codeBound) ∧
      ∀ p, (m.loadProgram p).IsStandard →
        ∀ q ∈ (m.execute p n).1.programs, Program.points q ≤ (m.loadProgram p).codeBound :=
  ⟨h.points_le n, fun _ hloaded => hloaded.points_le n⟩

/-- Code that builds larger and larger programs from copies of its own, up to the limit. -/
theorem points_le_after_run_growing :
    let m : Machine Scripted :=
      ({ source := .script [], config := { maxPoints := 40, maxRandomSize := 1 } } :
        Machine Scripted).define (Builtin.exec .s).name (.builtin (.exec .s))
    let s : Atom := .name "exec.s"
    let p : Program := [s, s, s, .program [s, s, s], .program [s, s, s]]
    m.IsStandard ∧ (m.loadProgram p).IsStandard ∧ Program.points p = 11 ∧
      (∃ q ∈ (m.execute p 60).1.programs, 30 < Program.points q) ∧
      ∀ q ∈ (m.execute p 60).1.programs, Program.points q ≤ 40 := by
  intro m s p
  have hoperations : ∀ op ∈ m.operations, op.IsStandard := by
    intro op hop
    have hop : op ∈ #[Operation.builtin (.exec .s)] := hop
    rw [show op = .builtin (.exec .s) by simpa using hop]
    exact trivial
  have hpusher : m.OwnsPusher := nofun
  have hm : m.IsStandard := refersOnly_of_operations hoperations hpusher
  have hloaded : (m.loadProgram p).IsStandard := refersOnly_of_operations hoperations hpusher
  have hbound : (m.loadProgram p).codeBound = 40 := by decide +kernel
  refine ⟨hm, hloaded, by decide +kernel, by decide +kernel, ?_⟩
  rw [← hbound]
  exact (points_le_after_run m hm 60).2 p hloaded

end Machine

end PushLang
