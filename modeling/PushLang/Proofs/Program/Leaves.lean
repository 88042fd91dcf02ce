import PushLang.Atom.Basic

namespace PushLang

theorem Atom.tree_induction {P : Atom → Prop} (leaf : ∀ a : Atom, a.isProgram = false → P a)
    (program : ∀ p : Program, (∀ a ∈ p, P a) → P (.program p)) : ∀ a, P a
  | .integer n => leaf (.integer n) rfl
  | .float x => leaf (.float x) rfl
  | .boolean b => leaf (.boolean b) rfl
  | .name s => leaf (.name s) rfl
  | .instruction h => leaf (.instruction h) rfl
  | .program p => program p fun a _ => tree_induction leaf program a

theorem Atom.points_of_isProgram_eq_false {a : Atom} (h : a.isProgram = false) : a.points = 0 := by
  cases a with
  | program p => cases h
  | integer n | float x | boolean b | name s | instruction g => rw [points]; rintro p ⟨⟩

mutual

/-- The leaves of an atom; an atom that is no program is its own leaf. -/
def Atom.leaves : Atom → List Atom
  | .program p => Program.leaves p
  | .integer n => [.integer n]
  | .float x => [.float x]
  | .boolean b => [.boolean b]
  | .name s => [.name s]
  | .instruction h => [.instruction h]

def Program.leaves : List Atom → List Atom
  | [] => []
  | a :: rest => a.leaves ++ Program.leaves rest

end

theorem Atom.leaves_of_isProgram_eq_false {a : Atom} (h : a.isProgram = false) :
    a.leaves = [a] := by
  cases a with
  | program p => cases h
  | integer n | float x | boolean b | name s | instruction handle => rw [leaves]

@[simp] theorem Atom.leaves_program (p : Program) : (Atom.program p).leaves = Program.leaves p := by
  rw [leaves]

namespace Program

@[simp] theorem leaves_nil : leaves [] = [] := by rw [leaves]

@[simp] theorem leaves_cons (a : Atom) (p : Program) : leaves (a :: p) = a.leaves ++ leaves p := by
  rw [leaves]

theorem leaves_append (p q : Program) : leaves (p ++ q) = leaves p ++ leaves q := by
  induction p with
  | nil => simp
  | cons a p ih => simp [ih]

theorem mem_leaves {p : Program} {l : Atom} : l ∈ leaves p ↔ ∃ a ∈ p, l ∈ a.leaves := by
  induction p with
  | nil => simp
  | cons a p ih => simp [ih]

end Program

theorem Atom.mem_leaves_program {p : Program} {l : Atom} :
    l ∈ (Atom.program p).leaves ↔ ∃ a ∈ p, l ∈ a.leaves := by
  rw [leaves_program, Program.mem_leaves]

theorem Atom.isProgram_of_mem_leaves {a l : Atom} (h : l ∈ a.leaves) : l.isProgram = false := by
  induction a using tree_induction with
  | leaf a ha =>
    rw [leaves_of_isProgram_eq_false ha] at h
    rwa [List.mem_singleton.mp h]
  | program p ih =>
    obtain ⟨a, ha, hl⟩ := mem_leaves_program.mp h
    exact ih a ha hl

theorem Program.isProgram_of_mem_leaves {p : Program} {l : Atom} (h : l ∈ leaves p) :
    l.isProgram = false := by
  obtain ⟨a, -, hl⟩ := mem_leaves.mp h
  exact Atom.isProgram_of_mem_leaves hl

end PushLang
