import PushLang.Proofs.Machine.Growth
import PushLang.Proofs.Program.Leaves
import PushLang.Proofs.Random.Code

namespace PushLang

open PushLang.Random

/-- The generator that produces atoms like this one. -/
def Atom.maker? : Atom → Option Generator
  | .name s => some (.instruction s)
  | .boolean _ => some .boolean
  | .integer _ => some .integer
  | .float _ => some .float
  | .instruction _ => none
  | .program _ => none

/-- The atom is what one of the generators produces from some state of the random source. -/
def Atom.ProducedBy (generators : List Generator) (config : Config) (a : Atom) : Prop :=
  ∃ g ∈ generators, a.maker? = some g ∧ ∃ s, (g.generate config s).1 = a

/-- No program in the atom is empty, and its leaves are produced by the generators. -/
structure Atom.WellMade (generators : List Generator) (config : Config) (a : Atom) : Prop where
  programs : ∀ q ∈ a.programs, q ≠ []
  leaves : ∀ l ∈ a.leaves, l.ProducedBy generators config

variable {generators : List Generator}

theorem Random.Generator.wellMade_generate (config : Config) {g : Generator}
    (hg : g ∈ generators) (s : Source) :
    (g.generate config s).1.WellMade generators config := by
  have hleaf : (g.generate config s).1.isProgram = false := by cases g <;> rfl
  have hmaker : (g.generate config s).1.maker? = some g := by cases g <;> rfl
  refine ⟨fun q hq => ?_, fun l hl => ?_⟩
  · rw [Atom.programs_of_isProgram_eq_false hleaf] at hq
    cases hq
  · rw [Atom.leaves_of_isProgram_eq_false hleaf] at hl
    rw [List.mem_singleton.mp hl]
    exact ⟨g, hg, hmaker, s, rfl⟩

theorem nests_wellMade (config : Config) (bound : Nat) :
    Nests (Atom.WellMade generators config) bound := by
  intro p hp hall _
  refine ⟨fun q hq => ?_, fun l hl => ?_⟩
  · rcases Atom.mem_programs_program.mp hq with rfl | ⟨a, ha, hq⟩
    · exact hp
    · exact (hall a ha).programs q hq
  · obtain ⟨a, ha, hl⟩ := Atom.mem_leaves_program.mp hl
    exact (hall a ha).leaves l hl

namespace Machine

variable {χ : Type}

/-- Whatever the random source gives, code of any size is made, well formed and of exactly that
size, if there is an active generator. If there is none, only the empty program is made. -/
theorem randomCode_well_formed (m : Machine χ) (size : Nat) :
    (m.activeGenerators ≠ [] →
      ∃ p s, m.randomCode size = (.ok p, { m with source := s }) ∧
        Program.points p = size - 1 ∧
        (∀ q ∈ Program.programsWithin p, q ≠ []) ∧
        ∀ l ∈ Program.leaves p, l.ProducedBy m.activeGenerators m.config) ∧
      (m.activeGenerators = [] →
        ∃ s, m.randomCode size =
          (if 2 ≤ size then .error .noActiveInstructions else .ok [], { m with source := s })) := by
  constructor
  · intro hactive
    obtain ⟨p, s, hcode, hpoints, hall⟩ :=
      code_ok hactive (fun g hg s => g.wellMade_generate m.config hg s)
        (nests_wellMade m.config size) (Nat.le_succ size) m.source
    refine ⟨p, s, ?_, hpoints, fun q hq => ?_, fun l hl => ?_⟩
    · rw [randomCode, withSource, hcode]
    · obtain ⟨a, ha, hq⟩ := Program.mem_programsWithin.mp hq
      exact (hall a ha).programs q hq
    · obtain ⟨a, ha, hl⟩ := Program.mem_leaves.mp hl
      exact (hall a ha).leaves l hl
  · intro hactive
    refine ⟨(code [] m.config size m.source).2, ?_⟩
    rw [randomCode, withSource, hactive, ← code_nil m.config size m.source]

/-- Code of five points from two generators, and none from no generator. -/
theorem randomCode_well_formed_pair :
    let m : Machine Scripted :=
      { active := (∅ : NameMap Generator).insertMany
          [("boolean.erc", .boolean), ("integer.+", .instruction "integer.+")]
        source := .ofSeed 11
        config := {} }
    let idle : Machine Scripted := { source := .ofSeed 11, config := {} }
    m.activeGenerators ≠ [] ∧ idle.activeGenerators = [] ∧
      (∃ p s, m.randomCode 6 = (.ok p, { m with source := s }) ∧ Program.points p = 5) ∧
      ∃ s, idle.randomCode 6 = (.error .noActiveInstructions, { idle with source := s }) := by
  intro m idle
  have hactive : m.activeGenerators ≠ [] := by decide
  have hidle : idle.activeGenerators = [] := rfl
  obtain ⟨p, s, hcode, hpoints, -⟩ := (randomCode_well_formed m 6).1 hactive
  exact ⟨hactive, hidle, ⟨p, s, hcode, hpoints⟩, (randomCode_well_formed idle 6).2 hidle⟩

end Machine

end PushLang
