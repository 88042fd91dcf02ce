import PushLang.Proofs.Machine.Growth
import PushLang.Proofs.Program.Leaves
import PushLang.Proofs.Random.Draw

namespace PushLang

variable {χ : Type}

/-- All floats in the atom, at any depth, are finite. -/
def Atom.HasFiniteFloats (a : Atom) : Prop := ∀ x, .float x ∈ a.leaves → x.isFinite

namespace Atom

theorem hasFiniteFloats_float {x : Double} : (float x).HasFiniteFloats ↔ x.isFinite := by
  simp [HasFiniteFloats, leaves]

theorem hasFiniteFloats_program {p : Program} :
    (program p).HasFiniteFloats ↔ ∀ a ∈ p, a.HasFiniteFloats := by
  simp only [HasFiniteFloats, leaves_program, Program.mem_leaves]
  exact ⟨fun h a ha x hx => h x ⟨a, ha, hx⟩, fun h x ⟨a, ha, hx⟩ => h a ha x hx⟩

end Atom

namespace Machine

/-- All floats on the stacks, in code and in bound values are finite, and all that the settings let
random constants be. -/
structure HasFiniteFloats (m : Machine χ) : Prop where
  floats : ∀ a ∈ m.atoms, a.HasFiniteFloats
  sampled : ∀ s, (m.config.floats.sample s).1.isFinite

theorem HasFiniteFloats.closed {m : Machine χ} (h : m.HasFiniteFloats) :
    Closed Atom.HasFiniteFloats m where
  integer n := by simp [Atom.HasFiniteFloats, Atom.leaves]
  boolean b := by simp [Atom.HasFiniteFloats, Atom.leaves]
  float _ hx := Atom.hasFiniteFloats_float.mpr hx
  sampled s := Atom.hasFiniteFloats_float.mpr (h.sampled s)
  generated name _ := by simp [Atom.HasFiniteFloats, Atom.leaves]
  helper name _ := by simp [Atom.HasFiniteFloats, Atom.leaves]
  child _ hp := Atom.hasFiniteFloats_program.mp hp
  built _ hp _ := Atom.hasFiniteFloats_program.mpr hp

theorem atoms_new (config : Config) (fresh : Random.Source) :
    (new config fresh : Machine χ).atoms = [] :=
  new_induction (P := fun m => m.atoms = []) config fresh rfl (fun _ _ h => h) fun _ _ h => h

theorem config_new (config : Config) (fresh : Random.Source) :
    (new config fresh : Machine χ).config = config :=
  new_induction (P := fun m => m.config = config) config fresh rfl (fun _ _ h => h) fun _ _ h => h

theorem hasFiniteFloats_new {config : Config} {steps : Nat}
    (hsteps : config.floats.steps? = some steps)
    (hvalue : ∀ k < steps + 1, (config.floats.value k).isFinite) (fresh : Random.Source) :
    (new config fresh : Machine χ).HasFiniteFloats where
  floats a ha := by
    rw [atoms_new] at ha
    cases ha
  sampled s := by
    rw [config_new, Random.FloatRange.sample, hsteps]
    exact hvalue _ (Random.Source.draw_lt (Nat.succ_pos steps) s)

theorem HasFiniteFloats.loadProgram {m : Machine χ} (hfinite : m.HasFiniteFloats) {p : Program}
    (hp : (Atom.program p).HasFiniteFloats) : (m.loadProgram p).HasFiniteFloats where
  floats a ha := by
    rcases mem_atoms_push.mp ha with rfl | ha
    · exact hp
    · exact hfinite.floats a ha
  sampled := hfinite.sampled

variable [Host χ]

theorem HasFiniteFloats.step {m : Machine χ} (hfinite : m.HasFiniteFloats) (h : m.IsStandard)
    (n : Nat) : (m.step n).1.HasFiniteFloats := by
  have hready := ((h.ready hfinite.closed hfinite.floats).step n).2
  exact ⟨fun _ ha => (hready.of_mem_atoms ha).1, fun s =>
    Atom.hasFiniteFloats_float.mp (hready.closed.sampled s).1⟩

/-- Floats that are finite at the start, in the machine and in a program that is loaded, are finite
after any number of steps. -/
theorem floats_stay_finite {m : Machine χ} (h : m.IsStandard) (hfinite : m.HasFiniteFloats)
    (n : Nat) :
    (m.step n).1.HasFiniteFloats ∧
      ∀ p, (m.loadProgram p).IsStandard → (Atom.program p).HasFiniteFloats →
        (m.execute p n).1.HasFiniteFloats :=
  ⟨hfinite.step h n, fun _ hloaded hp => (hfinite.loadProgram hp).step hloaded n⟩

/-- A loop whose exponentials overflow, on a new machine with a range of nine floats. -/
theorem floats_stay_finite_new :
    let config : Config := { floats := ⟨-10.0, 10.0, 2.5⟩ }
    let m : Machine Scripted := new config (.script [])
    let p : Program := [.float 3.0, .integer 9, .name "exec.do*times", .name "float.exp"]
    m.IsStandard ∧ (m.loadProgram p).IsStandard ∧ m.HasFiniteFloats ∧
      (Atom.program p).HasFiniteFloats ∧ (m.execute p 100).1.HasFiniteFloats := by
  intro config m p
  have hp : (Atom.program p).HasFiniteFloats := by
    have hthree : (3.0 : Double).isFinite := by decide
    simp [p, Atom.HasFiniteFloats, Atom.leaves, hthree]
  have hfinite : m.HasFiniteFloats := by
    have hsteps : config.floats.steps? = some 8 := by decide +kernel
    exact hasFiniteFloats_new hsteps (by decide +kernel) _
  have hm : m.IsStandard := isStandard_new config _
  have hloaded : (m.loadProgram p).IsStandard := isStandard_loaded_new config _ p
  exact ⟨hm, hloaded, hfinite, hp, (floats_stay_finite hm hfinite 100).2 p hloaded hp⟩

end Machine

end PushLang
