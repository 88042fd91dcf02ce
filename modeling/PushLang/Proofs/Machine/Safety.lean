import PushLang.Proofs.Guarded.Machine
import PushLang.Proofs.Machine.Growth

namespace PushLang.Machine

variable {χ : Type} [Host χ]

/-- Every run ends with a number of steps within its budget, and carries out every partial operation
inside its domain. -/
theorem run_is_safe (m : Machine χ) (h : m.IsNative) (n : Nat) :
    (∃ k ≤ n, (m.step n).2 = .ok k) ∧ Guarded.step? m n = some (m.step n) ∧
      ∀ p : Program,
        ((m.loadProgram p).IsNative → ∃ k ≤ n, (m.execute p n).2 = .ok k) ∧
          Guarded.execute? m p n = some (m.execute p n) :=
  ⟨(h.ready.step n).1, Guarded.step?_eq m n, fun p =>
    ⟨fun hloaded => (hloaded.ready.step n).1, Guarded.step?_eq (m.loadProgram p) n⟩⟩

/-- A loop that divides by its index, on a new machine. -/
theorem run_is_safe_new :
    let m : Machine Scripted := new {} (.script [])
    let p : Program :=
      [.integer 3, .name "exec.do*count", .program [.integer 7, .name "integer./"]]
    m.IsNative ∧ (m.loadProgram p).IsNative ∧ ∃ k ≤ 100, (m.execute p 100).2 = .ok k := by
  intro m p
  have hm : m.IsNative := (isStandard_new {} _).isNative
  have hloaded : (m.loadProgram p).IsNative := (isStandard_loaded_new {} _ p).isNative
  exact ⟨hm, hloaded, ((run_is_safe m hm 100).2.2 p).1 hloaded⟩

end PushLang.Machine
