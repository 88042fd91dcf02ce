import Mathlib.Data.List.Perm.Subperm
import PushLang.Builtin.Stacks
import PushLang.Proofs.Stack.Position

namespace PushLang

open List

variable {α : Type}

/-- The stack `t` has items of `s`, none of them more often, or all of them and one once more. -/
def Stack.Rearranged (s t : Stack α) : Prop :=
  t.down <+~ s.down ∨ ∃ a ∈ s.down, t.down = a :: s.down

namespace Stack.Rearranged

variable {s t : Stack α}

theorem refl (s : Stack α) : s.Rearranged s := .inl (.refl _)

theorem mem (h : s.Rearranged t) {v : α} (hv : v ∈ t.down) : v ∈ s.down := by
  rcases h with hsubperm | ⟨a, ha, hdown⟩
  · exact hsubperm.subset hv
  · rw [hdown] at hv
    rcases mem_cons.mp hv with rfl | hv
    · exact ha
    · exact hv

theorem size_le (h : s.Rearranged t) : t.size ≤ s.size + 1 := by
  rcases h with hsubperm | ⟨a, -, hdown⟩
  · exact Nat.le_succ_of_le hsubperm.length_le
  · rw [size, hdown]
    exact Nat.le_refl _

end Stack.Rearranged

theorem StackOp.apply_subperm {op : StackOp} (hop : op ≠ .dup) (s : Stack α) :
    (op.apply s).down <+~ s.down := by
  cases op with
  | pop => exact (tail_sublist _).subperm
  | dup => exact absurd rfl hop
  | swap =>
    rw [apply, Stack.swap_eq_yank]
    exact (s.yank_perm 1).subperm
  | rot => exact s.rot_perm.subperm
  | flush => exact nil_subperm

theorem StackOp.rearranged (op : StackOp) (s : Stack α) : s.Rearranged (op.apply s) := by
  by_cases hop : op = .dup
  · subst hop
    simp only [apply, Stack.dup]
    split
    · rename_i a ha
      exact .inr ⟨a, mem_of_head? ha, rfl⟩
    · exact .refl s
  · exact .inl (apply_subperm hop s)

theorem IndexOp.apply_subperm {op : IndexOp} (hop : op ≠ .yankDup) (s : Stack α) (n : Int64) :
    (op.apply s n).down <+~ s.down := by
  cases op with
  | shove => exact (s.shoveTop_perm n).subperm
  | yank => exact (s.yank_perm n).subperm
  | yankDup => exact absurd rfl hop

theorem IndexOp.rearranged (op : IndexOp) (s : Stack α) (n : Int64) :
    s.Rearranged (op.apply s n) := by
  by_cases hop : op = .yankDup
  · subst hop
    simp only [apply, Stack.yankDup]
    split
    · rename_i a ha
      exact .inr ⟨a, mem_of_getElem? ha, rfl⟩
    · exact .refl s
  · exact .inl (apply_subperm hop s n)

end PushLang
