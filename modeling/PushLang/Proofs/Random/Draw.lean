import Mathlib
import PushLang.Random.Code

namespace PushLang.Random

namespace Source

theorem drawWith_lt {width n : Nat} {next : Source → Nat × Source}
    (hnext : ∀ s, (next s).1 < 2 ^ width) (hn : 0 < n) (tries : Nat) (s : Source) :
    (drawWith width next n tries s).1 < n := by
  -- The upper half of the product is always below `n`, also where the tries run out.
  have high : ∀ s, (next s).1 * n / 2 ^ width < n := by
    intro s
    rw [Nat.div_lt_iff_lt_mul (Nat.two_pow_pos width), Nat.mul_comm n]
    exact Nat.mul_lt_mul_of_pos_right (hnext s) hn
  induction tries generalizing s with
  | zero => exact high s
  | succ tries ih =>
    simp only [drawWith]
    split
    · exact high s
    · exact ih _

theorem draw_lt {n : Nat} (hn : 0 < n) (s : Source) : (s.draw n).1 < n :=
  drawWith_lt (fun s => s.next64.1.toNat_lt) hn _ s

/-- Every number below the bound is drawn from some source. -/
theorem exists_draw {n k : Nat} (hk : k < n) (hn : n ≤ 2 ^ 64) :
    ∃ s : Source, (s.draw n).1 = k := by
  -- The least word whose product with the bound reaches `k` in its high half.
  let word := (k * 2 ^ 64 + n - 1) / n
  have hdiv : k * 2 ^ 64 + n - 1 = word * n + (k * 2 ^ 64 + n - 1) % n := (Nat.div_add_mod' _ _).symm
  have hmod : (k * 2 ^ 64 + n - 1) % n < n := Nat.mod_lt _ (by omega)
  have hlow : k * 2 ^ 64 ≤ word * n := by omega
  have hhigh : word * n < k * 2 ^ 64 + n := by omega
  have hword : word < 2 ^ 64 := by
    apply Nat.lt_of_mul_lt_mul_right (a := n)
    calc word * n < k * 2 ^ 64 + 2 ^ 64 := by omega
      _ = (k + 1) * 2 ^ 64 := by ring
      _ ≤ n * 2 ^ 64 := Nat.mul_le_mul_right _ hk
      _ = 2 ^ 64 * n := Nat.mul_comm _ _
  have htoNat : (UInt64.ofNat word).toNat = word := UInt64.toNat_ofNat_of_lt hword
  have hquotient : word * n / 2 ^ 64 = k := by omega
  have haccepted : word * n % 2 ^ 64 ≤ zone 64 n := by
    have hzone : n ≤ n * 2 ^ (64 - (n.log2 + 1)) := Nat.le_mul_of_pos_right _ (Nat.two_pow_pos _)
    rw [zone]
    omega
  refine ⟨.script [UInt64.ofNat word], ?_⟩
  simp only [draw, patience, List.length_singleton, drawWith, next64, htoNat, if_pos haccepted]
  exact hquotient

theorem swapIfInBounds_perm {α : Type} (xs : Array α) (i j : Nat) :
    (xs.swapIfInBounds i j).toList.Perm xs.toList := by
  rw [Array.swapIfInBounds_def]
  split
  · split
    · exact Array.Perm.toList (Array.swap_perm _ _)
    · rfl
  · rfl

theorem shuffleFrom_perm {α : Type} (i : Nat) (items : Array α) (s : Source) :
    (shuffleFrom i items s).1.toList.Perm items.toList := by
  induction i generalizing items s with
  | zero => rfl
  | succ i ih => exact (ih _ _).trans (swapIfInBounds_perm _ _ _)

theorem shuffle_perm {α : Type} (items : List α) (s : Source) :
    (s.shuffle items).1.Perm items := shuffleFrom_perm _ _ s

end Source

theorem parts_zero (s : Source) : parts 0 s = ([], s) := by
  rw [parts, if_pos rfl]

theorem parts_pos {count : Nat} (h : 0 < count) (s : Source) :
    parts count s =
      let (extra, s') := if count < 2 then (0, s) else s.draw count
      ((extra + 1) :: (parts (count - (extra + 1)) s').1, (parts (count - (extra + 1)) s').2) := by
  rw [parts, if_neg (by omega)]

/-- The first part leaves something or nothing, never less than nothing. -/
theorem first_part_le {count : Nat} (h : 0 < count) (s : Source) :
    (if count < 2 then (0, s) else s.draw count).1 + 1 ≤ count := by
  split
  · exact h
  · exact Source.draw_lt h s

theorem parts_sum (count : Nat) (s : Source) : (parts count s).1.sum = count := by
  induction count using Nat.strongRecOn generalizing s with
  | _ count ih =>
    by_cases h : 0 < count
    · -- The first part is at least one, so the rest is smaller.
      have hfirst := first_part_le h s
      rw [parts_pos h]
      simp only [List.sum_cons]
      rw [ih _ (by omega)]
      omega
    · obtain rfl : count = 0 := by omega
      rw [parts_zero]
      rfl

theorem parts_positive (count : Nat) (s : Source) : ∀ size ∈ (parts count s).1, 0 < size := by
  induction count using Nat.strongRecOn generalizing s with
  | _ count ih =>
    by_cases h : 0 < count
    · have hfirst := first_part_le h s
      rw [parts_pos h]
      intro size hsize
      rcases List.mem_cons.mp hsize with rfl | hsize
      · omega
      · exact ih _ (by omega) _ size hsize
    · obtain rfl : count = 0 := by omega
      rw [parts_zero]
      intro size hsize
      cases hsize

theorem distribution_sum (count : Nat) (s : Source) : (distribution count s).1.sum = count := by
  simp only [distribution]
  rw [(Source.shuffle_perm _ _).sum_nat]
  exact parts_sum count s

theorem distribution_positive (count : Nat) (s : Source) :
    ∀ size ∈ (distribution count s).1, 0 < size := by
  intro size hsize
  exact parts_positive count s size ((Source.shuffle_perm _ _).mem_iff.mp hsize)

end PushLang.Random
