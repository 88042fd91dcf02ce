import PushLang.Proofs.Binary64.Bits

namespace PushLang.Binary64

theorem divNearest_exact (q : Nat) {den : Nat} (h : 0 < den) : divNearest (q * den) den = q := by
  rw [divNearest, Nat.mul_mod_left, Nat.mul_div_cancel q h, if_pos (by omega)]

theorem divNearest_scale (num den : Nat) {k : Nat} (hk : 0 < k) :
    divNearest (num * k) (den * k) = divNearest num den := by
  have hlow : 2 * (num % den * k) < den * k ↔ 2 * (num % den) < den := by
    rw [← Nat.mul_assoc, Nat.mul_lt_mul_right hk]
  have hhigh : den * k < 2 * (num % den * k) ↔ den < 2 * (num % den) := by
    rw [← Nat.mul_assoc, Nat.mul_lt_mul_right hk]
  simp only [divNearest, Nat.mul_div_mul_right _ _ hk, Nat.mul_mod_mul_right, hlow, hhigh]

theorem divNearest_le (num den : Nat) : divNearest num den ≤ num / den + 1 := by
  unfold divNearest
  dsimp only
  split
  · omega
  · split <;> omega

theorem nearest_scale (num den : Nat) {k : Nat} (hk : 0 < k) :
    nearest (num * k) (den * k) = nearest num den := by
  simp only [nearest, Nat.mul_div_mul_right _ _ hk, Nat.mul_right_comm den k,
    divNearest_scale _ _ hk]

theorem log2_shifted {m : Nat} (hlow : 2 ^ 52 ≤ m) (hhigh : m < 2 ^ 53) (k : Nat) :
    (m * 2 ^ k).log2 = 52 + k := by
  have hpos : 0 < 2 ^ k := Nat.two_pow_pos k
  rw [Nat.log2_eq_iff (Nat.mul_ne_zero (by omega) (by omega)), Nat.pow_add,
    show 52 + k + 1 = 53 + k by omega, Nat.pow_add]
  exact ⟨Nat.mul_le_mul_right _ hlow, Nat.mul_lt_mul_of_pos_right hhigh hpos⟩

theorem nearest_units {bits : Nat} (h : bits < infinityBits) : nearest (units bits) 1 = bits := by
  unfold infinityBits at h
  -- The subnormal numbers are whole units; a normal one has its shift back from the logarithm.
  by_cases hsmall : bits < 2 ^ 52
  · have hlog : bits.log2 ≤ 52 := by
      by_cases hzero : bits = 0
      · rw [hzero]
        decide
      · have hlt := (Nat.log2_lt hzero).mpr hsmall
        omega
    have hexact := divNearest_exact bits Nat.one_pos
    rw [Nat.mul_one] at hexact
    simp only [nearest, units, if_pos hsmall, Nat.div_one, Nat.sub_eq_zero_of_le hlog, Nat.pow_zero,
      Nat.mul_one, hexact]
    unfold infinityBits
    omega
  · have hmant : bits % 2 ^ 52 < 2 ^ 52 := Nat.mod_lt _ (by decide)
    have hlog : (units bits).log2 = 52 + (bits / 2 ^ 52 - 1) := by
      rw [units, if_neg hsmall, log2_shifted (by omega) (by omega)]
    have hexact := divNearest_exact (2 ^ 52 + bits % 2 ^ 52) (Nat.two_pow_pos (bits / 2 ^ 52 - 1))
    simp only [nearest, Nat.div_one, hlog, Nat.add_sub_cancel_left, Nat.one_mul]
    rw [units, if_neg hsmall, hexact]
    unfold infinityBits
    omega

/-- A quotient below `2 ^ (k + 53)` units is rounded to one with at most `k + 1` for its shift. -/
theorem nearest_le {num den k : Nat} (h : num / den < 2 ^ (k + 53)) :
    nearest num den ≤ (k + 2) * 2 ^ 52 := by
  have hshift : (num / den).log2 - 52 ≤ k := by
    by_cases hzero : num / den = 0
    · rw [hzero, Nat.log2_zero]
      omega
    · have hlog := (Nat.log2_lt hzero).mpr h
      omega
  have hrounded := divNearest_le num (den * 2 ^ ((num / den).log2 - 52))
  have hquotient : num / (den * 2 ^ ((num / den).log2 - 52)) < 2 ^ 53 := by
    rw [← Nat.div_div_eq_div_mul, Nat.div_lt_iff_lt_mul (Nat.two_pow_pos _), ← Nat.pow_add]
    calc num / den < 2 ^ ((num / den).log2 + 1) := Nat.lt_log2_self
      _ ≤ 2 ^ (53 + ((num / den).log2 - 52)) := Nat.pow_le_pow_right (by decide) (by omega)
  have hmul := Nat.mul_le_mul_right (2 ^ 52) hshift
  simp only [nearest]
  omega

theorem ofInt64_bits (n : Int64) : nearest (n.toInt.natAbs * one) 1 < infinityBits := by
  have hlow := Int64.le_toInt n
  have hhigh := Int64.toInt_lt n
  have hle : n.toInt.natAbs ≤ 2 ^ 63 := by omega
  have hbound : n.toInt.natAbs * one / 1 < 2 ^ (1085 + 53) := by
    rw [Nat.div_one]
    calc n.toInt.natAbs * one ≤ 2 ^ 63 * one := Nat.mul_le_mul_right _ hle
      _ = 2 ^ (63 + 1074) := by simp only [one, Nat.pow_add]
      _ < 2 ^ (1085 + 53) := by apply Nat.pow_lt_pow_right <;> omega
  have hnearest := nearest_le hbound
  unfold infinityBits
  omega

theorem isFinite_ofInt64 (n : Int64) : (ofInt64 n).isFinite :=
  isFinite_assemble _ (ofInt64_bits n)

end PushLang.Binary64
