import PushLang.Decimal.Basic
import PushLang.Proofs.Binary64.Nearest

namespace PushLang.Decimal

open Binary64

theorem ten_pow_pos (k : Nat) : 0 < 10 ^ k := Nat.pow_pos (by decide)

theorem width_le {n k : Nat} (hk : 0 < k) : width n ≤ k ↔ n < 10 ^ k :=
  Nat.length_toDigits_le_iff (by decide) hk

theorem width_shift {n : Nat} (hn : 0 < n) (k : Nat) : width (n * 10 ^ k) = width n + k := by
  induction k with
  | zero => simp
  | succ k ih =>
    have hpos : 0 < n * 10 ^ k := Nat.mul_pos hn (ten_pow_pos k)
    have hpow : n * 10 ^ (k + 1) = 10 * (n * 10 ^ k) + 0 := by
      rw [Nat.pow_succ, ← Nat.mul_assoc, Nat.mul_comm, Nat.add_zero]
    have hdigits : Nat.toDigits 10 (n * 10 ^ (k + 1)) = Nat.toDigits 10 (n * 10 ^ k) ++ ['0'] := by
      rw [hpow, ← Nat.toDigits_append_toDigits (by decide) hpos (by decide), Nat.toDigits_zero]
    rw [width, hdigits, List.length_append, List.length_singleton]
    change width (n * 10 ^ k) + 1 = width n + (k + 1)
    omega

theorem nearest_shift (d : Nat) (e : Int) (k : Nat) :
    nearest (d * 10 ^ k * 10 ^ (e - k).toNat * one) (10 ^ (-(e - k)).toNat) =
      nearest (d * 10 ^ e.toNat * one) (10 ^ (-e).toNat) := by
  -- Powers of ten stand above or below the line; crosswise they are the same.
  have hexp : k + (e - k).toNat + (-e).toNat = e.toNat + (-(e - k)).toNat := by omega
  have hpow := congrArg (fun n => d * 10 ^ n * one) hexp
  simp only [Nat.pow_add] at hpow
  have hnum : d * 10 ^ k * 10 ^ (e - k).toNat * one * 10 ^ (-e).toNat =
      d * 10 ^ e.toNat * one * 10 ^ (-(e - k)).toNat := by
    generalize one = u at hpow ⊢
    calc d * 10 ^ k * 10 ^ (e - k).toNat * u * 10 ^ (-e).toNat
        = d * (10 ^ k * 10 ^ (e - k).toNat * 10 ^ (-e).toNat) * u := by ac_rfl
      _ = d * (10 ^ e.toNat * 10 ^ (-(e - k)).toNat) * u := hpow
      _ = d * 10 ^ e.toNat * u * 10 ^ (-(e - k)).toNat := by ac_rfl
  rw [← nearest_scale _ _ (ten_pow_pos (-e).toNat), hnum, Nat.mul_comm (10 ^ (-(e - k)).toNat),
    nearest_scale _ _ (ten_pow_pos (-(e - k)).toNat)]

theorem bits_shift (d : Nat) (e : Int) (k : Nat) : bits ⟨d * 10 ^ k, e - k⟩ = bits ⟨d, e⟩ := by
  rcases Nat.eq_zero_or_pos d with rfl | hd
  · simp [bits]
  · have hne : d * 10 ^ k ≠ 0 := Nat.ne_of_gt (Nat.mul_pos hd (ten_pow_pos k))
    have hwidth : e - k + (width (d * 10 ^ k) : Int) = e + width d := by
      rw [width_shift hd]
      omega
    simp only [bits, hwidth, nearest_shift, if_neg hne, if_neg (Nat.ne_of_gt hd)]

theorem units_pos {bits : Nat} (h : 0 < bits) : 0 < units bits := by
  unfold units
  split
  · exact h
  · exact Nat.mul_pos (by omega) (Nat.two_pow_pos _)

theorem units_lt {bits k : Nat} (h : bits < (k + 2) * 2 ^ 52) : units bits < 2 ^ (53 + k) := by
  unfold units
  split
  · calc bits < 2 ^ 52 := by assumption
      _ ≤ 2 ^ (53 + k) := Nat.pow_le_pow_right (by decide) (by omega)
  · have hmant : 2 ^ 52 + bits % 2 ^ 52 < 2 ^ 53 := by omega
    calc (2 ^ 52 + bits % 2 ^ 52) * 2 ^ (bits / 2 ^ 52 - 1)
        < 2 ^ 53 * 2 ^ (bits / 2 ^ 52 - 1) :=
          Nat.mul_lt_mul_of_pos_right hmant (Nat.two_pow_pos _)
      _ = 2 ^ (53 + (bits / 2 ^ 52 - 1)) := (Nat.pow_add ..).symm
      _ ≤ 2 ^ (53 + k) := Nat.pow_le_pow_right (by decide) (by omega)

theorem mul_five_pow_lt {u r t k : Nat} (h : u < 2 ^ r) (hr : r ≤ 13 * k + t) :
    u * 5 ^ t < 10 ^ (4 * k + t) :=
  calc u * 5 ^ t < 2 ^ r * 5 ^ t := Nat.mul_lt_mul_of_pos_right h (Nat.pow_pos (by decide))
    _ ≤ 2 ^ (13 * k + t) * 5 ^ t := Nat.mul_le_mul_right _ (Nat.pow_le_pow_right (by decide) hr)
    _ = (2 ^ 13) ^ k * (2 * 5) ^ t := by rw [Nat.pow_add, Nat.pow_mul, Nat.mul_assoc, Nat.mul_pow]
    _ ≤ (10 ^ 4) ^ k * 10 ^ t := Nat.mul_le_mul_right _ (Nat.pow_le_pow_left (by decide) k)
    _ = 10 ^ (4 * k + t) := by rw [← Nat.pow_mul, ← Nat.pow_add]

theorem ten_pow_le {u k t : Nat} (h : 0 < u) (hk : 3 * k ≤ 2 * t) : 10 ^ k ≤ u * 5 ^ t := by
  obtain ⟨j, rfl⟩ : ∃ j, t = j + k := ⟨t - k, by omega⟩
  calc 10 ^ k = 2 ^ k * 5 ^ k := Nat.mul_pow 2 5 k
    _ ≤ 2 ^ (2 * j) * 5 ^ k :=
      Nat.mul_le_mul_right _ (Nat.pow_le_pow_right (by decide) (by omega))
    _ = (2 ^ 2) ^ j * 5 ^ k := by rw [Nat.pow_mul]
    _ ≤ 5 ^ j * 5 ^ k := Nat.mul_le_mul_right _ (Nat.pow_le_pow_left (by decide) j)
    _ = 1 * 5 ^ (j + k) := by rw [Nat.pow_add, Nat.one_mul]
    _ ≤ u * 5 ^ (j + k) := Nat.mul_le_mul_right _ h

theorem mul_five_pow_ne_zero {u : Nat} (h : 0 < u) (t : Nat) : u * 5 ^ t ≠ 0 :=
  Nat.ne_of_gt (Nat.mul_pos h (Nat.pow_pos (by decide)))

theorem nearest_exact (u t : Nat) : nearest (u * 5 ^ t * 2 ^ t) (10 ^ t) = nearest u 1 := by
  have hten : u * 5 ^ t * 2 ^ t = u * 10 ^ t := by rw [Nat.mul_assoc, ← Nat.mul_pow]
  have hscale := nearest_scale u 1 (ten_pow_pos t)
  rw [Nat.one_mul] at hscale
  rw [hten, hscale]

theorem bits_exact {bits : Nat} (hpos : 0 < bits) (h : bits < infinityBits) :
    Decimal.bits ⟨units bits * 5 ^ 1074, -1074⟩ = bits := by
  have hunits := units_pos hpos
  -- The first digit stays within `10 ^ ±400`, so neither shortcut of `bits` is taken.
  have hlow : ¬ width (units bits * 5 ^ 1074) ≤ 673 := by
    have hle := ten_pow_le (k := 673) (t := 1074) hunits (by decide)
    rw [width_le (by decide), Nat.not_lt]
    exact hle
  have hhigh : width (units bits * 5 ^ 1074) ≤ 4 * 79 + 1074 := by
    have hlt := mul_five_pow_lt (k := 79) (t := 1074) (units_lt (k := 2045) h) (by decide)
    rw [width_le (by decide)]
    exact hlt
  have hne := mul_five_pow_ne_zero hunits 1074
  unfold Decimal.bits
  dsimp only
  rw [if_neg hne, if_neg (by omega), if_neg (by omega)]
  have hdown : 10 ^ (-1074 : Int).toNat = 1 := rfl
  have hup : (- -1074 : Int).toNat = 1074 := rfl
  rw [hdown, hup, Nat.mul_one, one, nearest_exact _ 1074, nearest_units h]

theorem bits_shortest {bits : Nat} (hpos : 0 < bits) (h : bits < infinityBits) :
    (shortest bits).bits = bits := by
  unfold shortest
  dsimp only
  -- Every candidate is tested by rounding it, so only the last resort needs an argument.
  rcases hfind : List.find? _ _ with _ | d
  · rw [Option.getD_none, bits_exact hpos h]
  · have hd := List.find?_some hfind
    exact eq_of_beq hd

end PushLang.Decimal
