import Mathlib
import PushLang.Binary64.Arithmetic

namespace PushLang.Binary64

open Float.Model Float.Model.UnpackedFloat

theorem toBitVec_ofBitVec (s : BitVec 1) : (Sign.ofBitVec s).toBitVec = s := by
  revert s
  decide

theorem packComponents_fields (b : BitVec 64) :
    packComponents .binary64 (Sign.ofBitVec (@unpackSign .binary64 b))
      (@unpackExponent .binary64 b) (@unpackMantissa .binary64 b) = b := by
  unfold packComponents
  rw [toBitVec_ofBitVec]
  unfold unpackSign unpackExponent unpackMantissa
  ext i hi
  simp
  grind

theorem exponent_toNat (b : BitVec 64) :
    (@unpackExponent .binary64 b).toNat = b.toNat / 2 ^ 52 % 2 ^ 11 := by
  simp [unpackExponent, BitVec.extractLsb_toNat, Nat.shiftRight_eq_div_pow]

theorem mantissa_toNat (b : BitVec 64) :
    (@unpackMantissa .binary64 b).toNat = b.toNat % 2 ^ 52 := by
  simp [unpackMantissa, BitVec.extractLsb_toNat]

theorem exponent_eq_top (b : BitVec 64) :
    @unpackExponent .binary64 b = -1#_ ↔ b.toNat / 2 ^ 52 % 2 ^ 11 = 2047 := by
  rw [← exponent_toNat, ← BitVec.toNat_inj]
  rfl

theorem mantissa_eq_zero (b : BitVec 64) :
    @unpackMantissa .binary64 b = 0#_ ↔ b.toNat % 2 ^ 52 = 0 := by
  rw [← mantissa_toNat, ← BitVec.toNat_inj]
  rfl

theorem implicit_toNat (m : BitVec 52) : (1#1 ++ m).toNat = 2 ^ 52 + m.toNat := by
  rw [BitVec.toNat_append, ← Nat.shiftLeft_add_eq_or_of_lt m.isLt]
  rfl

theorem pack_subnormal (s : Sign) {m : Nat} (hpos : 0 < m) (hm : m < 2 ^ 52) :
    UnpackedFloat.pack .binary64 (.finite s m (-1074) hpos) =
      packComponents .binary64 s 0#_ (BitVec.ofNat _ m) := by
  have hlog : m.log2 < 52 := (Nat.log2_lt (by omega)).mpr hm
  unfold UnpackedFloat.pack
  rw [if_neg (by decide), if_neg]
  change m.log2 + 1 ≠ 53
  omega

theorem pack_normal (s : Sign) {m e : Nat} (hpos : 0 < m) (hlow : 2 ^ 52 ≤ m) (hhigh : m < 2 ^ 53)
    (he : e < 2047) :
    UnpackedFloat.pack .binary64 (.finite s m (e - 1075) hpos) =
      packComponents .binary64 s (BitVec.ofNat _ e) (BitVec.ofNat _ m) := by
  have hlog : m.log2 = 52 := by
    rw [Nat.log2_eq_iff (by omega)]
    omega
  have hbiased : ((e : Int) - 1075 + (Format.exponentBias .binary64 : Nat) +
      (Format.mantissaBitsWithoutImplicit .binary64 : Nat)).toNat = e := by
    change ((e : Int) - 1075 + 1023 + 52).toNat = e
    omega
  simp only [UnpackedFloat.pack, hbiased]
  rw [if_neg, if_pos]
  · change m.log2 + 1 = 53
    omega
  · change ¬ 2048 ≤ e + 1
    omega

/-- Reading a word and writing it again changes only the bits of a NaN. -/
theorem pack_unpack {b : BitVec 64} (hb : Format.Valid .binary64 b) :
    UnpackedFloat.pack .binary64 (UnpackedFloat.unpack .binary64 b) = b := by
  have hfields := packComponents_fields b
  have hmant : (@unpackMantissa .binary64 b).toNat < 2 ^ 52 := BitVec.isLt _
  have hexp : (@unpackExponent .binary64 b).toNat < 2 ^ 11 := BitVec.isLt _
  -- The cases of reading: infinity and NaN, zero and the subnormal numbers, the normal numbers.
  simp only [UnpackedFloat.unpack]
  split
  · rename_i htop
    split
    · rename_i hzero
      rwa [htop, hzero] at hfields
    · rename_i hzero
      exact (hb.eq_packedNaN htop hzero).symm
  · rename_i htop
    split
    · rename_i hlow
      split
      · rename_i hzero
        rwa [hlow, hzero] at hfields
      · rename_i hzero
        have hone : ((@unpackExponent .binary64 b).toNat : Int) -
            ((Format.exponentBias .binary64 : Nat) +
              (Format.mantissaBitsWithoutImplicit .binary64 : Nat)) + 1 = -1074 := by
          rw [hlow]
          rfl
        simp only [hone]
        rw [pack_subnormal _ _ hmant, BitVec.ofNat_toNat, BitVec.setWidth_eq]
        rwa [hlow] at hfields
    · have hsum := implicit_toNat (@unpackMantissa .binary64 b)
      have hbelow : (@unpackExponent .binary64 b).toNat < 2047 := by
        have hne : (@unpackExponent .binary64 b).toNat ≠ 2047 := fun h =>
          htop (BitVec.eq_of_toNat_eq h)
        omega
      have hfull : BitVec.ofNat 52 (2 ^ 52 + (@unpackMantissa .binary64 b).toNat) =
          @unpackMantissa .binary64 b := by
        apply BitVec.eq_of_toNat_eq
        rw [BitVec.toNat_ofNat, Nat.add_mod_left, Nat.mod_eq_of_lt hmant]
      simp only [hsum]
      refine (pack_normal _ _ (by omega) (by omega) hbelow).trans ?_
      rw [hfull, BitVec.ofNat_toNat, BitVec.setWidth_eq]
      exact hfields

theorem ofBits_toBits (x : Float) : Float.ofBits x.toBits = x := by
  obtain ⟨bits, hbits⟩ := x
  simp only [Float.ofBits, Float.Model.ofBits, Float.toBits, Float.Model.pack]
  congr
  rw [pack_unpack hbits]

theorem toBits_ofBits {w : UInt64} (h : w.toNat % 2 ^ 63 ≤ infinityBits) :
    (Float.ofBits w).toBits = w := by
  apply UInt64.toBitVec_inj.mp
  refine pack_unpack ⟨fun htop hmant => absurd ?_ hmant⟩
  rw [exponent_eq_top] at htop
  rw [mantissa_eq_zero]
  change w.toNat / 2 ^ 52 % 2 ^ 11 = 2047 at htop
  change w.toNat % 2 ^ 52 = 0
  unfold infinityBits at h
  omega

theorem toFloat_ofFloat (x : Float) : (Double.ofFloat x).toFloat = x := ofBits_toBits x

theorem toNat_lt (x : Double) : x.bits.toNat < 2 ^ 64 := UInt64.toNat_lt _

theorem assemble_self (x : Double) : assemble (negative x) (magnitude x) = x := by
  have hlt := toNat_lt x
  have hword : (if negative x then magnitude x + 2 ^ 63 else magnitude x) = x.bits.toNat := by
    unfold negative magnitude
    by_cases hneg : 2 ^ 63 ≤ x.bits.toNat
    · rw [if_pos (decide_eq_true hneg)]
      omega
    · rw [if_neg (by simpa using hneg)]
      omega
  unfold assemble
  rw [hword, UInt64.ofNat_toNat]

theorem magnitude_assemble (neg : Bool) {bits : Nat} (h : bits ≤ infinityBits) :
    magnitude (assemble neg bits) = bits := by
  have hword : (assemble neg bits).bits.toNat = if neg then bits + 2 ^ 63 else bits := by
    apply UInt64.toNat_ofNat_of_lt
    unfold infinityBits at h
    change _ < 2 ^ 64
    split <;> omega
  rw [magnitude, hword]
  unfold infinityBits at h
  split <;> omega

/-- Only the word of a NaN is another one after reading and writing. -/
theorem ofFloat_toFloat {x : Double} (h : magnitude x ≤ infinityBits) :
    Double.ofFloat x.toFloat = x :=
  congrArg Double.mk (toBits_ofBits h)

theorem isFinite_unpack (b : BitVec 64) :
    (UnpackedFloat.unpack .binary64 b).isFinite ↔ b.toNat / 2 ^ 52 % 2 ^ 11 ≠ 2047 := by
  rw [ne_eq, ← exponent_eq_top]
  simp only [UnpackedFloat.unpack]
  split
  · split <;> simp_all [UnpackedFloat.isFinite]
  · split
    · split <;> simp_all [UnpackedFloat.isFinite]
    · simp_all [UnpackedFloat.isFinite]

theorem isNaN_unpack (b : BitVec 64) :
    (UnpackedFloat.unpack .binary64 b).isNaN ↔
      b.toNat / 2 ^ 52 % 2 ^ 11 = 2047 ∧ b.toNat % 2 ^ 52 ≠ 0 := by
  rw [ne_eq, ← exponent_eq_top, ← mantissa_eq_zero]
  simp only [UnpackedFloat.unpack]
  split
  · split <;> simp_all [UnpackedFloat.isNaN]
  · split
    · split <;> simp_all [UnpackedFloat.isNaN]
    · simp_all [UnpackedFloat.isNaN]

theorem isFinite_ofFloat (x : Float) :
    x.isFinite ↔ magnitude (Double.ofFloat x) < infinityBits := by
  refine (isFinite_unpack x.toBits.toBitVec).trans ?_
  change x.toBits.toNat / 2 ^ 52 % 2 ^ 11 ≠ 2047 ↔ x.toBits.toNat % 2 ^ 63 < 2047 * 2 ^ 52
  omega

theorem isNaN_ofFloat (x : Float) : x.isNaN ↔ infinityBits < magnitude (Double.ofFloat x) := by
  refine (isNaN_unpack x.toBits.toBitVec).trans ?_
  change x.toBits.toNat / 2 ^ 52 % 2 ^ 11 = 2047 ∧ x.toBits.toNat % 2 ^ 52 ≠ 0 ↔
    2047 * 2 ^ 52 < x.toBits.toNat % 2 ^ 63
  omega

theorem isNaN_of_lt {x : Double} (h : infinityBits < magnitude x) : x.isNaN = true := by
  have hnan : (UnpackedFloat.unpack .binary64 x.bits.toBitVec).isNaN = true := by
    rw [isNaN_unpack]
    change x.bits.toNat / 2 ^ 52 % 2 ^ 11 = 2047 ∧ x.bits.toNat % 2 ^ 52 ≠ 0
    unfold magnitude infinityBits at h
    omega
  have hunpack : UnpackedFloat.unpack .binary64 x.bits.toBitVec = .notANumber := by
    cases hcase : UnpackedFloat.unpack .binary64 x.bits.toBitVec with
    | notANumber => rfl
    | zero s | infinity s | finite s m e hm =>
      rw [hcase] at hnan
      cases hnan
  change (UnpackedFloat.unpack .binary64 (UnpackedFloat.pack .binary64
    (UnpackedFloat.unpack .binary64 x.bits.toBitVec))).isNaN = true
  rw [hunpack]
  decide

theorem isNaN_iff (x : Double) : x.isNaN ↔ infinityBits < magnitude x := by
  refine ⟨fun hnan => Nat.lt_of_not_le fun hle => ?_, isNaN_of_lt⟩
  have hlt := (isNaN_ofFloat x.toFloat).mp hnan
  rw [ofFloat_toFloat hle] at hlt
  omega

theorem isFinite_iff (x : Double) : x.isFinite ↔ magnitude x < infinityBits := by
  by_cases hnan : infinityBits < magnitude x
  · -- The NaN of `Float` has a magnitude above that of infinity as well.
    have hlt := (isNaN_ofFloat x.toFloat).mp ((isNaN_iff x).mpr hnan)
    refine iff_of_false (fun hfinite => ?_) (by omega)
    have hbelow := (isFinite_ofFloat x.toFloat).mp hfinite
    omega
  · rw [Double.isFinite, isFinite_ofFloat, ofFloat_toFloat (Nat.le_of_not_lt hnan)]

theorem isFinite_assemble (neg : Bool) {bits : Nat} (h : bits < infinityBits) :
    (assemble neg bits).isFinite := by
  rw [isFinite_iff, magnitude_assemble neg (by omega)]
  exact h

end PushLang.Binary64
