import PushLang.Proofs.Binary64.Bits
import PushLang.Atom.Basic

namespace PushLang.Binary64

open Float.Model Float.Model.UnpackedFloat

def IsZero : UnpackedFloat → Prop
  | .zero _ => True
  | _ => False

theorem eq_of_compare {m₁ m₂ : Nat} {e₁ e₂ : Int}
    (h : (compare e₁ e₂).then (compare m₁ m₂) = .eq) : e₁ = e₂ ∧ m₁ = m₂ := by
  obtain ⟨he, hm⟩ := Ordering.then_eq_eq.mp h
  exact ⟨Int.compare_eq_eq.mp he, Nat.compare_eq_eq.mp hm⟩

theorem eq_of_beq_unpacked {u v : UnpackedFloat} (h : u.beq v = true) :
    IsZero u ∧ IsZero v ∨ u.isNaN = false ∧ u = v := by
  have hcompare : u.compare v = some .eq := eq_of_beq h
  cases u with
  | notANumber => cases hcompare
  | zero s =>
    cases v with
    | zero t => exact .inl ⟨trivial, trivial⟩
    | notANumber => cases hcompare
    | infinity t | finite t m e hm => cases t <;> cases hcompare
  | infinity s =>
    cases v with
    | infinity t => cases s <;> cases t <;> first | exact .inr ⟨rfl, rfl⟩ | cases hcompare
    | notANumber => cases hcompare
    | zero t | finite t m e hm => cases s <;> cases hcompare
  | finite s m₁ e₁ p₁ =>
    cases v with
    | notANumber => cases hcompare
    | infinity t => cases t <;> cases hcompare
    | zero t => cases s <;> cases hcompare
    | finite t m₂ e₂ p₂ =>
      -- Signs that differ decide, and with one sign exponents and mantissas have to agree.
      cases s <;> cases t
      · obtain ⟨rfl, rfl⟩ := eq_of_compare (Ordering.swap_eq_eq.mp (Option.some.inj hcompare))
        exact .inr ⟨rfl, rfl⟩
      · cases hcompare
      · cases hcompare
      · obtain ⟨rfl, rfl⟩ := eq_of_compare (Option.some.inj hcompare)
        exact .inr ⟨rfl, rfl⟩

theorem beq_self_of {u : UnpackedFloat} (h : u.isNaN = false) : u.beq u = true := by
  cases u with
  | finite s m e hm => cases s <;> simp [UnpackedFloat.beq, UnpackedFloat.compare]
  | zero s | infinity s => cases s <;> rfl
  | notANumber => cases h

theorem beq_unpacked_iff (u v : UnpackedFloat) :
    u.beq v = true ↔ IsZero u ∧ IsZero v ∨ u.isNaN = false ∧ u = v := by
  refine ⟨eq_of_beq_unpacked, ?_⟩
  rintro (⟨hu, hv⟩ | ⟨hnumber, rfl⟩)
  · cases u with
    | zero s =>
      cases v with
      | zero t => rfl
      | notANumber | infinity t | finite t m e hm => cases hv
    | notANumber | infinity s | finite s m e hm => cases hu
  · exact beq_self_of hnumber

theorem isZero_unpack (b : BitVec 64) :
    IsZero (UnpackedFloat.unpack .binary64 b) ↔ b.toNat % 2 ^ 63 = 0 := by
  have hfields : b.toNat % 2 ^ 63 = 0 ↔
      b.toNat / 2 ^ 52 % 2 ^ 11 = 0 ∧ b.toNat % 2 ^ 52 = 0 := by omega
  have hlow : @unpackExponent .binary64 b = 0#_ ↔ b.toNat / 2 ^ 52 % 2 ^ 11 = 0 := by
    rw [← exponent_toNat, ← BitVec.toNat_inj]
    rfl
  rw [hfields, ← hlow, ← mantissa_eq_zero]
  simp only [UnpackedFloat.unpack]
  split
  · rename_i htop
    have hne : (-1#11 : BitVec 11) ≠ 0#11 := by decide
    split <;> simp_all [IsZero]
  · split
    · split <;> simp_all [IsZero]
    · simp_all [IsZero]

theorem toBits_inj_of_unpack {x y : Float} (h : x.toModel.unpack = y.toModel.unpack) :
    x.toBits = y.toBits := by
  apply UInt64.toBitVec_inj.mp
  calc x.toBits.toBitVec = UnpackedFloat.pack .binary64 x.toModel.unpack :=
        (pack_unpack x.toModel.valid).symm
    _ = UnpackedFloat.pack .binary64 y.toModel.unpack := by rw [h]
    _ = y.toBits.toBitVec := pack_unpack y.toModel.valid

theorem beq_float_iff (x y : Float) : (x == y) = true ↔
    magnitude (.ofFloat x) = 0 ∧ magnitude (.ofFloat y) = 0 ∨ x.isNaN = false ∧ x = y := by
  refine (beq_unpacked_iff x.toModel.unpack y.toModel.unpack).trans (or_congr (and_congr ?_ ?_) ?_)
  · exact isZero_unpack x.toBits.toBitVec
  · exact isZero_unpack y.toBits.toBitVec
  · refine and_congr_right fun _ => ⟨fun h => ?_, fun h => by rw [h]⟩
    rw [← ofBits_toBits x, toBits_inj_of_unpack h, ofBits_toBits]

theorem magnitude_le_of_not_isNaN {x : Double} (h : x.isNaN = false) :
    magnitude x ≤ infinityBits := by
  rwa [Bool.eq_false_iff, ne_eq, isNaN_iff, Nat.not_lt] at h

theorem magnitude_toFloat_eq_zero_iff (x : Double) :
    magnitude (.ofFloat x.toFloat) = 0 ↔ magnitude x = 0 := by
  cases hnan : x.isNaN
  · rw [ofFloat_toFloat (magnitude_le_of_not_isNaN hnan)]
  · have hfloat := (isNaN_ofFloat x.toFloat).mp hnan
    rw [isNaN_iff] at hnan
    omega

theorem toFloat_inj {x y : Double} (h : x.isNaN = false) : x.toFloat = y.toFloat ↔ x = y := by
  refine ⟨fun heq => ?_, congrArg Double.toFloat⟩
  have hy : y.isNaN = false := (congrArg Float.isNaN heq).symm.trans h
  rw [← ofFloat_toFloat (magnitude_le_of_not_isNaN h), heq,
    ofFloat_toFloat (magnitude_le_of_not_isNaN hy)]

theorem beq_iff (x y : Double) :
    (x == y) = true ↔ magnitude x = 0 ∧ magnitude y = 0 ∨ x.isNaN = false ∧ x = y := by
  refine (beq_float_iff x.toFloat y.toFloat).trans (or_congr (and_congr ?_ ?_) ?_)
  · exact magnitude_toFloat_eq_zero_iff x
  · exact magnitude_toFloat_eq_zero_iff y
  · exact and_congr_right toFloat_inj

theorem isNaN_of_zero {x : Double} (h : magnitude x = 0) : x.isNaN = false := by
  rw [Bool.eq_false_iff, ne_eq, isNaN_iff]
  omega

theorem beq_symm {x y : Double} (h : (x == y) = true) : (y == x) = true := by
  rw [beq_iff] at h ⊢
  rcases h with ⟨hx, hy⟩ | ⟨hnumber, rfl⟩
  · exact .inl ⟨hy, hx⟩
  · exact .inr ⟨hnumber, rfl⟩

theorem beq_trans {x y z : Double} (hxy : (x == y) = true) (hyz : (y == z) = true) :
    (x == z) = true := by
  rw [beq_iff] at hxy
  rcases hxy with ⟨hx, hy⟩ | ⟨-, rfl⟩
  · rw [beq_iff] at hyz ⊢
    rcases hyz with ⟨-, hz⟩ | ⟨-, rfl⟩
    · exact .inl ⟨hx, hz⟩
    · exact .inl ⟨hx, hy⟩
  · exact hyz

theorem beq_self_iff (x : Double) : (x == x) = true ↔ x.isNaN = false := by
  rw [beq_iff]
  constructor
  · rintro (⟨hzero, -⟩ | ⟨hnumber, -⟩)
    · exact isNaN_of_zero hzero
    · exact hnumber
  · intro hnumber
    exact .inr ⟨hnumber, rfl⟩

/-- Two doubles that atoms take for equal: two NaNs, whatever their payloads, two zeros, whatever
their signs, or twice the same word. -/
def Same (x y : Double) : Prop :=
  infinityBits < magnitude x ∧ infinityBits < magnitude y ∨ magnitude x = 0 ∧ magnitude y = 0 ∨ x = y

instance (x y : Double) : Decidable (Same x y) := inferInstanceAs (Decidable (_ ∨ _))

theorem same_iff (x y : Double) : (x == y || (x.isNaN && y.isNaN)) = true ↔ Same x y := by
  rw [Bool.or_eq_true, Bool.and_eq_true, beq_iff, isNaN_iff, isNaN_iff]
  constructor
  · rintro ((hzero | ⟨-, heq⟩) | hnan)
    · exact .inr (.inl hzero)
    · exact .inr (.inr heq)
    · exact .inl hnan
  · rintro (hnan | hzero | rfl)
    · exact .inr hnan
    · exact .inl (.inl hzero)
    · cases hnan : x.isNaN
      · exact .inl (.inr ⟨rfl, rfl⟩)
      · rw [isNaN_iff] at hnan
        exact .inr ⟨hnan, hnan⟩

theorem beq_zero_iff (x : Double) : (x == 0.0) = true ↔ magnitude x = 0 := by
  have hzero : magnitude 0.0 = 0 := by decide
  rw [beq_iff]
  constructor
  · rintro (⟨hx, -⟩ | ⟨-, rfl⟩)
    · exact hx
    · exact hzero
  · intro hx
    exact .inl ⟨hx, hzero⟩

/-- The largest word stands for every NaN and is the word of none but a NaN. -/
def nanWord : UInt64 := UInt64.ofNat (2 ^ 64 - 1)

theorem floatBits_zero {x : Double} (h : magnitude x = 0) : floatBits x = 0 := by
  rw [floatBits, if_pos ((beq_zero_iff x).mpr h)]

theorem floatBits_nan {x : Double} (h : infinityBits < magnitude x) : floatBits x = nanWord := by
  have hzero : ¬ (x == 0.0) = true := fun hzero => by
    rw [(beq_zero_iff x).mp hzero] at h
    cases h
  rw [floatBits, if_neg hzero, if_pos ((isNaN_iff x).mpr h)]
  rfl

theorem floatBits_number {x : Double} (hpos : magnitude x ≠ 0) (hle : magnitude x ≤ infinityBits) :
    floatBits x = x.bits := by
  have hzero : ¬ (x == 0.0) = true := fun hzero => hpos ((beq_zero_iff x).mp hzero)
  have hnan : ¬ x.isNaN = true := fun hnan => absurd ((isNaN_iff x).mp hnan) (by omega)
  rw [floatBits, if_neg hzero, if_neg hnan]

/-- The magnitude is read off the word that is fed, except that a NaN gives up its payload. -/
theorem toNat_floatBits (x : Double) : (floatBits x).toNat % 2 ^ 63 =
    if infinityBits < magnitude x then 2 ^ 63 - 1 else magnitude x := by
  split
  · rename_i hnan
    rw [floatBits_nan hnan]
    decide
  · rename_i hle
    by_cases hzero : magnitude x = 0
    · rw [floatBits_zero hzero, hzero]
      rfl
    · rw [floatBits_number hzero (by omega)]
      rfl

theorem floatBits_eq_iff (x y : Double) : floatBits x = floatBits y ↔ Same x y := by
  constructor
  · intro h
    have hx := toNat_floatBits x
    have hy := toNat_floatBits y
    have htop : infinityBits < 2 ^ 63 - 1 := by decide
    rw [h, hy] at hx
    -- The magnitudes tell which of the three kinds of words both have been fed.
    by_cases hnan : infinityBits < magnitude x
    · rw [if_pos hnan] at hx
      left
      split at hx <;> omega
    · rw [if_neg hnan] at hx
      right
      have hyle : magnitude y ≤ infinityBits := by
        split at hx <;> omega
      have heq : magnitude y = magnitude x := by rwa [if_neg (by omega)] at hx
      by_cases hzero : magnitude x = 0
      · exact .inl ⟨hzero, heq.trans hzero⟩
      · right
        rw [floatBits_number hzero (by omega), floatBits_number (heq ▸ hzero) hyle] at h
        exact congrArg Double.mk h
  · rintro (⟨hx, hy⟩ | ⟨hx, hy⟩ | rfl)
    · rw [floatBits_nan hx, floatBits_nan hy]
    · rw [floatBits_zero hx, floatBits_zero hy]
    · rfl

end PushLang.Binary64
