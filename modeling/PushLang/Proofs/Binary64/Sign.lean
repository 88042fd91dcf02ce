import PushLang.Proofs.Binary64.Bits

namespace PushLang.Binary64

open Float.Model Float.Model.UnpackedFloat

/-- The mantissa has 53 bits, or the exponent is the least one and the mantissa has fewer. -/
def Canonical : UnpackedFloat → Prop
  | .finite _ m e _ => m < 2 ^ 53 ∧ -1074 ≤ e ∧ (-1074 < e → 2 ^ 52 ≤ m)
  | _ => True

/-- Zero and infinity count with their sign, a NaN has none. -/
def Unsigned : UnpackedFloat → Prop
  | .finite s _ _ _ => s = .positive
  | .zero s => s = .positive
  | .infinity s => s = .positive
  | .notANumber => True

theorem canonical_unpack (b : BitVec 64) : Canonical (UnpackedFloat.unpack .binary64 b) := by
  have hmant : (@unpackMantissa .binary64 b).toNat < 2 ^ 52 := BitVec.isLt _
  have hfull := implicit_toNat (@unpackMantissa .binary64 b)
  have hbias : (Format.exponentBias .binary64 : Int) + Format.mantissaBitsWithoutImplicit .binary64 =
    1075 := rfl
  simp only [UnpackedFloat.unpack]
  split
  · split <;> trivial
  · split
    · rename_i hlow
      split
      · trivial
      · have hexp : (@unpackExponent .binary64 b).toNat = 0 := by
          rw [hlow]
          rfl
        simp only [Canonical, hbias, hexp]
        omega
    · rename_i hlow
      have hexp : (@unpackExponent .binary64 b).toNat ≠ 0 := fun h =>
        hlow (BitVec.eq_of_toNat_eq h)
      simp only [Canonical, hbias, hfull]
      omega

theorem unsigned_round {m : Nat} {e : Int} : Unsigned (UnpackedFloat.round .binary64 .positive m e) := by
  simp only [UnpackedFloat.round, roundWithAccuracy]
  split <;> rfl

theorem unsigned_roundWithAccuracy {m : Nat} {e : Int} {a : Accuracy} :
    Unsigned (roundWithAccuracy .binary64 .positive m e a) := by
  simp only [roundWithAccuracy]
  split <;> rfl

theorem unsigned_normalize {m e : Int} (h : 0 ≤ m) :
    Unsigned (UnpackedFloat.normalize .binary64 m e .positive) := by
  unfold UnpackedFloat.normalize
  split
  · rename_i hlt
    rw [Int.compare_eq_lt] at hlt
    omega
  · rfl
  · exact unsigned_round

theorem top_bit (s : BitVec 1) (e : BitVec 11) (m : BitVec 52) :
    (s ++ e ++ m).getLsbD 63 = s.getLsbD 0 := by
  simp only [BitVec.getLsbD_append]
  rfl

theorem unpackSign_positive (e : BitVec 11) (m : BitVec 52) :
    @unpackSign .binary64 (packComponents .binary64 .positive e m) = 0#1 := by
  apply BitVec.eq_of_getLsbD_eq
  intro i hi
  obtain rfl : i = 0 := by omega
  simp only [unpackSign, packComponents, BitVec.getLsbD_cast, BitVec.getLsbD_extractLsb]
  exact top_bit _ _ _

theorem unsigned_unpack_positive (e : BitVec 11) (m : BitVec 52) :
    Unsigned (UnpackedFloat.unpack .binary64 (packComponents .binary64 .positive e m)) := by
  simp only [UnpackedFloat.unpack, unpackSign_positive]
  split
  · split <;> trivial
  · split
    · split <;> rfl
    · rfl

/-- No sign appears in writing and reading, also where the exponent overflows. -/
theorem unsigned_unpack_pack {u : UnpackedFloat} (h : Unsigned u) :
    Unsigned (UnpackedFloat.unpack .binary64 (UnpackedFloat.pack .binary64 u)) := by
  cases u with
  | notANumber => exact unsigned_unpack_positive _ _
  | infinity s =>
    cases h
    exact unsigned_unpack_positive _ _
  | zero s =>
    cases h
    exact unsigned_unpack_positive _ _
  | finite s m e hm =>
    cases h
    unfold UnpackedFloat.pack
    dsimp only
    split
    · exact unsigned_unpack_positive _ _
    · split <;> exact unsigned_unpack_positive _ _

/-- Canonical doubles compare by exponent first, so they compare in a common exponent. -/
theorem shifted_le {m₁ m₂ : Nat} {e₁ e₂ : Int} (hm : m₂ < 2 ^ 53) (hlow : -1074 ≤ e₂)
    (hfull : -1074 < e₁ → 2 ^ 52 ≤ m₁) (h : e₂ < e₁ ∨ e₂ = e₁ ∧ m₂ ≤ m₁) :
    m₂ <<< (e₂ - min e₁ e₂).toNat ≤ m₁ <<< (e₁ - min e₁ e₂).toNat := by
  simp only [Nat.shiftLeft_eq]
  rcases h with hlt | ⟨rfl, hle⟩
  · have hzero : (e₂ - min e₁ e₂).toNat = 0 := by omega
    obtain ⟨k, hk⟩ : ∃ k, (e₁ - min e₁ e₂).toNat = k + 1 := ⟨_, (Nat.sub_add_cancel (by omega)).symm⟩
    have hpow := Nat.two_pow_pos k
    have hfull := hfull (by omega)
    rw [hzero, hk, Nat.pow_succ']
    calc m₂ * 2 ^ 0 ≤ m₁ * 2 * 1 := by omega
      _ ≤ m₁ * 2 * 2 ^ k := Nat.mul_le_mul_left _ hpow
      _ = m₁ * (2 * 2 ^ k) := Nat.mul_assoc _ _ _
  · exact Nat.mul_le_mul_right _ hle

theorem lt_of_compare {m₁ m₂ : Nat} {e₁ e₂ : Int}
    (h : (compare e₂ e₁).then (compare m₂ m₁) = .lt) : e₂ < e₁ ∨ e₂ = e₁ ∧ m₂ ≤ m₁ := by
  rcases Ordering.then_eq_lt.mp h with hlt | ⟨heq, hlt⟩
  · exact .inl (Int.compare_eq_lt.mp hlt)
  · exact .inr ⟨Int.compare_eq_eq.mp heq, Nat.le_of_lt (Nat.compare_eq_lt.mp hlt)⟩

theorem unsigned_sub_finite {s t : Sign} {m₁ m₂ : Nat} {e₁ e₂ : Int} {p₁ : 0 < m₁} {p₂ : 0 < m₂}
    (hx : Canonical (.finite s m₁ e₁ p₁)) (hy : Canonical (.finite t m₂ e₂ p₂))
    (h : (UnpackedFloat.finite t m₂ e₂ p₂).lt (.finite s m₁ e₁ p₁) = true) :
    Unsigned (UnpackedFloat.sub .binary64 (.finite s m₁ e₁ p₁) (.finite t m₂ e₂ p₂)) := by
  obtain ⟨hm₁, hlow₁, hfull₁⟩ := hx
  obtain ⟨hm₂, hlow₂, hfull₂⟩ := hy
  simp only [UnpackedFloat.sub, decreaseExponent]
  apply unsigned_normalize
  have hcompare := eq_of_beq h
  generalize hshift₁ : m₁ <<< (e₁ - min e₁ e₂).toNat = a
  generalize hshift₂ : m₂ <<< (e₂ - min e₁ e₂).toNat = b
  -- Where the signs differ the comparison decides; where they agree the shifted mantissas do.
  cases s <;> cases t <;> simp only [UnpackedFloat.compare, Sign.apply] at hcompare ⊢
  · have hswap : (compare e₁ e₂).then (compare m₁ m₂) = .lt := by
      rw [← Int.compare_swap, ← Nat.compare_swap, ← Ordering.swap_then]
      exact Option.some.inj hcompare
    have hle := shifted_le hm₁ hlow₁ hfull₂ (lt_of_compare hswap)
    rw [Int.min_comm, hshift₁, hshift₂] at hle
    omega
  · cases hcompare
  · omega
  · have hle := shifted_le hm₂ hlow₂ hfull₁ (lt_of_compare (Option.some.inj hcompare))
    rw [hshift₁, hshift₂] at hle
    omega

theorem unsigned_sub {x y : UnpackedFloat} (hx : Canonical x) (hy : Canonical y)
    (h : y.lt x = true) : Unsigned (UnpackedFloat.sub .binary64 x y) := by
  rcases x with s | _ | s | ⟨s, m₁, e₁, p₁⟩
  · rcases y with t | _ | t | ⟨t, m₂, e₂, p₂⟩
    · cases s <;> cases t <;> first | rfl | cases h
    · exact trivial
    · cases s <;> cases t <;> first | rfl | cases h
    · cases s <;> cases t <;> first | rfl | cases h
  · cases y <;> exact trivial
  · rcases y with t | _ | t | ⟨t, m₂, e₂, p₂⟩
    · cases s <;> cases t <;> first | rfl | cases h
    · exact trivial
    · cases h
    · cases t <;> first | rfl | cases h
  · rcases y with t | _ | t | ⟨t, m₂, e₂, p₂⟩
    · cases s <;> cases t <;> first | rfl | cases h
    · exact trivial
    · cases s <;> first | rfl | cases h
    · exact unsigned_sub_finite hx hy h

theorem unsigned_div {x y : UnpackedFloat} (hx : Unsigned x)
    (hy : (UnpackedFloat.zero .positive).lt y = true) :
    Unsigned (UnpackedFloat.div .binary64 x y) := by
  rcases y with t | _ | t | ⟨t, m₂, e₂, p₂⟩
  · cases t
    · cases hy
    · cases x <;> first | exact trivial | (cases hx; rfl)
  · cases hy
  · cases hy
  · cases t
    · cases hy
    · rcases x with s | _ | s | ⟨s, m₁, e₁, p₁⟩
      · cases hx
        rfl
      · exact trivial
      · cases hx
        rfl
      · cases hx
        exact unsigned_roundWithAccuracy

theorem sign_toNat (b : BitVec 64) : (@unpackSign .binary64 b).toNat = b.toNat / 2 ^ 63 % 2 := by
  simp [unpackSign, BitVec.extractLsb_toNat, Nat.shiftRight_eq_div_pow]

theorem sign_positive {b : BitVec 64} (h : Unsigned (UnpackedFloat.unpack .binary64 b))
    (hfinite : (UnpackedFloat.unpack .binary64 b).isFinite) :
    Sign.ofBitVec (@unpackSign .binary64 b) = .positive := by
  simp only [UnpackedFloat.unpack] at h hfinite
  split at h
  · rename_i htop
    rw [if_pos htop] at hfinite
    split at hfinite <;> cases hfinite
  · split at h
    · split at h <;> exact h
    · exact h

theorem negative_eq_false {x : Float} (h : Unsigned x.toModel.unpack) (hfinite : x.isFinite) :
    negative (.ofFloat x) = false := by
  have hsign := sign_positive h hfinite
  have hbit : @unpackSign .binary64 x.toBits.toBitVec = 0#1 := by
    unfold Sign.ofBitVec at hsign
    split at hsign
    · assumption
    · cases hsign
  have htoNat := sign_toNat x.toBits.toBitVec
  rw [hbit] at htoNat
  have hlt := toNat_lt (.ofFloat x)
  change 0 = (Double.ofFloat x).bits.toNat / 2 ^ 63 % 2 at htoNat
  unfold negative
  rw [decide_eq_false_iff_not]
  omega

theorem negative_quotient {low high step : Double} (hstep : step > 0.0) (h : high > low)
    (hfinite : ((high - low) / step).isFinite) : negative ((high - low) / step) = false := by
  have hsub : Unsigned (high.toFloat - low.toFloat).toModel.unpack :=
    unsigned_unpack_pack (unsigned_sub (canonical_unpack _) (canonical_unpack _) (of_decide_eq_true h))
  have hdiv : Unsigned ((high - low).toFloat / step.toFloat).toModel.unpack := by
    change Unsigned ((Double.ofFloat (high.toFloat - low.toFloat)).toFloat / _).toModel.unpack
    rw [toFloat_ofFloat]
    exact unsigned_unpack_pack (unsigned_div hsub (of_decide_eq_true hstep))
  refine negative_eq_false hdiv ?_
  rwa [← toFloat_ofFloat (_ / _)]

end PushLang.Binary64
