import Mathlib.Data.List.TakeWhile
import PushLang.Proofs.Decimal.Digits
import PushLang.Proofs.Decimal.Shortest

namespace PushLang.Decimal

open Binary64 Text

/-- Digits on both sides of a point that are worth `d`. -/
def IsPointed (text : List Char) (d : Decimal) : Prop :=
  ∃ whole places, IsDigits whole ∧ IsDigits places ∧ text = whole ++ '.' :: places ∧
    d = ⟨digitsValue (digitsValue 0 whole) places, -places.length⟩

theorem readDecimal_of_isPointed {text : List Char} {d : Decimal} (h : IsPointed text d) :
    readDecimal? text = some d := by
  obtain ⟨whole, places, hwhole, hplaces, rfl, rfl⟩ := h
  have hend : '.'.isDigit = false := rfl
  have hfront : (whole ++ '.' :: places).takeWhile Char.isDigit = whole := by
    rw [List.takeWhile_append_of_pos hwhole.2, List.takeWhile_cons_of_neg (by simp [hend]),
      List.append_nil]
  have hback : (whole ++ '.' :: places).dropWhile Char.isDigit = '.' :: places := by
    rw [List.dropWhile_append_of_pos hwhole.2, List.dropWhile_cons_of_neg (by simp [hend])]
  have htake : places.takeWhile Char.isDigit = places :=
    List.takeWhile_eq_self_iff.mpr hplaces.2
  have hdrop : places.dropWhile Char.isDigit = [] := List.dropWhile_eq_nil_iff.mpr hplaces.2
  simp [readDecimal?, hfront, hback, htake, hdrop, readExponent?, hwhole.1]

theorem isPointed_cut {text : List Char} (h : ∀ c ∈ text, c.isDigit) {places : Nat}
    (hpos : 0 < places) (hlt : places < text.length) :
    IsPointed (text.take (text.length - places) ++ '.' :: text.drop (text.length - places))
      ⟨digitsValue 0 text, -places⟩ := by
  have hlength : (text.drop (text.length - places)).length = places := by
    rw [List.length_drop]
    omega
  have hvalue := digitsValue_append 0 (text.take (text.length - places))
    (text.drop (text.length - places))
  rw [List.take_append_drop] at hvalue
  refine ⟨_, _, ⟨?_, fun c hc => h c (List.mem_of_mem_take hc)⟩,
    ⟨?_, fun c hc => h c (List.mem_of_mem_drop hc)⟩, rfl, ?_⟩
  · rw [← List.length_pos_iff, List.length_take]
    omega
  · rw [← List.length_pos_iff, hlength]
    exact hpos
  · rw [hlength, hvalue]

theorem positional_cases (d : Decimal) :
    (0 ≤ d.exponent ∧ positional d = Nat.toDigits 10 d.digits ++ zeros d.exponent.toNat) ∨
      IsPointed (positional d) d := by
  unfold positional
  dsimp only
  split
  · exact .inl ⟨by omega, rfl⟩
  · right
    have hdigits := isDigits_toDigits d.digits
    generalize hpad : zeros _ ++ Nat.toDigits 10 d.digits = padded
    have hall : ∀ c ∈ padded, c.isDigit := by
      rw [← hpad]
      exact List.forall_mem_append.mpr ⟨fun c hc => isDigit_zeros hc, hdigits.2⟩
    have hlength : (-d.exponent).toNat < padded.length := by
      rw [← hpad, List.length_append, zeros, List.length_replicate]
      omega
    have hvalue : digitsValue 0 padded = d.digits := by
      rw [← hpad, digitsValue_append, digitsValue_zeros, Nat.zero_mul, digitsValue_toDigits]
    have hcut := isPointed_cut hall (by omega) hlength
    have hexponent : -((-d.exponent).toNat : Int) = d.exponent := by omega
    rw [hvalue, hexponent] at hcut
    exact hcut

theorem isPointed_positional (d : Decimal) :
    ∃ e : Decimal, e.bits = d.bits ∧
      IsPointed (if (positional d).contains '.' then positional d else positional d ++ ['.', '0'])
        e := by
  rcases positional_cases d with ⟨hexponent, htext⟩ | hpointed
  · have hall : ∀ c ∈ positional d, c.isDigit := by
      rw [htext]
      exact List.forall_mem_append.mpr ⟨(isDigits_toDigits _).2, fun c hc => isDigit_zeros hc⟩
    have hpoint : '.' ∉ positional d := fun hmem => absurd (hall _ hmem) (by decide)
    have hne : positional d ≠ [] := by simp [htext]
    have hvalue : digitsValue (digitsValue 0 (positional d)) ['0'] =
        d.digits * 10 ^ (d.exponent.toNat + 1) :=
      calc digitsValue (digitsValue 0 (positional d)) (zeros 1)
          = digitsValue 0 (positional d) * 10 ^ 1 := digitsValue_zeros _ 1
        _ = d.digits * 10 ^ d.exponent.toNat * 10 ^ 1 := by
          rw [htext, digitsValue_append, digitsValue_toDigits, digitsValue_zeros]
        _ = d.digits * 10 ^ (d.exponent.toNat + 1) := by rw [Nat.pow_add, Nat.mul_assoc]
    -- The zeros of the exponent and the one behind the point are digits now.
    have hplace : d.exponent - (d.exponent.toNat + 1 : Nat) = -(['0'].length : Int) := by
      rw [List.length_singleton]
      omega
    refine ⟨_, ?_, positional d, ['0'], ⟨hne, hall⟩, by simp [IsDigits], ?_, rfl⟩
    · rw [hvalue, ← hplace, bits_shift]
    · simp [hpoint]
  · have hpoint : '.' ∈ positional d := by
      obtain ⟨whole, places, -, -, htext, -⟩ := hpointed
      simp [htext]
    refine ⟨d, rfl, ?_⟩
    simpa [hpoint] using hpointed

theorem isPointed_pointedDigits {bits : Nat} (h : bits < infinityBits) :
    ∃ d : Decimal, d.bits = bits ∧ IsPointed (pointedDigits bits) d := by
  rcases Nat.eq_zero_or_pos bits with rfl | hpos
  · refine ⟨⟨0, -1⟩, rfl, ['0'], ['0'], ?_, ?_, rfl, rfl⟩ <;> simp [IsDigits]
  · have hround := bits_shortest hpos h
    obtain ⟨d, hd, hpointed⟩ := isPointed_positional (shortest bits)
    have hplain : plainDigits bits = positional (shortest bits) := if_neg (by omega)
    rw [← hplain] at hpointed
    exact ⟨d, hd.trans hround, hpointed⟩

theorem toList_pointed {x : Double} (h : x.isFinite) :
    (pointed x).toList =
      if negative x then '-' :: pointedDigits (magnitude x) else pointedDigits (magnitude x) := by
  have hlt := (isFinite_iff x).mp h
  rw [pointed, writeWith, if_neg (by omega), if_neg (by omega), String.toList_ofList]

theorem toLower_of_isDigit {c : Char} (h : c.isDigit) : c.toLower = c := by
  have hdigit := toNat_of_isDigit h
  have hnot : ¬ (c.val ≥ 'A'.val ∧ c.val ≤ 'Z'.val) := by
    rw [ge_iff_le, UInt32.le_iff_toNat_le]
    change ¬ (65 ≤ c.toNat ∧ _)
    omega
  rw [Char.toLower, dif_neg hnot]

theorem map_toLower_ne {digits : List Char} (h : IsDigits digits) (rest name : List Char)
    (hname : ∀ c ∈ name.head?, c.isDigit = false) :
    (digits ++ rest).map Char.toLower ≠ name := by
  obtain ⟨hne, hall⟩ := h
  rcases digits with _ | ⟨c, digits⟩
  · exact absurd rfl hne
  · have hc := hall c List.mem_cons_self
    rintro rfl
    have hhead := hname _ rfl
    rw [toLower_of_isDigit hc, hc] at hhead
    cases hhead

theorem readFloat_pointed {x : Double} (h : x.isFinite) : readFloat? (pointed x) = some x := by
  obtain ⟨d, hbits, hpointed⟩ := isPointed_pointedDigits ((isFinite_iff x).mp h)
  have hread := readDecimal_of_isPointed hpointed
  obtain ⟨whole, places, hwhole, -, htext, -⟩ := hpointed
  have hsign := splitSign_signed (negative x) hwhole ('.' :: places)
  have hnan := map_toLower_ne hwhole ('.' :: places) "nan".toList (by simp)
  have hinf := map_toLower_ne hwhole ('.' :: places) "inf".toList (by simp)
  have hinfinity := map_toLower_ne hwhole ('.' :: places) "infinity".toList (by simp)
  rw [← htext] at hsign hnan hinf hinfinity
  unfold readFloat?
  simp only [toList_pointed h, hsign, hread]
  rw [if_neg hnan, if_neg (not_or.mpr ⟨hinf, hinfinity⟩), Option.map_some, hbits, assemble_self]

theorem pointed_of_not_isFinite {x : Double} (h : ¬ x.isFinite) :
    pointed x = "NaN" ∨ pointed x = "inf" ∨ pointed x = "-inf" := by
  rw [isFinite_iff] at h
  unfold pointed writeWith
  split
  · exact .inl rfl
  · rename_i hle
    rw [if_pos (by omega)]
    right
    split
    · exact .inr rfl
    · exact .inl rfl

end PushLang.Decimal
