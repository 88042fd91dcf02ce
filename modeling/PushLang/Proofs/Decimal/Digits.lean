import PushLang.Decimal.Layout
import PushLang.Decimal.Reader

namespace PushLang

namespace Text

def IsDigits (text : List Char) : Prop := text ≠ [] ∧ ∀ c ∈ text, c.isDigit

theorem isDigits_toDigits (n : Nat) : IsDigits (Nat.toDigits 10 n) :=
  ⟨Nat.toDigits_ne_nil, fun _ hc => Nat.isDigit_of_mem_toDigits (by decide) (by decide) hc⟩

theorem isDigit_zeros {n : Nat} {c : Char} (h : c ∈ Decimal.zeros n) : c.isDigit := by
  rw [List.eq_of_mem_replicate h]
  rfl

theorem toNat_of_isDigit {c : Char} (h : c.isDigit) : 48 ≤ c.toNat ∧ c.toNat ≤ 57 :=
  Char.isDigit_iff_toNat.mp h

end Text

open Text

namespace Decimal

theorem digitsValue_append (n : Nat) (front back : List Char) :
    digitsValue n (front ++ back) = digitsValue (digitsValue n front) back :=
  Nat.ofDigitChars_append n

theorem digitsValue_toDigits (n : Nat) : digitsValue 0 (Nat.toDigits 10 n) = n :=
  Nat.ofDigitChars_ten_toDigits

theorem digitsValue_zeros (n k : Nat) : digitsValue n (zeros k) = n * 10 ^ k := by
  rw [Nat.mul_comm]
  exact Nat.ofDigitChars_replicate_zero

theorem readDigits_of_isDigits {text : List Char} (h : IsDigits text) :
    readDigits? text = some (digitsValue 0 text) := by
  have hall : text.all Char.isDigit = true := by simpa using h.2
  simp [readDigits?, h.1, hall]

theorem splitSign_signed (neg : Bool) {digits : List Char} (h : IsDigits digits)
    (rest : List Char) :
    splitSign (if neg then '-' :: (digits ++ rest) else digits ++ rest) = (neg, digits ++ rest) := by
  -- The first character is a digit, so it is neither of the two signs.
  obtain ⟨hne, hall⟩ := h
  rcases digits with _ | ⟨c, digits⟩
  · exact absurd rfl hne
  · have hc := toNat_of_isDigit (hall c List.mem_cons_self)
    cases neg with
    | true => rfl
    | false =>
      simp only [Bool.false_eq_true, if_false, List.cons_append]
      unfold splitSign
      split
      · rename_i hminus
        cases hminus
        exact absurd hc (by decide)
      · rename_i hplus
        cases hplus
        exact absurd hc (by decide)
      · rfl

theorem signed_natAbs (n : Int64) : signed (decide (n < 0)) n.toInt.natAbs = n.toInt := by
  have hlt : n < 0 ↔ n.toInt < 0 := Int64.lt_iff_toInt_lt
  unfold signed
  split
  · rename_i hn
    have hneg := hlt.mp (of_decide_eq_true hn)
    omega
  · rename_i hn
    have hnonneg := mt hlt.mpr (of_decide_eq_false (Bool.eq_false_iff.mpr hn))
    omega

theorem readInteger_integer (n : Int64) : readInteger? (integer n) = some n := by
  have hdigits := isDigits_toDigits n.toInt.natAbs
  have hsign := splitSign_signed (decide (n < 0)) hdigits []
  have hbounds : Int64.minValue.toInt ≤ n.toInt ∧ n.toInt ≤ Int64.maxValue.toInt :=
    ⟨Int64.minValue_le_toInt n, Int64.toInt_le n⟩
  simp only [List.append_nil, decide_eq_true_eq] at hsign
  simp only [readInteger?, integer, String.toList_ofList, hsign, readDigits_of_isDigits hdigits,
    digitsValue_toDigits, Option.bind_some, signed_natAbs, if_pos hbounds, Int64.ofInt_toInt]

end Decimal

end PushLang
