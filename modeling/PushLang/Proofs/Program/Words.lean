import PushLang.Proofs.Decimal.Text
import PushLang.Proofs.Program.Reading

namespace PushLang

namespace Text

def IsName (w : List Char) : Prop := IsWord w ∧ ∀ c ∈ w.head?, isLetter c

instance (w : List Char) : Decidable (IsName w) :=
  @instDecidableAnd _ _ _ (Option.decidableForallMem (p := fun c => isLetter c) w.head?)

def IsNumeral (c : Char) : Prop := c.isDigit ∨ c = '-' ∨ c = '.'

theorem toNat_of_isNumeral {c : Char} (h : IsNumeral c) : 45 ≤ c.toNat ∧ c.toNat ≤ 57 := by
  rcases h with hdigit | rfl | rfl
  · have hc := toNat_of_isDigit hdigit
    omega
  · decide
  · decide

theorem isPlain_of_isNumeral {c : Char} (h : IsNumeral c) : IsPlain c := by
  have hc := toNat_of_isNumeral h
  refine ⟨?_, ?_, ?_⟩
  · simp [isBlank, inRanges, blankRanges]
    omega
  · rintro rfl
    exact absurd hc (by decide)
  · rintro rfl
    exact absurd hc (by decide)

theorem isLetter_of_isNumeral {c : Char} (h : IsNumeral c) : isLetter c = false := by
  have hc := toNat_of_isNumeral h
  have hupper : c.isUpper = false := by
    simp [Char.isUpper, UInt32.le_iff_toNat_le]
    omega
  have hlower : c.isLower = false := by
    simp [Char.isLower, UInt32.le_iff_toNat_le]
    omega
  rw [isLetter, if_pos (by omega), Char.isAlpha, hupper, hlower]
  rfl

end Text

open Text

namespace Decimal

theorem integer_ne_nil (n : Int64) : (integer n).toList ≠ [] := by
  rw [integer]
  split <;> simp

theorem isNumeral_integer {n : Int64} {c : Char} (h : c ∈ (integer n).toList) :
    IsNumeral c ∧ c ≠ '.' := by
  have hdigits := (isDigits_toDigits n.toInt.natAbs).2
  have hdigit : ∀ d, d.isDigit → IsNumeral d ∧ d ≠ '.' := by
    rintro d hd
    refine ⟨.inl hd, ?_⟩
    rintro rfl
    cases hd
  rw [integer, String.toList_ofList] at h
  split at h
  · rcases List.mem_cons.mp h with rfl | h
    · exact ⟨.inr (.inl rfl), by decide⟩
    · exact hdigit c (hdigits c h)
  · exact hdigit c (hdigits c h)

theorem point_mem_pointed {x : Double} (h : x.isFinite) : '.' ∈ (pointed x).toList := by
  obtain ⟨d, -, whole, places, -, -, htext, -⟩ :=
    isPointed_pointedDigits ((Binary64.isFinite_iff x).mp h)
  rw [toList_pointed h, htext]
  split <;> simp

theorem isNumeral_pointed {x : Double} (h : x.isFinite) {c : Char} (hc : c ∈ (pointed x).toList) :
    IsNumeral c := by
  obtain ⟨d, -, whole, places, hwhole, hplaces, htext, -⟩ :=
    isPointed_pointedDigits ((Binary64.isFinite_iff x).mp h)
  have hdigits : ∀ d ∈ whole ++ '.' :: places, IsNumeral d := by
    intro d hd
    rcases List.mem_append.mp hd with hd | hd
    · exact .inl (hwhole.2 d hd)
    · rcases List.mem_cons.mp hd with rfl | hd
      · exact .inr (.inr rfl)
      · exact .inl (hplaces.2 d hd)
  rw [toList_pointed h, htext] at hc
  split at hc
  · rcases List.mem_cons.mp hc with rfl | hc
    · exact .inr (.inl rfl)
    · exact hdigits c hc
  · exact hdigits c hc

end Decimal

namespace Atom

theorem ofWord_name {w : List Char} (h : IsName w) : ofWord w = .ok (.name (String.ofList w)) := by
  obtain ⟨⟨hne, -⟩, hletter⟩ := h
  rcases w with _ | ⟨c, w⟩
  · exact absurd rfl hne
  · have hc := hletter c rfl
    simp [ofWord, hc]

theorem ofWord_number {text : String} (h : ∀ c ∈ text.toList, IsNumeral c) {a : Atom}
    (ha : (if text.toList.contains '.' then (Decimal.readFloat? text).map float
      else (Decimal.readInteger? text).map integer) = some a) : ofWord text.toList = .ok a := by
  have hfirst : ¬ (text.toList.head?.map isLetter).getD false = true := by
    rcases hhead : text.toList.head? with _ | c
    · simp
    · have hc := isLetter_of_isNumeral (h c (List.mem_of_mem_head? hhead))
      simp [hc]
  simp only [ofWord, String.ofList_toList, ha]
  rw [if_neg hfirst]

theorem ofWord_integer (n : Int64) : ofWord (Decimal.integer n).toList = .ok (.integer n) := by
  refine ofWord_number (fun c hc => (Decimal.isNumeral_integer hc).1) ?_
  have hpoint : '.' ∉ (Decimal.integer n).toList := fun hc => (Decimal.isNumeral_integer hc).2 rfl
  rw [if_neg (by simpa using hpoint), Decimal.readInteger_integer]
  rfl

theorem ofWord_pointed {x : Double} (h : x.isFinite) :
    ofWord (Decimal.pointed x).toList = .ok (.float x) := by
  refine ofWord_number (fun c hc => Decimal.isNumeral_pointed h hc) ?_
  have hpoint := Decimal.point_mem_pointed h
  rw [if_pos (by simpa using hpoint), Decimal.readFloat_pointed h]
  rfl

/-- What is read from a word is a name that begins with a letter, or a number. -/
theorem ofWord_cases {w : List Char} {a : Atom} (hw : IsWord w) (h : ofWord w = .ok a) :
    (IsName w ∧ a = .name (String.ofList w)) ∨ (∃ n, a = .integer n) ∨ ∃ x, a = .float x := by
  unfold ofWord at h
  dsimp only at h
  split at h
  · rename_i hletter
    cases h
    refine .inl ⟨⟨hw, fun c hc => ?_⟩, rfl⟩
    rwa [Option.mem_def.mp hc] at hletter
  · right
    split at h
    · rename_i number b hnumber
      cases h
      split at hnumber
      · obtain ⟨x, -, rfl⟩ := Option.map_eq_some_iff.mp hnumber
        exact .inr ⟨x, rfl⟩
      · obtain ⟨n, -, rfl⟩ := Option.map_eq_some_iff.mp hnumber
        exact .inl ⟨n, rfl⟩
    · cases h

/-- A double that is not finite is written as a word, but read as a name or not at all. -/
theorem ofWord_not_isFinite {x : Double} (h : ¬ x.isFinite) :
    IsWord (Decimal.pointed x).toList ∧
      ((∃ e, ofWord (Decimal.pointed x).toList = .error e) ∨
        ∃ s, ofWord (Decimal.pointed x).toList = .ok (.name s)) := by
  have hnan : "NaN".toList = ['N', 'a', 'N'] := by simp
  have hinf : "inf".toList = ['i', 'n', 'f'] := by simp
  have hminus : "-inf".toList = ['-', 'i', 'n', 'f'] := by simp
  rcases Decimal.pointed_of_not_isFinite h with htext | htext | htext <;> rw [htext]
  · have hname : IsName "NaN".toList := by rw [hnan]; decide
    exact ⟨hname.1, .inr ⟨_, ofWord_name hname⟩⟩
  · have hname : IsName "inf".toList := by rw [hinf]; decide
    exact ⟨hname.1, .inr ⟨_, ofWord_name hname⟩⟩
  · have hword : IsWord "-inf".toList := by rw [hminus]; decide
    exact ⟨hword, .inl ⟨.invalidNumber "-inf", rfl⟩⟩

end Atom

end PushLang
