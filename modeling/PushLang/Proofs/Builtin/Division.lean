import Mathlib.Data.Int.ModEq
import PushLang.Proofs.Guarded.Machine
import PushLang.Proofs.Machine.Operands

namespace PushLang

variable {χ : Type}

theorem natAbs_remainder_lt (a : Int64) {b : Int64} (h : b ≠ 0) :
    (a % b).toInt.natAbs < b.toInt.natAbs := by
  have hb : b.toInt ≠ 0 := fun hb => h (Int64.toInt_inj.mp hb)
  rw [Int64.toInt_mod, Int.natAbs_tmod]
  exact Nat.mod_lt _ (Int.natAbs_pos.mpr hb)

theorem sign_remainder (a b : Int64) : a % b = 0 ∨ (a % b).toInt.sign = a.toInt.sign := by
  have hsign := Int.sign_tmod a.toInt b.toInt
  rw [← Int64.toInt_mod] at hsign
  by_cases hdvd : b.toInt ∣ a.toInt
  · rw [if_pos hdvd, Int.sign_eq_zero_iff_zero] at hsign
    exact .inl (Int64.toInt_inj.mp hsign)
  · rw [if_neg hdvd] at hsign
    exact .inr hsign

theorem quotient_mul_add_remainder_modEq (a b : Int64) :
    (a / b).toInt * b.toInt + (a % b).toInt ≡ a.toInt [ZMOD 2 ^ 64] := by
  have hquotient : (a / b).toInt ≡ a.toInt.tdiv b.toInt [ZMOD 2 ^ 64] := by
    rw [Int64.toInt_div]
    exact Int.bmod_emod
  calc (a / b).toInt * b.toInt + (a % b).toInt
      ≡ a.toInt.tdiv b.toInt * b.toInt + (a % b).toInt [ZMOD 2 ^ 64] :=
        (hquotient.mul_right _).add_right _
    _ = a.toInt := by rw [Int64.toInt_mod, Int.tdiv_mul_add_tmod]

theorem quotient_mul_add_remainder (a b : Int64) : a / b * b + a % b = a := by
  have hsum : a / b * b + a % b = Int64.ofInt ((a / b).toInt * b.toInt + (a % b).toInt) := by
    simp only [Int64.ofInt_add, Int64.ofInt_mul, Int64.ofInt_toInt]
  have hcongr : ((a / b).toInt * b.toInt + (a % b).toInt) % ((2 ^ 64 : Nat) : Int) =
      a.toInt % ((2 ^ 64 : Nat) : Int) := quotient_mul_add_remainder_modEq a b
  rw [hsum, Int64.ofInt_eq_iff_bmod_eq_toInt, ← Int.emod_bmod, hcongr, Int.emod_bmod]
  exact Int64.toInt_bmod a

namespace Machine

def withIntegers (m : Machine χ) (items : List Int64) : Machine χ :=
  m.setStack .integer (.ofList items)

theorem takeAll_withIntegers (m : Machine χ) (items : List Int64) (a b : Int64) :
    (m.withIntegers (items ++ [a, b])).takeAll false [.integer, .integer] =
      (some (a, b, ()), m.withIntegers items) := by
  have hitems : Stack.ofList (items ++ [a, b]) = ⟨b :: a :: items.reverse⟩ := by
    simp [Stack.ofList]
  rw [withIntegers, hitems]
  rfl

theorem push_withIntegers (m : Machine χ) (items : List Int64) (n : Int64) :
    (m.withIntegers items).push .integer n = m.withIntegers (items ++ [n]) := by
  have hitems : Stack.ofList (items ++ [n]) = (Stack.ofList items).push n := by
    rw [← Stack.toList_inj, Stack.toList_push, Stack.toList_ofList, Stack.toList_ofList]
  rw [withIntegers, withIntegers, hitems, push, stack_setStack_self, setStack_setStack]

end Machine

theorem integerBinary_withIntegers {f : Int64 → Int64 → Except Fault Int64} {a b n : Int64}
    (h : resultOf .integer (f a b) = some n) (m : Machine χ) (items : List Int64) :
    integerBinary f (m.withIntegers (items ++ [a, b])) =
      (m.withIntegers (items ++ [n]), .ok ()) := by
  rw [integerBinary, calculating, producing_of_some (m.takeAll_withIntegers items a b),
    ← m.push_withIntegers]
  dsimp only
  -- Without a result, and after a failure, nothing would be pushed.
  generalize f a b = result at h ⊢
  rcases result with (_ | _ | reason) | v <;> cases h
  · rfl
  · rfl

theorem divided_withIntegers (f : Int64 → Int64 → Int64) (m : Machine χ) (items : List Int64)
    (a b : Int64) :
    integerBinary (fun a b => if b = 0 then .error .arithmetic else .ok (f a b))
      (m.withIntegers (items ++ [a, b])) =
    (m.withIntegers (items ++ [if b = 0 then 0 else f a b]), .ok ()) := by
  apply integerBinary_withIntegers
  split <;> rfl

/-- The quotient and the remainder of two integers take the place of the two, and no operation
fails or leaves its domain. Both are zero for a divisor of zero. For any other one the quotient is
the exact one, cut off toward zero and wrapped around, the remainder is smaller than the divisor and
has the sign of the dividend, and multiplying and adding up gives the dividend. -/
theorem division_recombines [Host χ] (m : Machine χ) (items : List Int64) (a b : Int64) :
    ∃ q r p : Int64,
      (Builtin.integer .div).run (m.withIntegers (items ++ [a, b])) =
        (m.withIntegers (items ++ [q]), .ok ()) ∧
      (Builtin.integer .mod).run (m.withIntegers (items ++ [a, b])) =
        (m.withIntegers (items ++ [r]), .ok ()) ∧
      (Builtin.integer .mul).run (m.withIntegers (items ++ [q, b])) =
        (m.withIntegers (items ++ [p]), .ok ()) ∧
      (b = 0 → q = 0 ∧ r = 0) ∧
      (b ≠ 0 →
        q.toInt = (a.toInt.tdiv b.toInt).bmod (2 ^ 64) ∧
        (a = Int64.minValue → b = -1 → q = Int64.minValue) ∧
        r.toInt.natAbs < b.toInt.natAbs ∧
        (r = 0 ∨ r.toInt.sign = a.toInt.sign) ∧
        q.toInt * b.toInt + r.toInt ≡ a.toInt [ZMOD 2 ^ 64] ∧
        (Builtin.integer .add).run (m.withIntegers (items ++ [p, r])) =
          (m.withIntegers (items ++ [a]), .ok ())) ∧
      ∀ (op : IntegerOp) (m' : Machine χ),
        Guarded.runBuiltin? (.integer op) m' = some ((Builtin.integer op).run m') := by
  refine ⟨_, _, _, divided_withIntegers (· / ·) m items a b,
    divided_withIntegers (· % ·) m items a b,
    integerBinary_withIntegers (f := fun a b => .ok (a * b)) rfl m items,
    fun hb => ⟨if_pos hb, if_pos hb⟩, fun hb => ?_,
    fun op m' => congrFun (Guarded.runBuiltin?_eq (.integer op)) m'⟩
  rw [if_neg hb, if_neg hb]
  refine ⟨Int64.toInt_div a b, ?_, natAbs_remainder_lt a hb, sign_remainder a b,
    quotient_mul_add_remainder_modEq a b, ?_⟩
  · rintro rfl rfl
    exact Int64.minValue_div_neg_one
  · apply integerBinary_withIntegers (f := fun a b => .ok (a + b))
    exact congrArg some (quotient_mul_add_remainder a b)

/-- The only quotient that is no integer, with the remainder that goes with it, and a division by
zero. -/
theorem division_recombines_wrapping :
    let m : Machine Scripted := { source := .script [], config := {} }
    (-1 : Int64) ≠ 0 ∧
      (Builtin.integer .div).run (m.withIntegers [5, Int64.minValue, -1]) =
        (m.withIntegers [5, Int64.minValue], .ok ()) ∧
      (Builtin.integer .mod).run (m.withIntegers [5, Int64.minValue, -1]) =
        (m.withIntegers [5, 0], .ok ()) ∧
      (Builtin.integer .div).run (m.withIntegers [5, 7, 0]) = (m.withIntegers [5, 0], .ok ()) := by
  intro m
  have hdivisor : (-1 : Int64) ≠ 0 := by decide
  obtain ⟨q, r, p, hdiv, hmod, -, -, hrest, -⟩ := division_recombines m [5] Int64.minValue (-1)
  obtain ⟨-, hleast, hsmall, -⟩ := hrest hdivisor
  obtain rfl : q = Int64.minValue := hleast rfl rfl
  have hzero : r.toInt = 0 := Int.natAbs_eq_zero.mp (Nat.lt_one_iff.mp hsmall)
  obtain rfl : r = 0 := Int64.toInt_inj.mp hzero
  obtain ⟨z, _, _, hdiv', -, -, hz, -⟩ := division_recombines m [5] 7 0
  obtain ⟨rfl, -⟩ := hz rfl
  exact ⟨hdivisor, hdiv, hmod, hdiv'⟩

end PushLang
