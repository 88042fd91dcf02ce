import PushLang.Binary64.Basic

namespace PushLang

open Binary64

/-- The number `digits * 10 ^ exponent`. -/
structure Decimal where
  digits : Nat
  exponent : Int
  deriving DecidableEq

namespace Decimal

def width (n : Nat) : Nat := (Nat.toDigits 10 n).length

/-- The bits of the nearest double. Outside of `10 ^ ±400` no digits need to be looked at. -/
def bits (d : Decimal) : Nat :=
  if d.digits = 0 then 0
  else if 400 < d.exponent + width d.digits then infinityBits
  else if d.exponent + width d.digits < -400 then 0
  else nearest (d.digits * 10 ^ d.exponent.toNat * one) (10 ^ (-d.exponent).toNat)

def leading (num den : Nat) : Int :=
  if den ≤ num then width (num / den) - 1 else -(width ((den - 1) / num) : Int)

def trim (d : Decimal) : Decimal :=
  if d.digits % 10 = 0 then ⟨d.digits / 10, d.exponent + 1⟩ else d

/-- The neighbours with this exponent of the double with these bits, the nearer one first. -/
def neighbours (bits : Nat) (exponent : Int) : List Decimal :=
  let num := units bits * 10 ^ (-exponent).toNat
  let den := one * 10 ^ exponent.toNat
  let below : Decimal := ⟨num / den, exponent⟩
  let above : Decimal := trim ⟨num / den + 1, exponent⟩
  if den ≤ 2 * (num % den) then [above, below] else [below, above]

/-- The decimal with the fewest digits that rounds to the double with these bits; of those the
nearest, and the larger one of two that are equally near. The exact value is a last resort. -/
def shortest (bits : Nat) : Decimal :=
  let first := leading (units bits) one
  let candidates := (List.range 17).flatMap fun (n : Nat) => neighbours bits (first - n)
  (candidates.find? fun d => d.bits == bits).getD ⟨units bits * 5 ^ 1074, -1074⟩

end Decimal

end PushLang
