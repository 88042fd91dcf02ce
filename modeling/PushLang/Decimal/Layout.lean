import PushLang.Decimal.Basic

namespace PushLang.Decimal

open Binary64

def zeros (n : Nat) : List Char := List.replicate n '0'

def positional (d : Decimal) : List Char :=
  let digits := Nat.toDigits 10 d.digits
  let places := (-d.exponent).toNat
  if places = 0 then digits ++ zeros d.exponent.toNat
  else
    let padded := zeros (places + 1 - digits.length) ++ digits
    padded.take (padded.length - places) ++ '.' :: padded.drop (padded.length - places)

def scientific (d : Decimal) : List Char :=
  let digits := Nat.toDigits 10 d.digits
  let others := (digits.drop 1).reverse.dropWhile (· == '0') |>.reverse
  digits.take 1 ++ (if others.isEmpty then [] else '.' :: others) ++
    'e' :: (toString (d.exponent + digits.length - 1)).toList

/-- Writes a double, with `finite` for the bits of a finite magnitude. -/
def writeWith (finite : Nat → List Char) (x : Double) : String :=
  if infinityBits < magnitude x then "NaN"
  else
    let text := if magnitude x = infinityBits then "inf".toList else finite (magnitude x)
    String.ofList (if negative x then '-' :: text else text)

/-- The digits of a finite magnitude, with a point only before a fraction. -/
def plainDigits (bits : Nat) : List Char :=
  if bits = 0 then ['0'] else positional (shortest bits)

/-- The digits of a finite magnitude, always with a point. -/
def pointedDigits (bits : Nat) : List Char :=
  let text := plainDigits bits
  if text.contains '.' then text else text ++ ['.', '0']

/-- The digits of a finite magnitude, with an exponent below `0.0001` and from `10 ^ 16` on. -/
def exponentDigits (bits : Nat) : List Char :=
  if bits ≠ 0 ∧ (bits < Decimal.bits ⟨1, -4⟩ ∨ Decimal.bits ⟨1, 16⟩ ≤ bits) then
    scientific (shortest bits)
  else pointedDigits bits

def plain (x : Double) : String := writeWith plainDigits x

def pointed (x : Double) : String := writeWith pointedDigits x

def withExponent (x : Double) : String := writeWith exponentDigits x

def integer (n : Int64) : String :=
  let digits := Nat.toDigits 10 n.toInt.natAbs
  String.ofList (if n < 0 then '-' :: digits else digits)

end PushLang.Decimal
