import PushLang.Decimal.Basic

namespace PushLang.Decimal

open Binary64

/-- The value of digits, added behind those of `n`. -/
def digitsValue (n : Nat) (digits : List Char) : Nat :=
  digits.foldl (fun value c => 10 * value + (c.toNat - '0'.toNat)) n

def readDigits? (text : List Char) : Option Nat :=
  if text.isEmpty || !text.all Char.isDigit then none else some (digitsValue 0 text)

def splitSign : List Char → Bool × List Char
  | '-' :: rest => (true, rest)
  | '+' :: rest => (false, rest)
  | text => (false, text)

def signed (negative : Bool) (n : Nat) : Int := if negative then -(n : Int) else n

def readInteger? (text : String) : Option Int64 :=
  let (negative, rest) := splitSign text.toList
  (readDigits? rest).bind fun n =>
    let value := signed negative n
    if Int64.minValue.toInt ≤ value ∧ value ≤ Int64.maxValue.toInt then some (Int64.ofInt value)
    else none

def readExponent? : List Char → Option Int
  | [] => some 0
  | c :: rest =>
    if c = 'e' ∨ c = 'E' then
      let (negative, digits) := splitSign rest
      (readDigits? digits).map (signed negative)
    else none

/-- Digits with at most one point among them, then an optional exponent. -/
def readDecimal? (text : List Char) : Option Decimal :=
  let whole := text.takeWhile Char.isDigit
  let rest := text.dropWhile Char.isDigit
  let (places, rest) :=
    match rest with
    | '.' :: rest => (rest.takeWhile Char.isDigit, rest.dropWhile Char.isDigit)
    | rest => ([], rest)
  if whole.isEmpty && places.isEmpty then none
  else (readExponent? rest).map fun exponent =>
    ⟨digitsValue (digitsValue 0 whole) places, exponent - places.length⟩

/-- A double: a decimal number, or an infinity or NaN by name. -/
def readFloat? (text : String) : Option Double :=
  let (negative, rest) := splitSign text.toList
  let word := rest.map Char.toLower
  if word = "nan".toList then some (assemble negative nanBits)
  else if word = "inf".toList ∨ word = "infinity".toList then
    some (assemble negative infinityBits)
  else (readDecimal? rest).map fun d => assemble negative d.bits

end PushLang.Decimal
