namespace PushLang

/-- A double is its word of 64 bits, so that NaNs of different payloads differ. The calculations are
those of `Float`, where all NaNs are one; a result that is no number has the payload of that one. -/
structure Double where
  bits : UInt64
  deriving DecidableEq

namespace Double

def toFloat (x : Double) : Float := Float.ofBits x.bits

def ofFloat (x : Float) : Double := ⟨x.toBits⟩

def map (f : Float → Float) (x : Double) : Double := ofFloat (f x.toFloat)

def map₂ (f : Float → Float → Float) (x y : Double) : Double := ofFloat (f x.toFloat y.toFloat)

instance : OfScientific Double where
  ofScientific mantissa sign exponent := ofFloat (OfScientific.ofScientific mantissa sign exponent)

instance : Neg Double := ⟨map Neg.neg⟩

instance : Add Double := ⟨map₂ HAdd.hAdd⟩

instance : Sub Double := ⟨map₂ HSub.hSub⟩

instance : Mul Double := ⟨map₂ HMul.hMul⟩

instance : Div Double := ⟨map₂ HDiv.hDiv⟩

/-- Equality of numbers: both zeros are equal, and a NaN is not equal to itself. -/
instance : BEq Double := ⟨fun x y => x.toFloat == y.toFloat⟩

instance : LT Double := ⟨fun x y => x.toFloat < y.toFloat⟩

instance (x y : Double) : Decidable (x < y) := inferInstanceAs (Decidable (x.toFloat < y.toFloat))

def isFinite (x : Double) : Bool := x.toFloat.isFinite

def isNaN (x : Double) : Bool := x.toFloat.isNaN

end Double

namespace Binary64

-- Powers of natural numbers stay those of the core library where Mathlib has an instance as well.
attribute [instance (20000), default_instance 20000] instPowNat

def infinityBits : Nat := 2047 * 2 ^ 52

/-- The bits of the NaN that is read from its name. -/
def nanBits : Nat := infinityBits + 2 ^ 51

def one : Nat := 2 ^ 1074

def magnitude (x : Double) : Nat := x.bits.toNat % 2 ^ 63

def negative (x : Double) : Bool := 2 ^ 63 ≤ x.bits.toNat

def assemble (negative : Bool) (bits : Nat) : Double :=
  ⟨UInt64.ofNat (if negative then bits + 2 ^ 63 else bits)⟩

/-- The units that the bits of a finite magnitude are worth. -/
def units (bits : Nat) : Nat :=
  if bits < 2 ^ 52 then bits else (2 ^ 52 + bits % 2 ^ 52) * 2 ^ (bits / 2 ^ 52 - 1)

/-- The quotient rounded to the nearest whole number, a tie to the even one. -/
def divNearest (num den : Nat) : Nat :=
  let quotient := num / den
  let rest := num % den
  if 2 * rest < den then quotient
  else if den < 2 * rest then quotient + 1
  else quotient + quotient % 2

/-- The bits of the double nearest to `num / den` units. -/
def nearest (num den : Nat) : Nat :=
  let shift := (num / den).log2 - 52
  min (shift * 2 ^ 52 + divNearest num (den * 2 ^ shift)) infinityBits

end Binary64

end PushLang
