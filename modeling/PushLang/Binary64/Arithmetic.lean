import PushLang.Binary64.Basic

namespace PushLang.Binary64

def ofInt64 (n : Int64) : Double := assemble (n < 0) (nearest (n.toInt.natAbs * one) 1)

/-- The integer part, the nearest bound if that is out of range, and zero for NaN. -/
def truncate (x : Double) : Int64 :=
  if infinityBits < magnitude x then 0
  else
    let whole : Nat := if magnitude x = infinityBits then 2 ^ 63 else units (magnitude x) / one
    Int64.ofIntClamp (if negative x then -(whole : Int) else whole)

/-- The remainder of the division toward zero, which has the sign of `x`. -/
def remainder (x y : Double) : Double :=
  if infinityBits ≤ magnitude x || infinityBits < magnitude y || magnitude y = 0 then 0.0 / 0.0
  else if magnitude y = infinityBits then x
  else assemble (negative x) (nearest (units (magnitude x) % units (magnitude y)) 1)

/-- The smaller of two numbers, or the other one if one is NaN. -/
def lesser (x y : Double) : Double :=
  if x.isNaN then y else if y.isNaN then x else if y < x then y else x

def greater (x y : Double) : Double :=
  if x.isNaN then y else if y.isNaN then x else if x < y then y else x

end PushLang.Binary64
