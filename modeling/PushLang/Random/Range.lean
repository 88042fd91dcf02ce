import PushLang.Binary64.Arithmetic
import PushLang.Random.Source

namespace PushLang.Random

structure IntegerRange where
  min : Int64
  max : Int64
  resolution : Int64
  deriving DecidableEq

namespace IntegerRange

def isProper (r : IntegerRange) : Bool := 0 < r.resolution && r.min < r.max

/-- The largest number of steps. The width of a range that is too wide counts as the largest
integer. -/
def steps (r : IntegerRange) : Nat :=
  ((Int64.ofIntClamp (r.max.toInt - r.min.toInt)).toInt / r.resolution.toInt).toNat

def value (r : IntegerRange) (k : Nat) : Int64 :=
  Int64.ofIntClamp (r.min.toInt + (Int64.ofIntClamp (k * r.resolution.toInt)).toInt)

def sample (r : IntegerRange) (s : Source) : Int64 × Source :=
  if r.isProper then
    let (k, s) := s.draw (r.steps + 1)
    (r.value k, s)
  else (r.min, s)

end IntegerRange

structure FloatRange where
  min : Double
  max : Double
  resolution : Double

namespace FloatRange

def steps? (r : FloatRange) : Option Nat :=
  let quotient := (r.max - r.min) / r.resolution
  let whole := Binary64.units (Binary64.magnitude quotient) / Binary64.one
  if r.resolution > 0.0 ∧ r.max > r.min ∧ quotient.isFinite ∧ whole < 2 ^ 63 then some whole
  else none

def value (r : FloatRange) (k : Nat) : Double :=
  r.min + Binary64.ofInt64 (Int64.ofNat k) * r.resolution

def sample (r : FloatRange) (s : Source) : Double × Source :=
  match r.steps? with
  | some steps =>
    let (k, s) := s.draw (steps + 1)
    (r.value k, s)
  | none => (r.min, s)

end FloatRange

end PushLang.Random
