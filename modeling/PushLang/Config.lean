import PushLang.Random.Range

namespace PushLang

/-- Limits on the code that instructions may build, the ranges of random constants, and the seed of
the random source if it is to be a fixed one. -/
structure Config where
  maxPoints : Nat := 100
  maxRandomSize : Nat := 100
  integers : Random.IntegerRange := ⟨-100, 100, 1⟩
  floats : Random.FloatRange := ⟨-10.0, 10.0, 0.01⟩
  seed : Option UInt64 := none

end PushLang
