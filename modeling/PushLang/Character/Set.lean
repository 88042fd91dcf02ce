namespace PushLang

/-- The characters whose code points are in one of the inclusive ranges. -/
structure CharSet where
  ranges : List (Nat × Nat)
  deriving DecidableEq, Repr

namespace CharSet

def empty : CharSet := ⟨[]⟩

def range (lo hi : Nat) : CharSet := ⟨[(lo, hi)]⟩

def single (c : Char) : CharSet := range c.toNat c.toNat

def isEmpty (s : CharSet) : Bool := s.ranges.isEmpty

def memRanges (n : Nat) : List (Nat × Nat) → Bool
  | [] => false
  | (lo, hi) :: rest => lo ≤ n && (n ≤ hi || memRanges n rest)

def hasCode (s : CharSet) (n : Nat) : Bool := memRanges n s.ranges

def mem (s : CharSet) (c : Char) : Bool := s.hasCode c.toNat

/-- Joins a range and others that begin no earlier, where they overlap or touch. -/
def joinFrom (lo hi : Nat) : List (Nat × Nat) → List (Nat × Nat)
  | [] => [(lo, hi)]
  | (a, b) :: rest =>
    if a ≤ hi + 1 then joinFrom lo (max hi b) rest else (lo, hi) :: joinFrom a b rest

def joined : List (Nat × Nat) → List (Nat × Nat)
  | [] => []
  | (lo, hi) :: rest => joinFrom lo hi rest

def ofRanges (ranges : List (Nat × Nat)) : CharSet :=
  ⟨joined (ranges.mergeSort fun r s => r.1 ≤ s.1)⟩

instance : Union CharSet := ⟨fun s t => ofRanges (s.ranges ++ t.ranges)⟩

/-- The code points from `next` on that are in none of some ranges in rising order. -/
def gapsFrom (next : Nat) : List (Nat × Nat) → List (Nat × Nat)
  | [] => if next ≤ 0x10ffff then [(next, 0x10ffff)] else []
  | (lo, hi) :: rest =>
    if next < lo then (next, lo - 1) :: gapsFrom (hi + 1) rest else gapsFrom (hi + 1) rest

def surrogates : CharSet := range 0xd800 0xdfff

def complement (s : CharSet) : CharSet := ⟨gapsFrom 0 (s ∪ surrogates).ranges⟩

def full : CharSet := complement empty

instance : Inter CharSet := ⟨fun s t => (s.complement ∪ t.complement).complement⟩

instance : SDiff CharSet := ⟨fun s t => (s.complement ∪ t).complement⟩

def symmDiff (s t : CharSet) : CharSet := (s ∪ t) \ (s ∩ t)

def only? (s : CharSet) : Option Char :=
  match s.ranges with
  | [(lo, hi)] => if lo = hi then some (Char.ofNat lo) else none
  | _ => none

def isAscii (s : CharSet) : Bool := s.ranges.all fun r => r.2 < 0x80

end CharSet

end PushLang
