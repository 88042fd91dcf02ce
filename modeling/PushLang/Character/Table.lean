import PushLang.Character.Set

namespace PushLang

/-- A class of characters, with all its names and the rows of a table that list its members. -/
structure CharClass where
  names : List String
  rows : List String

namespace CharClass

def hexDigitValue (c : Char) : Nat := if c.isDigit then c.toNat - 48 else c.toNat - 87

def hexValue (digits : String) : Nat :=
  digits.toList.foldl (fun n c => 16 * n + hexDigitValue c) 0

/-- The ends of a range, which are the same if it is a single code point. -/
def ends (word : String) : Nat × Nat :=
  match word.splitOn "-" with
  | [lo, hi] => (hexValue lo, hexValue hi)
  | _ => (hexValue word, hexValue word)

def wordRanges (word : String) : List (Nat × Nat) :=
  match word.splitOn "/" with
  | [ends, _] =>
    let (lo, hi) := CharClass.ends ends
    (List.range ((hi - lo) / 2 + 1)).map fun k => (lo + 2 * k, lo + 2 * k)
  | _ => [ends word]

def ranges (c : CharClass) : List (Nat × Nat) :=
  c.rows.flatMap fun row => (row.splitOn " ").flatMap wordRanges

def members (c : CharClass) : CharSet := CharSet.ofRanges c.ranges

def find? (classes : List CharClass) (name : String) : Option CharSet :=
  (classes.find? (·.names.contains name)).map members

end CharClass

end PushLang
