import PushLang.Pattern.Basic

namespace PushLang.Pattern

def byteCount (code : Nat) : Nat :=
  if code < 0x80 then 1 else if code < 0x800 then 2 else if code < 0x10000 then 3 else 4

def byteCountRange : Nat → Nat × Nat
  | 1 => (0, 0x7f)
  | 2 => (0x80, 0x7ff)
  | 3 => (0x800, 0xffff)
  | _ => (0x10000, 0x10ffff)

/-- The rows of byte ranges that make up a range of code points, which take `count + 1` bytes. -/
def byteRows : Nat → Nat → Nat → List (List (Nat × Nat))
  | 0, lo, hi => [[(lo, hi)]]
  | count + 1, lo, hi =>
    let block := 64 ^ (count + 1)
    let (first, last) := (lo / block, hi / block)
    if first = last then (byteRows count (lo % block) (hi % block)).map ((first, first) :: ·)
    else
      let isCut := lo % block ≠ 0
      let isShort := hi % block ≠ block - 1
      let low := if isCut then first + 1 else first
      let high := if isShort then last - 1 else last
      let head :=
        if isCut then (byteRows count (lo % block) (block - 1)).map ((first, first) :: ·) else []
      let middle :=
        if low ≤ high then [(low, high) :: List.replicate (count + 1) (0, 63)] else []
      let tail := if isShort then (byteRows count 0 (hi % block)).map ((last, last) :: ·) else []
      head ++ middle ++ tail

def rows (s : CharSet) : List (List (Nat × Nat)) :=
  s.ranges.flatMap fun (lo, hi) =>
    [1, 2, 3, 4].flatMap fun count =>
      let (least, most) := byteCountRange count
      let (lo, hi) := (max lo least, min hi most)
      if lo ≤ hi then (byteRows (count - 1) lo hi).map ((count, count) :: ·) else []

def shared {α : Type} [BEq α] : List α → List α → Nat
  | a :: as, b :: bs => if a == b then shared as bs + 1 else 0
  | _, _ => 0

/-- The number of branches in the tree of some rows in order, the marks of the rows left out. -/
def branches : List (List (Nat × Nat)) → Nat
  | [] => 0
  | [r] => r.length - 1
  | r :: s :: rest => r.length - max 1 (shared r s) + branches (s :: rest)

inductive Direction where
  | forward
  | backward

/-- The weight of a set: that of a literal, of a single step, or of a tree. Forward, the tree has a
state where it branches, and backward one for each branch. -/
def setWeight (d : Direction) (s : CharSet) : Nat :=
  match s.only? with
  | some c => 32 * byteCount c.toNat
  | none =>
    if s.isAscii then 64 + 8 * s.ranges.length
    else
      let rows := rows s
      match d with
      | .forward => 64 + 40 * branches rows - 32 * rows.length
      | .backward => 64 + 32 * branches rows + 4 * rows.length

def choiceWeight : Nat := 40

/-- What an alternative adds to the weight of a row of them, which is a single choice. -/
def alternativeWeight (p : Pattern) (weight : Nat) : Nat :=
  match p with
  | .alt _ _ => weight - 64
  | _ => weight + 4

/-- The weight of the ends of a group, which are noted by an automaton that reads forward. -/
def groupWeight : Direction → Nat
  | .forward => 64
  | .backward => 0

/-- The bytes that the states for a pattern take: 32 for a state, 8 for a step and 4 for an
alternative. -/
def weight (d : Direction) : Pattern → Nat
  | .empty => 32
  | .set s => setWeight d s
  | .anchor _ => 32
  | .seq p q => p.weight d + q.weight d
  | .alt p q => 64 + alternativeWeight p (p.weight d) + alternativeWeight q (q.weight d)
  | .repeated p least (some most) =>
    let exact := least * p.weight d
    if most = least then exact else exact + (most - least) * (choiceWeight + p.weight d) + 32
  | .repeated p least none =>
    if least = 0 ∧ p.isNullable then 2 * choiceWeight + 32 + p.weight d
    else max least 1 * p.weight d + choiceWeight
  | .group p => groupWeight d + p.weight d

/-- The most that an automaton may weigh: 10 MiB. -/
def weightLimit : Nat := 10 * 2 ^ 20

/-- Whether a pattern is light enough for both directions, with what every automaton takes: a loop
to begin anywhere, an end, and a group for the whole pattern. -/
def isLight (p : Pattern) : Bool :=
  p.weight .forward + 144 + groupWeight .forward ≤ weightLimit &&
    p.weight .backward + 144 + groupWeight .backward ≤ weightLimit

end PushLang.Pattern
