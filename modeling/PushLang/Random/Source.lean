import PushLang.Random.Keystream

namespace PushLang.Random

/-- Where random words come from. A script that has run out goes on with zeros. -/
inductive Source where
  | keystream (stream : Keystream)
  | script (words : List UInt64)

namespace Source

def ofSeed (seed : UInt64) : Source := .keystream (.ofSeed seed)

def next32 : Source → UInt32 × Source
  | .keystream stream => (stream.next.1, .keystream stream.next.2)
  | .script [] => (0, .script [])
  | .script (w :: rest) => (w.toUInt32, .script rest)

/-- A word of the stream is the low half, the one after it the high half. -/
def next64 : Source → UInt64 × Source
  | .keystream stream =>
    let (low, stream) := stream.next
    let (high, stream) := stream.next
    (low.toUInt64 + high.toUInt64 <<< 32, .keystream stream)
  | .script [] => (0, .script [])
  | .script (w :: rest) => (w, .script rest)

/-- How many words a draw may pass over. No script holds more words than that, and a keyed stream
is not expected to have so many in a row. -/
def patience : Source → Nat
  | .keystream _ => 1024
  | .script words => words.length

/-- The largest low half of a product that is accepted. -/
def zone (width n : Nat) : Nat := n * 2 ^ (width - (n.log2 + 1)) - 1

def drawWith (width : Nat) (next : Source → Nat × Source) (n : Nat) :
    Nat → Source → Nat × Source
  | 0, s => ((next s).1 * n / 2 ^ width, (next s).2)
  | tries + 1, s =>
    let (word, s) := next s
    if word * n % 2 ^ width ≤ zone width n then (word * n / 2 ^ width, s)
    else drawWith width next n tries s

def draw (n : Nat) (s : Source) : Nat × Source :=
  drawWith 64 (fun s => (s.next64.1.toNat, s.next64.2)) n s.patience s

def drawSmall (n : Nat) (s : Source) : Nat × Source :=
  drawWith 32 (fun s => (s.next32.1.toNat, s.next32.2)) n s.patience s

def drawBool (s : Source) : Bool × Source := (2 ^ 31 ≤ s.next32.1.toNat, s.next32.2)

/-- Exchanges each item from place `i` down to place one with an item at or below its place. -/
def shuffleFrom {α : Type} : Nat → Array α → Source → Array α × Source
  | 0, items, s => (items, s)
  | i + 1, items, s =>
    let (j, s) := s.drawSmall (i + 2)
    shuffleFrom i (items.swapIfInBounds (i + 1) j) s

def shuffle {α : Type} (items : List α) (s : Source) : List α × Source :=
  let (shuffled, s) := shuffleFrom (items.length - 1) items.toArray s
  (shuffled.toList, s)

end Source

end PushLang.Random
