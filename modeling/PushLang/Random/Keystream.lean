namespace PushLang.Random

abbrev Block := Vector UInt32 16

def rotateLeft (x : UInt32) (n : UInt32) : UInt32 := (x <<< n) ||| (x >>> (32 - n))

def quarterRound (v : Block) (a b c d : Fin 16) : Block :=
  let v := v.set a (v[a] + v[b])
  let v := v.set d (rotateLeft (v[d] ^^^ v[a]) 16)
  let v := v.set c (v[c] + v[d])
  let v := v.set b (rotateLeft (v[b] ^^^ v[c]) 12)
  let v := v.set a (v[a] + v[b])
  let v := v.set d (rotateLeft (v[d] ^^^ v[a]) 8)
  let v := v.set c (v[c] + v[d])
  v.set b (rotateLeft (v[b] ^^^ v[c]) 7)

def doubleRound (v : Block) : Block :=
  let v := quarterRound v 0 4 8 12
  let v := quarterRound v 1 5 9 13
  let v := quarterRound v 2 6 10 14
  let v := quarterRound v 3 7 11 15
  let v := quarterRound v 0 5 10 15
  let v := quarterRound v 1 6 11 12
  let v := quarterRound v 2 7 8 13
  quarterRound v 3 4 9 14

abbrev Key := Vector UInt32 8

/-- The block before mixing: constants, key, block number and two zeros. -/
def initial (key : Key) (number : UInt64) : Block :=
  (#v[0x61707865, 0x3320646e, 0x79622d32, 0x6b206574] : Vector UInt32 4) ++ key ++
    (#v[number.toUInt32, (number >>> 32).toUInt32, 0, 0] : Vector UInt32 4)

def block (key : Key) (number : UInt64) : Block :=
  let start := initial key number
  (Nat.repeat doubleRound 6 start).zipWith (· + ·) start

/-- One step of the generator that turns a seed into a key: the new state and a key word. -/
def keyStep (state : UInt64) : UInt64 × UInt32 :=
  let next := state * 6364136223846793005 + 11634580027462260723
  let x := (((next >>> 18) ^^^ next) >>> 27).toUInt32
  let turn := (next >>> 59).toUInt32
  (next, (x >>> turn) ||| (x <<< ((32 - turn) % 32)))

def keyWords : Nat → UInt64 → List UInt32
  | 0, _ => []
  | n + 1, state => (keyStep state).2 :: keyWords n (keyStep state).1

theorem length_keyWords (n : Nat) (state : UInt64) : (keyWords n state).length = n := by
  induction n generalizing state with
  | zero => rfl
  | succ n ih => simp [keyWords, ih]

def keyOfSeed (seed : UInt64) : Key :=
  ⟨(keyWords 8 seed).toArray, by simp [length_keyWords]⟩

/-- A place in the stream: the words left of the current block, and the number of the next. -/
structure Keystream where
  key : Key
  number : UInt64
  left : List UInt32

namespace Keystream

def ofSeed (seed : UInt64) : Keystream := ⟨keyOfSeed seed, 0, []⟩

def next (s : Keystream) : UInt32 × Keystream :=
  match s.left with
  | w :: rest => (w, { s with left := rest })
  | [] =>
    let words := block s.key s.number
    (words[0], { s with number := s.number + 1, left := words.toList.tail })

end Keystream

end PushLang.Random
