import PushLang.Pattern.Escape

namespace PushLang.Pattern

/-- A set, and how deep the brackets and operators are nested that describe it. -/
structure Part where
  set : CharSet
  depth : Nat

inductive SetOperator where
  | intersection
  | difference
  | symmetricDifference

namespace SetOperator

def apply (s t : CharSet) : SetOperator → CharSet
  | .intersection => s ∩ t
  | .difference => s \ t
  | .symmetricDifference => s.symmDiff t

end SetOperator

def operator? : List Char → Option (SetOperator × List Char)
  | '&' :: '&' :: rest => some (.intersection, rest)
  | '-' :: '-' :: rest => some (.difference, rest)
  | '~' :: '~' :: rest => some (.symmetricDifference, rest)
  | _ => none

/-- A bracket that is being read: what an operator has on its left, and the members behind it. -/
structure Bracket where
  isNegated : Bool
  left : Option (SetOperator × Part) := none
  members : List (Nat × Nat) := []
  count : Nat := 0
  depth : Nat := 0

namespace Bracket

def add (b : Bracket) (p : Part) : Bracket :=
  { b with members := p.set.ranges ++ b.members, count := b.count + 1, depth := max b.depth p.depth }

/-- The members as one part, which is deeper than they are if there are several. -/
def operand (b : Bracket) : Part :=
  ⟨.ofRanges b.members, if b.count ≤ 1 then b.depth else b.depth + 1⟩

def part (f : Flags) (b : Bracket) : Part :=
  let right := b.operand
  match b.left with
  | none => right
  | some (o, left) =>
    ⟨o.apply (f.close left.set) (f.close right.set), max left.depth right.depth + 1⟩

def operate (f : Flags) (o : SetOperator) (b : Bracket) : Bracket :=
  { isNegated := b.isNegated, left := some (o, b.part f) }

def close? (f : Flags) (b : Bracket) : Option Part :=
  let p := b.part f
  (f.negated? b.isNegated (f.close p.set)).map fun s => ⟨s, p.depth + 1⟩

def named? : String → Option CharSet
  | "alnum" => some (.ofRanges [(0x30, 0x39), (0x41, 0x5a), (0x61, 0x7a)])
  | "alpha" => some (.ofRanges [(0x41, 0x5a), (0x61, 0x7a)])
  | "ascii" => some (.range 0 0x7f)
  | "blank" => some (.ofRanges [(0x9, 0x9), (0x20, 0x20)])
  | "cntrl" => some (.ofRanges [(0, 0x1f), (0x7f, 0x7f)])
  | "digit" => some (.range 0x30 0x39)
  | "graph" => some (.range 0x21 0x7e)
  | "lower" => some (.range 0x61 0x7a)
  | "print" => some (.range 0x20 0x7e)
  | "punct" => some (.ofRanges [(0x21, 0x2f), (0x3a, 0x40), (0x5b, 0x60), (0x7b, 0x7e)])
  | "space" => some (.ofRanges [(0x9, 0xd), (0x20, 0x20)])
  | "upper" => some (.range 0x41 0x5a)
  | "word" => some (.ofRanges [(0x30, 0x39), (0x41, 0x5a), (0x5f, 0x5f), (0x61, 0x7a)])
  | "xdigit" => some (.ofRanges [(0x30, 0x39), (0x41, 0x46), (0x61, 0x66)])
  | _ => none

/-- A class between colons, from behind the bracket: whether it is negated, its characters and what
follows. -/
def class? : List Char → Option (Bool × CharSet × List Char)
  | ':' :: text =>
    let (isNegated, text) :=
      match text with
      | '^' :: rest => (true, rest)
      | text => (false, text)
    match text.dropWhile (· ≠ ':') with
    | ':' :: ']' :: rest =>
      (named? (String.ofList (text.takeWhile (· ≠ ':')))).map fun s => (isNegated, s, rest)
    | _ => none
  | _ => none

/-- Hyphens that come first are members. -/
def hyphens (f : Flags) (b : Bracket) : Nat → List Char → Bracket × List Char
  | fuel + 1, '-' :: rest => hyphens f (b.add ⟨.single '-', 0⟩) fuel (f.skip rest)
  | _, text => (b, text)

/-- A bracket with what has a meaning of its own at the beginning: a caret that negates it, hyphens,
or a closing bracket. -/
def opening (f : Flags) (text : List Char) : Bracket × List Char :=
  let text := f.skip text
  let (isNegated, text) :=
    match text with
    | '^' :: rest => (true, f.skip rest)
    | text => (false, text)
  match hyphens f { isNegated } text.length text with
  | (b, ']' :: rest) =>
    if b.count = 0 then (b.add ⟨.single ']', 0⟩, f.skip rest) else (b, ']' :: rest)
  | result => result

def char? (f : Flags) (c : Char) (rest : List Char) : Option ((Char ⊕ CharSet) × List Char) :=
  if f.isPlain && 0x80 ≤ c.toNat then none else some (.inl c, rest)

def member? (f : Flags) : List Char → Option ((Char ⊕ CharSet) × List Char)
  | [] => none
  | '\\' :: rest =>
    match Escape.read? f rest with
    | some (.char c _, rest) => char? f c rest
    | some (.set s, rest) => some (.inr s, rest)
    | _ => none
  | c :: rest => char? f c rest

/-- What comes behind a hyphen. A number sign that begins a comment is passed over on its own. -/
def peek (f : Flags) (text : List Char) : Option Char :=
  if f.isSpaced then
    match text.dropWhile Text.isBlank with
    | '#' :: rest => (rest.dropWhile Text.isBlank).head?
    | text => text.head?
  else text.head?

def range? (f : Flags) (text : List Char) : Option (CharSet × List Char) :=
  (member? f text).bind fun (first, rest) =>
    let alone := first.elim CharSet.single id
    match f.skip rest with
    | '-' :: after =>
      if peek f after = some ']' ∨ peek f after = some '-' then some (alone, '-' :: after)
      else
        match first, member? f (f.skip after) with
        | .inl lo, some (.inl hi, rest) =>
          if lo ≤ hi then some (.range lo.toNat hi.toNat, rest) else none
        | _, _ => none
    | rest => some (alone, rest)

/-- Reads up to the end of the outermost bracket. `outer` holds the brackets around the current
one. -/
def build (f : Flags) : Nat → Bracket → List Bracket → List Char → Option (Part × List Char)
  | 0, _, _, _ => none
  | fuel + 1, b, outer, text =>
    match f.skip text with
    | [] => none
    | '[' :: rest =>
      match class? rest with
      | some (isNegated, s, rest) =>
        (f.negated? isNegated (f.close s)).bind fun s => build f fuel (b.add ⟨s, 0⟩) outer rest
      | none =>
        let (nested, rest) := opening f rest
        build f fuel nested (b :: outer) rest
    | ']' :: rest =>
      (b.close? f).bind fun p =>
        match outer with
        | [] => some (p, rest)
        | parent :: outer => build f fuel (parent.add p) outer rest
    | text =>
      match operator? text with
      | some (o, rest) => build f fuel (b.operate f o) outer rest
      | none => (range? f text).bind fun (s, rest) => build f fuel (b.add ⟨s, 0⟩) outer rest

def read? (f : Flags) (text : List Char) : Option (Part × List Char) :=
  let (b, rest) := opening f text
  build f (text.length + 1) b [] rest

end Bracket

end PushLang.Pattern
