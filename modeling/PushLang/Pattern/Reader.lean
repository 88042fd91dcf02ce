import PushLang.Decimal.Reader
import PushLang.Pattern.Bracket
import PushLang.Pattern.Weight
import PushLang.Text.Letter

namespace PushLang.Pattern

structure Item where
  pattern : Pattern
  depth : Nat

namespace Item

def joined (items : List Item) (join : List Pattern → Pattern) : Item :=
  match items with
  | [i] => i
  | items => ⟨join (items.map pattern), items.foldl (fun d i => max d (i.depth + 1)) 0⟩

end Item

/-- A group that is being read: its finished alternatives and the items of the one being read, last
first. A switch of flags is an item that matches nothing and cannot be repeated. -/
structure Group where
  flags : Flags
  isNoted : Bool := false
  branches : List Item := []
  items : List (Option Item) := []

namespace Group

def add (g : Group) (i : Item) : Group := { g with items := some i :: g.items }

def branch (g : Group) : Item :=
  let items := g.items.reverse.map (·.getD ⟨.empty, 0⟩)
  Item.joined items fun ps => ps.foldl andThen .empty

def bar (g : Group) : Group := { g with branches := g.branch :: g.branches, items := [] }

def whole (g : Group) : Item :=
  Item.joined (g.branch :: g.branches).reverse fun
    | [] => .empty
    | p :: ps => ps.foldl either p

def item (g : Group) : Item :=
  let i := g.whole
  ⟨if g.isNoted then .group i.pattern else i.pattern, i.depth + 1⟩

def repeat? (g : Group) (least : Nat) (most : Option Nat) : Option Group :=
  match g.items with
  | some i :: items => some { g with items := some ⟨i.pattern.times least most, i.depth + 1⟩ :: items }
  | _ => none

end Group

structure Reading where
  names : List (List Char) := []
  current : Group := { flags := {} }
  outer : List Group := []

namespace Reading

def flags (r : Reading) : Flags := r.current.flags

def add (r : Reading) (p : Pattern) (depth : Nat) : Reading :=
  { r with current := r.current.add ⟨p, depth⟩ }

/-- A mark behind a repetition makes it reluctant, which makes no difference here. -/
def repeat? (r : Reading) (least : Nat) (most : Option Nat) (rest : List Char) :
    Option (Reading × List Char) :=
  let rest :=
    match rest with
    | '?' :: rest => rest
    | rest => rest
  (r.current.repeat? least most).map fun current => ({ r with current }, rest)

/-- A count below `2 ^ 32`, with blanks around it. -/
def count? (text : List Char) : Option Nat :=
  let digits := ((text.dropWhile Text.isBlank).reverse.dropWhile Text.isBlank).reverse
  (Decimal.readDigits? digits).filter (· < 2 ^ 32)

def counts? (text : List Char) : Option (Nat × Option Nat) :=
  (count? (text.takeWhile (· ≠ ','))).bind fun least =>
    match text.dropWhile (· ≠ ',') with
    | [] => some (least, some least)
    | [_] => some (least, none)
    | _ :: high =>
      (count? high).bind fun most => if least ≤ most then some (least, some most) else none

def counted? (r : Reading) (text : List Char) : Option (Reading × List Char) :=
  (r.flags.braced? text).bind fun (inside, rest) =>
    (counts? inside).bind fun (least, most) => r.repeat? least most (r.flags.skip rest)

/-- A name begins with a letter or an underscore. Digits, points and brackets may follow. -/
def isName : List Char → Bool
  | [] => false
  | c :: rest =>
    (c == '_' || Text.isLetter c) &&
      rest.all fun c =>
        ['_', '.', '[', ']'].contains c || Text.isLetter c || Property.numerals.mem c

def opened (r : Reading) (flags : Flags) (isNoted : Bool) : Reading :=
  { r with current := { flags, isNoted }, outer := r.current :: r.outer }

def named? (r : Reading) (text : List Char) : Option (Reading × List Char) :=
  let name := text.takeWhile (· ≠ '>')
  match text.dropWhile (· ≠ '>') with
  | [] => none
  | _ :: rest =>
    if isName name ∧ name ∉ r.names then
      some ({ r with names := name :: r.names }.opened r.flags true, rest)
    else none

def switched? (r : Reading) (text : List Char) : Option (Reading × List Char) :=
  let isEnd (c : Char) := c == ':' || c == ')'
  let letters := text.takeWhile (!isEnd ·)
  (r.flags.switched? letters).bind fun flags =>
    match text.dropWhile (!isEnd ·) with
    | ':' :: rest => some (r.opened flags false, rest)
    | _ :: rest =>
      if letters.isEmpty then none
      else some ({ r with current := { r.current with flags, items := none :: r.current.items } }, rest)
    | [] => none

/-- Opens a group, or switches flags in parentheses. Nothing can be said about what comes before or
behind a match. -/
def group? (r : Reading) (text : List Char) : Option (Reading × List Char) :=
  match r.flags.skip text with
  | '?' :: 'P' :: '<' :: rest => r.named? rest
  | '?' :: '<' :: '=' :: _ => none
  | '?' :: '<' :: '!' :: _ => none
  | '?' :: '<' :: rest => r.named? rest
  | '?' :: rest => r.switched? rest
  | rest => some (r.opened r.flags true, rest)

def closed? (r : Reading) : Option Reading :=
  match r.outer with
  | [] => none
  | parent :: outer => some { r with current := parent.add r.current.item, outer }

def escaped? (r : Reading) (text : List Char) : Option (Reading × List Char) :=
  (Escape.read? r.flags text).bind fun
    | (.char c isByte, rest) => (r.flags.single? c isByte).map fun s => (r.add (.set s) 0, rest)
    | (.set s, rest) => some (r.add (.set s) 0, rest)
    | (.anchor a, rest) => some (r.add (.anchor a) 0, rest)

def next? (r : Reading) (c : Char) (rest : List Char) : Option (Reading × List Char) :=
  match c with
  | '(' => r.group? rest
  | ')' => r.closed?.map (·, rest)
  | '|' => some ({ r with current := r.current.bar }, rest)
  | '[' => (Bracket.read? r.flags rest).map fun (p, rest) => (r.add (.set p.set) p.depth, rest)
  | '?' => r.repeat? 0 (some 1) rest
  | '*' => r.repeat? 0 none rest
  | '+' => r.repeat? 1 none rest
  | '\x7b' => r.counted? rest
  | '\\' => r.escaped? rest
  | '.' => r.flags.dot?.map fun s => (r.add (.set s) 0, rest)
  | '^' => some (r.add (.anchor r.flags.startAnchor) 0, rest)
  | '$' => some (r.add (.anchor r.flags.endAnchor) 0, rest)
  | c => (r.flags.single? c false).map fun s => (r.add (.set s) 0, rest)

/-- Reads to the end of a text. Each thing in it takes at least one character. -/
def all? : Nat → Reading → List Char → Option Reading
  | 0, _, _ => none
  | fuel + 1, r, text =>
    match r.flags.skip text with
    | [] => some r
    | c :: rest => (r.next? c rest).bind fun (r, rest) => all? fuel r rest

end Reading

def depthLimit : Nat := 250

/-- The pattern that a text describes, if it is well formed, not too deep and not too heavy. -/
def read? (text : String) : Option Pattern :=
  (Reading.all? (text.length + 1) {} text.toList).bind fun r =>
    let i := r.current.whole
    if r.outer.isEmpty ∧ i.depth ≤ depthLimit ∧ i.pattern.isLight then some i.pattern
    else none

end PushLang.Pattern
