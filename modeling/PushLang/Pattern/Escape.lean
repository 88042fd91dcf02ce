import PushLang.Pattern.Flags

namespace PushLang.Pattern

/-- A character that is written as a byte counts as such in a plain pattern. -/
inductive Escape where
  | char (c : Char) (isByte : Bool)
  | set (s : CharSet)
  | anchor (a : Anchor)

namespace Escape

def hexDigit? (c : Char) : Option Nat :=
  if '0' ≤ c ∧ c ≤ '9' then some (c.toNat - '0'.toNat)
  else if 'a' ≤ c ∧ c ≤ 'f' then some (c.toNat - 'a'.toNat + 10)
  else if 'A' ≤ c ∧ c ≤ 'F' then some (c.toNat - 'A'.toNat + 10)
  else none

def hexChar? (digits : List Char) : Option Char :=
  if digits.isEmpty then none
  else
    (digits.mapM hexDigit?).bind fun values =>
      let n := values.foldl (fun n d => 16 * n + d) 0
      if n.isValidChar then some (Char.ofNat n) else none

def taken? (f : Flags) : Nat → List Char → Option (List Char × List Char)
  | 0, rest => some ([], rest)
  | _ + 1, [] => none
  | n + 1, c :: rest => (taken? f n (f.skip rest)).map fun (cs, rest) => (c :: cs, rest)

def ofCode? (f : Flags) (count : Nat) (text : List Char) : Option (Escape × List Char) :=
  match f.skip text with
  | '\x7b' :: rest =>
    (f.braced? rest).bind fun (digits, rest) => (hexChar? digits).map fun c => (.char c false, rest)
  | text =>
    (taken? f count text).bind fun (digits, rest) =>
      (hexChar? digits).map fun c => (.char c (count == 2), rest)

def cut? (sign : List Char) : List Char → Option (List Char × List Char)
  | [] => none
  | c :: rest =>
    if sign.isPrefixOf (c :: rest) then some ([], (c :: rest).drop sign.length)
    else (cut? sign rest).map fun (before, after) => (c :: before, after)

/-- The characters with a property, or with a value of a property, behind one of three signs. -/
def property? (name : List Char) : Option CharSet :=
  match ((cut? ['!', '='] name).or (cut? [':'] name)).or (cut? ['='] name) with
  | some (property, value) => Property.findValue? property value
  | none => Property.find? name

def ofProperty? (f : Flags) (isNegated : Bool) (text : List Char) : Option (Escape × List Char) :=
  let name? :=
    match f.skip text with
    | '\x7b' :: rest => f.braced? rest
    | '\\' :: _ => none
    | c :: rest => some ([c], f.skip rest)
    | [] => none
  name?.bind fun (name, rest) =>
    if f.isPlain then none
    else
      (property? name).bind fun s =>
        (f.negated? isNegated (f.close s)).map fun s => (.set s, rest)

def ofShorthand? (f : Flags) (isNegated : Bool) (s : CharSet) (rest : List Char) :
    Option (Escape × List Char) :=
  (f.negated? isNegated s).map fun s => (.set s, rest)

def edge? : String → Option Edge
  | "start" => some .start
  | "end" => some .stop
  | "start-half" => some .noWordBefore
  | "end-half" => some .noWordAfter
  | _ => none

/-- A boundary of words, or what the letters in braces behind it name. Braces with anything else are
no part of it. -/
def ofBoundary? (f : Flags) (text : List Char) : Option (Escape × List Char) :=
  match text with
  | '\x7b' :: inside =>
    match f.skip inside with
    | [] => none
    | c :: _ =>
      if c.isAlpha || c == '-' then
        (f.braced? inside).bind fun (name, rest) =>
          (edge? (String.ofList name)).map fun e => (.anchor (f.edge e), rest)
      else some (.anchor (f.edge .boundary), text)
  | text => some (.anchor (f.edge .boundary), text)

def control? : Char → Option Char
  | 'a' => some '\x07'
  | 't' => some '\t'
  | 'n' => some '\n'
  | 'v' => some '\x0b'
  | 'f' => some '\x0c'
  | 'r' => some '\r'
  | _ => none

/-- Reads an escape, from behind the backslash. Signs of ASCII stand for themselves. -/
def read? (f : Flags) : List Char → Option (Escape × List Char)
  | [] => none
  | c :: rest =>
    match c with
    | 'x' => ofCode? f 2 rest
    | 'u' => ofCode? f 4 rest
    | 'U' => ofCode? f 8 rest
    | 'p' => ofProperty? f false rest
    | 'P' => ofProperty? f true rest
    | 'd' => ofShorthand? f false f.digits rest
    | 'D' => ofShorthand? f true f.digits rest
    | 's' => ofShorthand? f false f.blanks rest
    | 'S' => ofShorthand? f true f.blanks rest
    | 'w' => ofShorthand? f false f.words rest
    | 'W' => ofShorthand? f true f.words rest
    | 'b' => ofBoundary? f rest
    | 'B' => some (.anchor (f.edge .noBoundary), rest)
    | '<' => some (.anchor (f.edge .start), rest)
    | '>' => some (.anchor (f.edge .stop), rest)
    | 'A' => some (.anchor .textStart, rest)
    | 'z' => some (.anchor .textEnd, rest)
    | c =>
      match control? c with
      | some c => some (.char c false, rest)
      | none => if c.toNat < 0x80 && !c.isAlphanum then some (.char c false, rest) else none

end Escape

/-- A set of one character and its other forms. Beyond ASCII, a byte is no character. -/
def Flags.single? (f : Flags) (c : Char) (isByte : Bool) : Option CharSet :=
  if f.isPlain && isByte && 0x80 ≤ c.toNat then none else some (f.close (.single c))

end PushLang.Pattern
