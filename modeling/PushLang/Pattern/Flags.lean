import PushLang.Character.Case
import PushLang.Pattern.Basic
import PushLang.Text.Blank

namespace PushLang.Pattern

/-- Plain patterns know the letters, digits and blanks of ASCII only. In spaced patterns, blanks and
comments stand for nothing. -/
structure Flags where
  ignoresCase : Bool := false
  isMultiLine : Bool := false
  hasReturns : Bool := false
  dotTakesAll : Bool := false
  isPlain : Bool := false
  isSpaced : Bool := false

namespace Flags

/-- Switches one flag. The letter `U` is known and means nothing here. -/
def switch (on : Bool) (f : Flags) : Char → Flags
  | 'i' => { f with ignoresCase := on }
  | 'm' => { f with isMultiLine := on }
  | 'R' => { f with hasReturns := on }
  | 's' => { f with dotTakesAll := on }
  | 'u' => { f with isPlain := !on }
  | 'x' => { f with isSpaced := on }
  | _ => f

def letters : List Char := ['i', 'm', 'R', 's', 'u', 'x', 'U']

/-- Switches flags on, and those behind a minus sign off. No letter is there twice, and one follows
the sign. -/
def switched? (f : Flags) (text : List Char) : Option Flags :=
  if text.all ('-' :: letters).contains && text.eraseDups.length == text.length &&
      text.getLast? != some '-' then
    let on := (text.takeWhile (· ≠ '-')).foldl (switch true) f
    some ((text.dropWhile (· ≠ '-')).foldl (switch false) on)
  else none

def skipping (isComment : Bool) : List Char → List Char
  | [] => []
  | c :: rest =>
    if isComment then skipping (c != '\n') rest
    else if c = '#' then skipping true rest
    else if Text.isBlank c then skipping false rest
    else c :: rest

def skip (f : Flags) (text : List Char) : List Char := if f.isSpaced then skipping false text else text

def bracedFrom? (isSpaced isComment : Bool) : List Char → Option (List Char × List Char)
  | [] => none
  | c :: rest =>
    if isComment then bracedFrom? isSpaced (c != '\n') rest
    else if isSpaced && c == '#' then bracedFrom? isSpaced true rest
    else if isSpaced && Text.isBlank c then bracedFrom? isSpaced false rest
    else if c = '\x7d' then some ([], rest)
    else (bracedFrom? isSpaced false rest).map fun (inside, rest) => (c :: inside, rest)

def braced? (f : Flags) (text : List Char) : Option (List Char × List Char) :=
  bracedFrom? f.isSpaced false text

def plainWords : CharSet := .ofRanges [(0x30, 0x39), (0x41, 0x5a), (0x5f, 0x5f), (0x61, 0x7a)]

def words (f : Flags) : CharSet := if f.isPlain then plainWords else Property.wordCharacters

def digits (f : Flags) : CharSet := if f.isPlain then .range 0x30 0x39 else Property.digits

def blanks (f : Flags) : CharSet :=
  if f.isPlain then .ofRanges [(0x9, 0xd), (0x20, 0x20)] else Property.blanks

def close (f : Flags) (s : CharSet) : CharSet :=
  if f.ignoresCase then Case.close (if f.isPlain then Case.asciiForms else Case.forms) s else s

/-- A set or all other characters. A plain pattern has no name for those beyond ASCII. -/
def negated? (f : Flags) (isNegated : Bool) (s : CharSet) : Option CharSet :=
  if isNegated then if f.isPlain then none else some s.complement else some s

/-- A dot takes all that does not end a line, or everything. -/
def dot? (f : Flags) : Option CharSet :=
  let ends := if f.hasReturns then [(0xa, 0xa), (0xd, 0xd)] else [(0xa, 0xa)]
  if f.isPlain then none
  else some (if f.dotTakesAll then .full else CharSet.complement ⟨ends⟩)

def startAnchor (f : Flags) : Anchor :=
  if f.isMultiLine then .lineStart f.hasReturns else .textStart

def endAnchor (f : Flags) : Anchor :=
  if f.isMultiLine then .lineEnd f.hasReturns else .textEnd

def edge (f : Flags) (e : Edge) : Anchor := .edge e f.words

end Flags

end PushLang.Pattern
