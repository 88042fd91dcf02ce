import PushLang.Character.Derived
import PushLang.Character.Script

namespace PushLang.Property

open Trait (having)

def codes (points : List Nat) : CharSet := .ofRanges (points.map fun n => (n, n))

def scriptsOf (names : List String) : CharSet :=
  .ofRanges ((names.filterMap Script.find?).flatMap CharSet.ranges)

def joiner : CharSet := codes [0x200d]

def carriageReturn : CharSet := codes [0xd]

def lineFeed : CharSet := codes [0xa]

/-- Marks in front of a number, which are numeric themselves. -/
def numberSigns : CharSet :=
  .ofRanges [(0x600, 0x605), (0x6dd, 0x6dd), (0x890, 0x891), (0x8e2, 0x8e2), (0x110bd, 0x110bd),
    (0x110cd, 0x110cd)]

/-- What extends the character before it, marks with a width among them. -/
def extend : CharSet := graphemeExtend ∪ either ["mc"] []

namespace Grapheme

def prepend : CharSet :=
  having "pcm" ∪ .ofRanges [(0xd4e, 0xd4e), (0x111c2, 0x111c3), (0x113d1, 0x113d1),
    (0x1193f, 0x1193f), (0x11941, 0x11941), (0x11a3a, 0x11a3a), (0x11a84, 0x11a89),
    (0x11d46, 0x11d46), (0x11f02, 0x11f02)]

def control : CharSet :=
  (either ["zl", "zp", "cc", "cf"] [] ∪ (either ["cn"] [] ∩ having "di")) \
    (codes [0xa, 0xd, 0x200c, 0x200d] ∪ having "pcm" ∪ graphemeExtend)

def spacingMark : CharSet :=
  (either ["mc"] [] \ (graphemeExtend ∪ .ofRanges [(0x102b, 0x102c), (0x1038, 0x1038),
    (0x1062, 0x1064), (0x1067, 0x106d), (0x1083, 0x1083), (0x1087, 0x108c), (0x108f, 0x108f),
    (0x109a, 0x109c), (0x1a61, 0x1a61), (0x1a63, 0x1a64), (0xaa7b, 0xaa7b), (0xaa7d, 0xaa7d),
    (0x11720, 0x11721)])) ∪ codes [0xe33, 0xeb3]

/-- The syllables without a final consonant: every twenty-eighth. -/
def openSyllables : CharSet := codes ((List.range 399).map fun k => 0xac00 + 28 * k)

def find? (name : String) : Option CharSet :=
  match name with
  | "cr" => some carriageReturn
  | "lf" => some lineFeed
  | "cn" | "control" => some control
  | "ex" | "extend" => some ((graphemeExtend ∪ having "emod") \ joiner)
  | "zwj" => some joiner
  | "ri" | "regionalindicator" => some (having "ri")
  | "pp" | "prepend" => some prepend
  | "sm" | "spacingmark" => some spacingMark
  | "l" => some (.ofRanges [(0x1100, 0x115f), (0xa960, 0xa97c)])
  | "v" => some (.ofRanges [(0x1160, 0x11a7), (0xd7b0, 0xd7c6), (0x16d63, 0x16d63),
      (0x16d67, 0x16d6a)])
  | "t" => some (.ofRanges [(0x11a8, 0x11ff), (0xd7cb, 0xd7fb)])
  | "lv" => some openSyllables
  | "lvt" => some (CharSet.range 0xac00 0xd7a3 \ openSyllables)
  | _ => none

end Grapheme

namespace Word

def extended : CharSet := (extend ∪ having "emod") \ joiner

def katakana : CharSet :=
  scriptsOf ["kana"] ∪ codes [0x3031, 0x3032, 0x3033, 0x3034, 0x3035, 0x309b, 0x309c, 0x30a0,
    0x30fc, 0xff70]

def hebrewLetter : CharSet := scriptsOf ["hebr"] ∩ either ["lo"] []

/-- The scripts that do not show where a word ends. -/
def complex : CharSet :=
  scriptsOf ["thai", "laoo", "mymr", "khmr", "tale", "talu", "lana", "tavt", "ahom"]

def letter : CharSet :=
  (alphabetic ∪ .ofRanges [(0x2c2, 0x2c5), (0x2d2, 0x2d7), (0x2de, 0x2df), (0x2e5, 0x2eb),
    (0x2ed, 0x2ed), (0x2ef, 0x2ff), (0x55a, 0x55c), (0x55e, 0x55e), (0x58a, 0x58a), (0x5f3, 0x5f3),
    (0x70f, 0x70f), (0xa708, 0xa716), (0xa720, 0xa721), (0xa789, 0xa78a), (0xab5b, 0xab5b)]) \
    (having "ideo" ∪ katakana ∪ complex ∪ scriptsOf ["hira"] ∪ extended ∪ hebrewLetter)

def find? (name : String) : Option CharSet :=
  match name with
  | "cr" => some carriageReturn
  | "lf" => some lineFeed
  | "nl" | "newline" => some (codes [0xb, 0xc, 0x85, 0x2028, 0x2029])
  | "extend" => some extended
  | "zwj" => some joiner
  | "ri" | "regionalindicator" => some (having "ri")
  | "fo" | "format" =>
    some (either ["cf"] [] \ (codes [0x200b, 0x200c, 0x200d] ∪ extended ∪ Grapheme.prepend))
  | "ka" | "katakana" => some katakana
  | "hl" | "hebrewletter" => some hebrewLetter
  | "le" | "aletter" => some letter
  | "sq" | "singlequote" => some (codes [0x27])
  | "dq" | "doublequote" => some (codes [0x22])
  | "mb" | "midnumlet" => some (codes [0x2e, 0x2018, 0x2019, 0x2024, 0xfe52, 0xff07, 0xff0e])
  | "ml" | "midletter" =>
    some (codes [0x3a, 0xb7, 0x387, 0x55f, 0x5f4, 0x2027, 0xfe13, 0xfe55, 0xff1a])
  | "mn" | "midnum" =>
    some (codes [0x2c, 0x3b, 0x37e, 0x589, 0x60c, 0x60d, 0x66c, 0x7f8, 0x2044, 0xfe10, 0xfe14,
      0xfe50, 0xfe54, 0xff0c, 0xff1b])
  | "nu" | "numeric" => some (either ["nd"] [] ∪ numberSigns ∪ codes [0x66b])
  | "ex" | "extendnumlet" => some (either ["pc"] [] ∪ codes [0x202f])
  | "wsegspace" => some (either ["zs"] [] \ codes [0xa0, 0x2007, 0x202f])
  | _ => none

end Word

namespace Sentence

def extended : CharSet := extend ∪ joiner

def lower : CharSet :=
  lowercase \ (graphemeExtend ∪ .ofRanges [(0x10d0, 0x10fa), (0x10fd, 0x10ff)])

def upper : CharSet :=
  (uppercase ∪ either ["lt"] []) \ .ofRanges [(0x1c90, 0x1cba), (0x1cbd, 0x1cbf)]

def point : CharSet := codes [0x2e, 0x2024, 0xfe52, 0xff0e]

def terminal : CharSet := having "sterm" \ point

/-- Quotation marks that are no punctuation of their own. -/
def quotes : CharSet :=
  .ofRanges [(0x22, 0x22), (0x27, 0x27), (0x275b, 0x2760), (0x2e00, 0x2e01), (0x2e06, 0x2e08),
    (0x2e0b, 0x2e0b), (0x1f676, 0x1f678)]

def find? (name : String) : Option CharSet :=
  match name with
  | "cr" => some carriageReturn
  | "lf" => some lineFeed
  | "se" | "sep" => some (codes [0x85, 0x2028, 0x2029])
  | "sp" => some (having "space" \ codes [0xa, 0xd, 0x85, 0x2028, 0x2029])
  | "ex" | "extend" => some extended
  | "fo" | "format" =>
    some (either ["cf"] [] \ (codes [0x200c, 0x200d] ∪ extended ∪ numberSigns))
  | "lo" | "lower" => some lower
  | "up" | "upper" => some upper
  | "le" | "oletter" =>
    some ((alphabetic ∪ codes [0x5f3]) \ (lower ∪ upper ∪ extended))
  | "nu" | "numeric" => some (either ["nd"] [] ∪ numberSigns ∪ codes [0x66b, 0x66c])
  | "at" | "aterm" => some point
  | "st" | "sterm" => some terminal
  | "sc" | "scontinue" =>
    some (codes [0x2c, 0x2d, 0x3a, 0x3b, 0x37e, 0x55d, 0x60c, 0x60d, 0x7f8, 0x1802, 0x1808, 0x2013,
      0x2014, 0x3001, 0xfe10, 0xfe11, 0xfe13, 0xfe14, 0xfe31, 0xfe32, 0xfe50, 0xfe51, 0xfe54,
      0xfe55, 0xfe58, 0xfe63, 0xff0c, 0xff0d, 0xff1a, 0xff1b, 0xff64])
  | "cl" | "close" =>
    some ((either ["ps", "pe", "pi", "pf"] [] ∪ quotes) \ (point ∪ terminal))
  | _ => none

end Sentence

end PushLang.Property
