import PushLang.Character.Property

namespace PushLang.Pattern

/-- The characters next to a place in a text. There is none at an end of the text. -/
structure Place where
  before : Option Char
  after : Option Char

inductive Edge where
  | boundary
  | noBoundary
  | start
  | stop
  | noWordBefore
  | noWordAfter
  deriving DecidableEq

/-- Lines end with a line feed. The anchors for returns take a return, or a return with a line feed
behind it, for an end as well. -/
inductive Anchor where
  | textStart
  | textEnd
  | lineStart (returns : Bool)
  | lineEnd (returns : Bool)
  | edge (e : Edge) (words : CharSet)

namespace Place

def isStart (p : Place) : Bool := p.before.isNone

def isEnd (p : Place) : Bool := p.after.isNone

def isInLineEnd (p : Place) : Bool := p.before == some '\r' && p.after == some '\n'

end Place

def isIn (words : CharSet) (c : Option Char) : Bool := (c.map words.mem).getD false

def Edge.holds (before after : Bool) : Edge → Bool
  | .boundary => before != after
  | .noBoundary => before == after
  | .start => !before && after
  | .stop => before && !after
  | .noWordBefore => !before
  | .noWordAfter => !after

def Anchor.holds (p : Place) : Anchor → Bool
  | .textStart => p.isStart
  | .textEnd => p.isEnd
  | .lineStart false => p.isStart || p.before == some '\n'
  | .lineEnd false => p.isEnd || p.after == some '\n'
  | .lineStart true =>
    p.isStart || p.before == some '\n' || (p.before == some '\r' && !p.isInLineEnd)
  | .lineEnd true =>
    p.isEnd || p.after == some '\r' || (p.after == some '\n' && !p.isInLineEnd)
  | .edge e words => e.holds (isIn words p.before) (isIn words p.after)

end PushLang.Pattern
