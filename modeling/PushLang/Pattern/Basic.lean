import PushLang.Pattern.Anchor

namespace PushLang

inductive Pattern where
  | empty
  | set (s : CharSet)
  | anchor (a : Pattern.Anchor)
  | seq (p q : Pattern)
  | alt (p q : Pattern)
  | repeated (p : Pattern) (least : Nat) (most : Option Nat)
  | group (p : Pattern)

namespace Pattern

def isNullable : Pattern → Bool
  | .empty => true
  | .set _ => false
  | .anchor _ => true
  | .seq p q => p.isNullable && q.isNullable
  | .alt p q => p.isNullable || q.isNullable
  | .repeated p least _ => least == 0 || p.isNullable
  | .group p => p.isNullable

def takesNothing : Pattern → Bool
  | .empty => true
  | .set _ => false
  | .anchor _ => true
  | .seq p q => p.takesNothing && q.takesNothing
  | .alt p q => p.takesNothing && q.takesNothing
  | .repeated p _ _ => p.takesNothing
  | .group p => p.takesNothing

/-- A pattern a number of times. Where it takes no character, once is as good as more often. -/
def times (p : Pattern) (least : Nat) (most : Option Nat) : Pattern :=
  let (least, most) :=
    if p.takesNothing then (min least 1, some (min (most.getD 1) 1)) else (least, most)
  match least, most with
  | 0, some 0 => .empty
  | 1, some 1 => p
  | least, most => .repeated p least most

def andThen : Pattern → Pattern → Pattern
  | .empty, q => q
  | p, .empty => p
  | p, q => .seq p q

def either : Pattern → Pattern → Pattern
  | .set s, .set t => .set (s ∪ t)
  | p, q => .alt p q

end Pattern

end PushLang
