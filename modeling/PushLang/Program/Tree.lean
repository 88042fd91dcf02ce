import PushLang.Atom.Basic

namespace PushLang.Program

mutual

def nodesOf : Atom → List Atom
  | .program p => p ++ nodesWithin p
  | _ => []

def nodesWithin : List Atom → List Atom
  | [] => []
  | a :: rest => nodesOf a ++ nodesWithin rest

end

def nodes (p : Program) : List Atom := p ++ nodesWithin p

mutual

def nodeOf? : Atom → Nat → Option Atom
  | .program p, i => if i < p.length then p[i]? else nodeWithin? p (i - p.length)
  | _, _ => none

def nodeWithin? : List Atom → Nat → Option Atom
  | [], _ => none
  | a :: rest, i => if i < a.points then nodeOf? a i else nodeWithin? rest (i - a.points)

end

def subtree? (p : Program) (i : Nat) : Option Atom := nodeOf? (.program p) i

/-- The number of atoms in the node with number `i`: one for an atom that is no program, zero if
there is no such node. -/
def subtreePoints (p : Program) (i : Nat) : Nat :=
  match p.subtree? i with
  | none => 0
  | some (.program q) => points q
  | some _ => 1

mutual

/-- An atom with `f` applied to the list of siblings, and the place in it, of its node `i`. -/
def editAtom (f : List Atom → Nat → List Atom) : Atom → Nat → Atom
  | .program p, i =>
    .program (if i < p.length then f p i else editWithin f p (i - p.length))
  | a, _ => a

def editWithin (f : List Atom → Nat → List Atom) : List Atom → Nat → List Atom
  | [], _ => []
  | a :: rest, i =>
    if i < a.points then editAtom f a i :: rest else a :: editWithin f rest (i - a.points)

end

def edit (f : List Atom → Nat → List Atom) (p : Program) (i : Nat) : Program :=
  if i < p.length then f p i else editWithin f p (i - p.length)

/-- Puts `v` in the place of the node with number `i`; none if there is no such node. An empty
program takes `v` as its only child whatever the number is. -/
def replace? (p : Program) (i : Nat) (v : Atom) : Option Program :=
  if p.isEmpty then some [v]
  else if i < points p then some (p.edit (fun siblings k => siblings.set k v) i)
  else none

def splice (siblings : List Atom) (k : Nat) : List Atom :=
  match siblings[k]? with
  | some (.program q) => siblings.take k ++ q ++ siblings.drop (k + 1)
  | _ => siblings

def flatten (p : Program) (i : Nat) : Program := p.edit splice i

end PushLang.Program
