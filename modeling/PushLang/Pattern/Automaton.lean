import PushLang.Pattern.Basic

namespace PushLang.Pattern

/-- What can be done at a node: take a character of a set, go on if an anchor holds, or go either
way. -/
inductive Node where
  | take (s : CharSet) (next : Nat)
  | check (a : Anchor) (next : Nat)
  | fork (first second : Nat)
  | accept

structure Automaton where
  nodes : Array Node
  start : Nat

namespace Automaton

def accepting : Automaton := ⟨#[.accept], 0⟩

def add (a : Automaton) (n : Node) : Automaton :=
  let ⟨nodes, _⟩ := a
  let start := nodes.size
  ⟨nodes.push n, start⟩

/-- Goes through `f` first, or on to a node at once. -/
def optional (f : Automaton → Automaton) (next : Nat) (a : Automaton) : Automaton :=
  let ⟨nodes, start⟩ := f a
  add ⟨nodes, start⟩ (.fork start next)

/-- Goes through `f` any number of times first, at least once if it is not optional. -/
def loop (f : Automaton → Automaton) (isOptional : Bool) (a : Automaton) : Automaton :=
  let ⟨nodes, next⟩ := a
  let choice := nodes.size
  let ⟨nodes, start⟩ := f ⟨nodes.push (.fork next next), choice⟩
  ⟨nodes.setIfInBounds choice (.fork start next), if isOptional then choice else start⟩

def prepend : Pattern → Automaton → Automaton
  | .empty, a => a
  | .set s, ⟨nodes, start⟩ => add ⟨nodes, start⟩ (.take s start)
  | .anchor c, ⟨nodes, start⟩ => add ⟨nodes, start⟩ (.check c start)
  | .seq p q, a => prepend p (prepend q a)
  | .alt p q, ⟨nodes, next⟩ =>
    let ⟨nodes, second⟩ := prepend q ⟨nodes, next⟩
    let ⟨nodes, first⟩ := prepend p ⟨nodes, next⟩
    add ⟨nodes, first⟩ (.fork first second)
  | .repeated p least (some most), ⟨nodes, next⟩ =>
    let a := (most - least).repeat (optional (prepend p) next) ⟨nodes, next⟩
    least.repeat (prepend p) a
  | .repeated p least none, a =>
    (least - 1).repeat (prepend p) (loop (prepend p) (least == 0) a)
  | .group p, a => prepend p a

end Automaton

def automaton (p : Pattern) : Automaton := .prepend p .accepting

namespace Automaton

/-- Where an automaton is in a text: when it was last at each node, what it can take next, and
whether it accepts. -/
structure Front where
  visits : Array Nat
  ways : List (CharSet × Nat) := []
  isAccepted : Bool := false

/-- Goes to the nodes in `work`, and on from them as far as no character is needed. No node is left
twice at the same time, which bounds the steps. -/
def spread (a : Automaton) (p : Place) (time : Nat) : Nat → List Nat → Front → Front
  | 0, _, f => f
  | _, [], f => f
  | fuel + 1, n :: work, f =>
    if f.visits.getD n 0 == time then a.spread p time fuel work f
    else
      let f := { f with visits := f.visits.setIfInBounds n time }
      match a.nodes[n]? with
      | some (.take s next) => a.spread p time fuel work { f with ways := (s, next) :: f.ways }
      | some (.check c next) => a.spread p time fuel (if c.holds p then next :: work else work) f
      | some (.fork first second) => a.spread p time fuel (first :: second :: work) f
      | some .accept => { f with isAccepted := true }
      | none => a.spread p time fuel work f

def come (a : Automaton) (p : Place) (time : Nat) (work : List Nat) (visits : Array Nat) : Front :=
  a.spread p time (work.length + 2 * a.nodes.size + 1) (a.start :: work) { visits }

def taking (c : Char) (ways : List (CharSet × Nat)) : List Nat :=
  ways.filterMap fun (s, next) => if s.mem c then some next else none

def findsFrom (a : Automaton) (before : Option Char) (time : Nat) (work : List Nat)
    (visits : Array Nat) : List Char → Bool
  | [] => (a.come ⟨before, none⟩ time work visits).isAccepted
  | c :: rest =>
    let f := a.come ⟨before, some c⟩ time work visits
    f.isAccepted || a.findsFrom (some c) (time + 1) (taking c f.ways) f.visits rest

def finds (a : Automaton) (text : String) : Bool :=
  a.findsFrom none 1 [] (Array.replicate a.nodes.size 0) text.toList

end Automaton

end PushLang.Pattern
