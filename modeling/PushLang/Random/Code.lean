import PushLang.Atom.Basic
import PushLang.Config
import PushLang.Failure

namespace PushLang.Random

inductive Generator where
  | instruction (name : String)
  | boolean
  | integer
  | float
  deriving DecidableEq

def Generator.generate (config : Config) (g : Generator) (s : Source) : Atom × Source :=
  match g with
  | .instruction name => (.name name, s)
  | .boolean => (.boolean s.drawBool.1, s.drawBool.2)
  | .integer => (.integer (config.integers.sample s).1, (config.integers.sample s).2)
  | .float => (.float (config.floats.sample s).1, (config.floats.sample s).2)

/-- Divides a number into parts of at least one. -/
def parts (count : Nat) (s : Source) : List Nat × Source :=
  if count = 0 then ([], s)
  else
    let (extra, s') := if count < 2 then (0, s) else s.draw count
    let (others, s'') := parts (count - (extra + 1)) s'
    ((extra + 1) :: others, s'')
termination_by count

def distribution (count : Nat) (s : Source) : List Nat × Source :=
  let (sizes, s) := parts count s
  s.shuffle sizes

def atom (generators : List Generator) (config : Config) (s : Source) :
    Except Failure Atom × Source :=
  if generators.isEmpty then (.error .noActiveInstructions, s)
  else
    let (i, s) := s.draw generators.length
    match generators[i]? with
    | some g =>
      let (a, s) := g.generate config s
      (.ok a, s)
    | none => (.error .noActiveInstructions, s)

def children (child : Nat → Source → Except Failure Atom × Source) :
    List Nat → Source → Except Failure Program × Source
  | [], s => (.ok [], s)
  | size :: sizes, s =>
    match child size s with
    | (.error e, s) => (.error e, s)
    | (.ok a, s) =>
      match children child sizes s with
      | (.error e, s) => (.error e, s)
      | (.ok rest, s) => (.ok (a :: rest), s)

/-- A program of the given size, nested at most `depth` deep. -/
def codeWithin (generators : List Generator) (config : Config) :
    (depth size : Nat) → Source → Except Failure Program × Source
  | 0, _, s => (.ok [], s)
  | depth + 1, size, s =>
    let (sizes, s) := distribution (size - 1) s
    let child (size : Nat) (s : Source) :=
      if size = 1 then atom generators config s
      else
        let (p, s) := codeWithin generators config depth size s
        (p.map Atom.program, s)
    children child sizes s

/-- A program that counts `size` points together with itself. -/
def code (generators : List Generator) (config : Config) (size : Nat) (s : Source) :
    Except Failure Program × Source :=
  codeWithin generators config size size s

end PushLang.Random
