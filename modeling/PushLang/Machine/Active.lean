import PushLang.Decimal.Reader
import PushLang.Machine.Basic

namespace PushLang.Machine

variable {χ : Type}

def eachOf {α : Type} (f : α → Effect χ) : List α → Effect χ
  | [], m => (m, .ok ())
  | a :: rest, m =>
    match f a m with
    | (m, .ok ()) => eachOf f rest m
    | (m, .error e) => (m, .error e)

section

variable [Host χ]

def withPattern (f : (String → Bool) → Machine χ → Machine χ) (text : String) : Effect χ := fun m =>
  match Host.pattern? χ text with
  | some found => (f found m, .ok ())
  | none => (m, .error (.invalidPattern text))

def matching (found : String → Bool) (generators : NameMap Random.Generator) :
    NameMap Random.Generator :=
  generators.filter fun name _ => found name

def addInstructions (patterns : List String) : Effect χ :=
  eachOf (withPattern fun found m =>
    { m with active := m.active ∪ matching found m.available }) patterns

def removeInstructions (patterns : List String) : Effect χ :=
  eachOf (withPattern fun found m =>
    { m with active := m.active.filter fun name _ => !found name }) patterns

/-- Makes all generators available and activates those that match, and no others. -/
def setInstructions (patterns : List String) : Effect χ := fun m =>
  addInstructions patterns { m.load with active := ∅ }

end

def activate (name : String) : Effect χ := fun m =>
  match m.generators[name]? with
  | some g => ({ m with active := m.active.insert name g }, .ok ())
  | none => (m, .error (.unknownInstruction name))

def after? (lead text : String) : Option String :=
  if lead.toList.isPrefixOf text.toList then some (String.ofList (text.toList.drop lead.length))
  else none

def literalsOf : Kind → List String
  | .boolean => ["true", "false"]
  | .integer => ["integer.erc"]
  | .float => ["float.erc"]
  | _ => []

/-- Activates all instructions whose names begin with the word for a kind, and its literals. -/
def activateKind (k : Kind) : Effect χ := fun m =>
  let registered := m.instructionNames.filter fun name => k.label.toList.isPrefixOf name.toList
  eachOf activate (registered ++ literalsOf k) m

/-- A number below `2 ^ 64`, with an optional plus sign. -/
def readCount? (text : String) : Option Nat :=
  let digits :=
    match text.toList with
    | '+' :: rest => rest
    | rest => rest
  (Decimal.readDigits? digits).filter (· < 2 ^ 64)

def inputName (index : Nat) : String :=
  "input.in" ++ String.ofList (Nat.toDigits 10 index)

def makeInput (index : Nat) : Effect χ := fun m =>
  activate (inputName index) (m.define (inputName index) (.input index))

/-- Activates what an entry of a list asks for: the instructions of a kind, a number of inputs, or
the instruction of that name. An unknown kind is passed over. -/
def activateEntry (name : String) : Effect χ := fun m =>
  match after? "registered." name with
  | some label =>
    match Kind.ofLabel? label with
    | some k => activateKind k m
    | none => (m, .ok ())
  | none =>
    match after? "input.makeinputs" name with
    | some count =>
      match readCount? count with
      | some n => eachOf makeInput (List.range n) m
      | none => (m, .error (.unknownInstruction name))
    | none => activate name m

def activateAtom : Atom → Effect χ
  | .name s => activateEntry s
  | .instruction h => activateEntry h.name
  | a => fun m => (m, .error (.notAnInstructionName a.render))

def setInstructionList (list : Program) : Effect χ := fun m =>
  eachOf activateAtom list { m with active := ∅ }

def activeNames (m : Machine χ) : List String := m.active.keys

end PushLang.Machine
