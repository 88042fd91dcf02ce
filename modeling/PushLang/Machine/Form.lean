import PushLang.Machine.Basic

namespace PushLang

variable {χ : Type}

inductive Fault where
  | noResult
  | arithmetic
  | failed (reason : String)
  deriving DecidableEq

@[reducible] def Operands : List Kind → Type
  | [] => Unit
  | k :: ks => k.Item × Operands ks

namespace Operands

def inspectEach : (ks : List Kind) → Operands ks → List String
  | [], _ => []
  | k :: ks, (v, rest) => k.element.inspect v :: inspectEach ks rest

def inspect (ks : List Kind) (operands : Operands ks) : String :=
  if ks.isEmpty then "none" else " and ".intercalate (inspectEach ks operands)

def toAtoms : (ks : List Kind) → Operands ks → List Atom
  | [], _ => []
  | k :: ks, (v, rest) => k.element.toAtom v :: toAtoms ks rest

end Operands

namespace Machine

/-- The top item of a stack, which is removed unless `peek` is set. -/
def take (m : Machine χ) (k : Kind) (peek : Bool) : Option k.Item × Machine χ :=
  match (m.stack k).top? with
  | none => (none, m)
  | some v => (some v, if peek then m else m.drop k)

theorem pusher_take (m : Machine χ) (k : Kind) (peek : Bool) :
    (m.take k peek).2.pusher = m.pusher := by
  unfold take
  split
  · rfl
  · cases peek <;> rfl

/-- Takes the operands from the last to the first, up to one that is missing. -/
def takeAll (m : Machine χ) (peek : Bool) : (ks : List Kind) → Option (Operands ks) × Machine χ
  | [] => (some (), m)
  | k :: ks =>
    match m.takeAll peek ks with
    | (none, m) => (none, m)
    | (some rest, m) =>
      match m.take k peek with
      | (none, m) => (none, m)
      | (some v, m) => (some (v, rest), m)

end Machine

abbrev Callback (χ : Type) (ks : List Kind) (α : Type) :=
  Operands ks → Machine χ → Machine χ × Except Fault α

/-- Of the faults only a failure is an error. -/
def failureOf (ks : List Kind) (operands : Operands ks) : Fault → Except Failure Unit
  | .failed reason => .error (.instructionFailed (operands.inspect ks) reason)
  | _ => .ok ()

def action (ks : List Kind) (peek : Bool) (f : Callback χ ks Unit) : Effect χ := fun m =>
  match m.takeAll peek ks with
  | (none, m) => (m, .ok ())
  | (some operands, m) =>
    match f operands m with
    | (m, .ok ()) => (m, .ok ())
    | (m, .error fault) => (m, failureOf ks operands fault)

/-- What is pushed for a result: the fault value of the kind stands in for an arithmetic fault. -/
def resultOf (k : Kind) : Except Fault k.Item → Option k.Item
  | .ok v => some v
  | .error .arithmetic => k.faultValue?
  | .error _ => none

def Machine.push? (m : Machine χ) (k : Kind) : Option k.Item → Machine χ
  | some v => m.push k v
  | none => m

def producing (ks : List Kind) (out : Kind) (peek : Bool) (f : Callback χ ks out.Item) :
    Effect χ := fun m =>
  match m.takeAll peek ks with
  | (none, m) => (m, .ok ())
  | (some operands, m) =>
    let (m, result) := f operands m
    let outcome :=
      match result with
      | .ok _ => .ok ()
      | .error fault => failureOf ks operands fault
    (m.push? out (resultOf out result), outcome)

def calculating (ks : List Kind) (out : Kind) (f : Operands ks → Except Fault out.Item) : Effect χ :=
  producing ks out false fun operands m => (m, f operands)

end PushLang
