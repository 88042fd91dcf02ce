import PushLang.Builtin.Run

namespace PushLang.Machine

variable {χ : Type} [Host χ]

def invoke (h : Handle) : Effect χ := fun m =>
  match m.operations[h.serial]? with
  | some op => op.run m
  | none => (m, .ok ())

def resolve (name : String) : Effect χ := fun m =>
  match m.bindings[name]? with
  | some c => (m.push c.kind c.value, .ok ())
  | none =>
    match m.instructions[name]? with
    | some h => invoke h m
    | none => (m.push .name name, .ok ())

/-- Carries out an atom. -/
def dispatch (a : Atom) : Effect χ := fun m =>
  match a with
  | .program children => (m.setStack .exec ⟨children ++ (m.stack .exec).down⟩, .ok ())
  | .integer n => (m.push .integer n, .ok ())
  | .float x => (m.push .float x, .ok ())
  | .boolean b => (m.push .boolean b, .ok ())
  | .name s => resolve s m
  | .instruction h => invoke h m

/-- Takes the next item off the pending code and counts it as evaluated. -/
def next? (m : Machine χ) : Option (Atom × Machine χ) :=
  match (m.stack .exec).down with
  | [] => none
  | a :: _ => some (a, { m.drop .exec with evaluations := m.evaluations + 1 })

/-- Takes up to `budget` steps after `done` ones, and stops at a failure or when no code is left.
The result counts the steps. -/
def stepsFrom (done : Nat) : Nat → Machine χ → Machine χ × Except Failure Nat
  | 0, m => (m, .ok done)
  | budget + 1, m =>
    match m.next? with
    | none => (m, .ok done)
    | some (a, m) =>
      match dispatch a m with
      | (m, .ok ()) => stepsFrom (done + 1) budget m
      | (m, .error e) => (m, .error e)

def step (m : Machine χ) (budget : Nat) : Machine χ × Except Failure Nat := stepsFrom 0 budget m

def loadProgram (m : Machine χ) (p : Program) : Machine χ := m.push .exec (.program p)

/-- Loads a program and takes up to `budget` steps. -/
def execute (m : Machine χ) (p : Program) (budget : Nat) : Machine χ × Except Failure Nat :=
  (m.loadProgram p).step budget

end PushLang.Machine
