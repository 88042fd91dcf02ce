import PushLang.Builtin.Basic
import PushLang.Random.Code
import PushLang.Stack.Family
import Std.Data.ExtTreeMap

namespace PushLang

open PushLang.Random

abbrev NameMap (α : Type) := Std.ExtTreeMap String α

inductive Operation (χ : Type) where
  | builtin (b : Builtin)
  | input (index : Nat)
  | constant (c : Constant)
  | host (x : χ)

/-- Where the inputs go that instructions ask for: to the stack of their kind, integers doubled to
the integer stack and nothing else, all to the code stack, or wherever the host takes them. -/
inductive InputPusher (χ : Type) where
  | routing
  | doubling
  | coding
  | host (x : χ)

structure Call where
  name : String
  operands : List Atom

/-- A machine. Handles refer to `operations` by their serial number; `instructions` has the latest
handle of each name. Random code is made from the `active` generators, which are chosen among the
`available` ones, a copy of `generators` made at some time. The count of `evaluations` has no bound:
no run takes the `2 ^ 64` steps after which a machine word is used up. -/
structure Machine (χ : Type) where
  contents : Stacks := {}
  operations : Array (Operation χ) := #[]
  instructions : NameMap Handle := ∅
  bindings : NameMap Constant := ∅
  generators : NameMap Generator := ∅
  available : NameMap Generator := ∅
  active : NameMap Generator := ∅
  source : Source
  pusher : InputPusher χ := .routing
  evaluations : Nat := 0
  config : Config
  journal : List Call := []

namespace Machine

variable {χ : Type}

def stack (m : Machine χ) (k : Kind) : Stack k.Item := m.contents.get k

def setStack (m : Machine χ) (k : Kind) (s : Stack k.Item) : Machine χ :=
  { m with contents := m.contents.set k s }

def push (m : Machine χ) (k : Kind) (v : k.Item) : Machine χ := m.setStack k ((m.stack k).push v)

theorem setStack_push (m : Machine χ) {k : Kind} (v : k.Item) :
    (m.push k v).setStack k (m.stack k) = m := by
  simp only [push, setStack, stack, Stacks.set_set_self, Stacks.set_get_self]

def drop (m : Machine χ) (k : Kind) : Machine χ := m.setStack k (m.stack k).pop

def clearStacks (m : Machine χ) : Machine χ := { m with contents := {} }

/-- Registers an instruction, under a new handle, and a generator of its name. -/
def define (m : Machine χ) (name : String) (op : Operation χ) : Machine χ :=
  { m with
    operations := m.operations.push op
    instructions := m.instructions.insert name ⟨m.operations.size, name⟩
    generators := m.generators.insert name (.instruction name) }

def bind (m : Machine χ) (name : String) (c : Constant) : Machine χ :=
  { m with bindings := m.bindings.insert name c }

def load (m : Machine χ) : Machine χ := { m with available := m.generators }

def literals : List (String × Generator) :=
  [("integer.erc", .integer), ("float.erc", .float), ("boolean.erc", .boolean)]

/-- A machine with the built-in instructions. Without a seed its random source is a fresh one. -/
def new (config : Config) (fresh : Source) : Machine χ :=
  let start : Machine χ := { source := (config.seed.map .ofSeed).getD fresh, config }
  let built := Builtin.all.foldl (fun m b => m.define b.name (.builtin b)) start
  { built with generators := built.generators.insertMany literals }.load

/-- What holds of a machine without instructions, and still holds when a built-in instruction is
registered and when generators are loaded, holds of a new machine. -/
theorem new_induction {P : Machine χ → Prop} (config : Config) (fresh : Source)
    (start : P { source := (config.seed.map .ofSeed).getD fresh, config })
    (define : ∀ m (b : Builtin), P m → P (m.define b.name (.builtin b)))
    (load : ∀ m generators, P m → P ({ m with generators } : Machine χ).load) :
    P (new config fresh) := by
  have hdefined : ∀ (bs : List Builtin) m, P m →
      P (bs.foldl (fun m b => m.define b.name (.builtin b)) m) := by
    intro bs
    induction bs with
    | nil => exact fun m h => h
    | cons b bs ih => exact fun m h => ih _ (define m b h)
  exact load _ _ (hdefined Builtin.all _ start)

def handle? (m : Machine χ) (name : String) : Option Handle := m.instructions[name]?

def isBound (m : Machine χ) (name : String) : Bool := m.bindings.contains name

def instructionNames (m : Machine χ) : List String := m.instructions.keys

def activeGenerators (m : Machine χ) : List Generator := m.active.toList.map Prod.snd

def withSource {α : Type} (m : Machine χ) (f : Source → α × Source) : α × Machine χ :=
  let (a, s) := f m.source
  (a, { m with source := s })

def randomAtom (m : Machine χ) : Except Failure Atom × Machine χ :=
  m.withSource (Random.atom m.activeGenerators m.config)

def randomCode (m : Machine χ) (size : Nat) : Except Failure Program × Machine χ :=
  m.withSource (Random.code m.activeGenerators m.config size)

end Machine

/-- What an instruction does to a machine: the machine it leaves, and whether it failed. -/
abbrev Effect (χ : Type) := Machine χ → Machine χ × Except Failure Unit

/-- What the host adds to a machine: what it does as an instruction, what it does with the input at
a position as a pusher, and in which names it finds a text as a pattern, if it takes it for one. -/
class Host (χ : Type) where
  call : χ → Effect χ
  input : χ → Nat → Machine χ → Machine χ
  pattern? : String → Option (String → Bool)

def Effect.always {χ : Type} (f : Machine χ → Machine χ) : Effect χ := fun m => (f m, .ok ())

end PushLang
