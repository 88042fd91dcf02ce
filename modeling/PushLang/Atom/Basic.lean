import PushLang.Binary64.Basic

namespace PushLang

/-- A registered instruction. Handles of the same registration share the serial number. -/
structure Handle where
  serial : Nat
  name : String
  deriving DecidableEq

inductive Atom where
  | integer (n : Int64)
  | float (x : Double)
  | boolean (b : Bool)
  | name (text : String)
  | instruction (handle : Handle)
  | program (children : List Atom)

instance : Inhabited Atom := ⟨.program []⟩

/-- The children of a program, first to last. -/
abbrev Program := List Atom

mutual

def Atom.points : Atom → Nat
  | .program children => Program.points children
  | _ => 0

/-- The number of atoms in the whole tree. -/
def Program.points : List Atom → Nat
  | [] => 0
  | a :: rest => 1 + a.points + Program.points rest

end

@[simp] theorem Program.points_nil : Program.points [] = 0 := by simp [Program.points]

@[simp] theorem Program.points_cons (a : Atom) (p : Program) :
    Program.points (a :: p) = 1 + a.points + Program.points p := by simp [Program.points]

@[simp] theorem Atom.points_program (p : Program) : (Atom.program p).points = Program.points p := by
  simp [Atom.points]

theorem Program.points_append (p q : Program) :
    Program.points (p ++ q) = Program.points p + Program.points q := by
  induction p with
  | nil => simp
  | cons a p ih => rw [List.cons_append, points_cons, points_cons, ih]; omega

def Atom.isProgram : Atom → Bool
  | .program _ => true
  | _ => false

mutual

/-- Equality by value, handles by identity. -/
def Atom.equal : Atom → Atom → Bool
  | .integer m, .integer n => m == n
  | .float x, .float y => x == y || (x.isNaN && y.isNaN)
  | .boolean b, .boolean c => b == c
  | .name s, .name t => s == t
  | .instruction g, .instruction h => g.serial == h.serial
  | .program p, .program q => Program.equal p q
  | _, _ => false

def Program.equal : List Atom → List Atom → Bool
  | [], [] => true
  | a :: p, b :: q => a.equal b && Program.equal p q
  | _, _ => false

end

/-- A value fed to a hash function. The items of a stack are preceded by the number of their type. -/
inductive Datum where
  | tag (n : Nat)
  | element (n : Nat)
  | length (n : Nat)
  | integer (n : Int64)
  | bits (b : UInt64)
  | truth (b : Bool)
  | text (s : String)
  | serial (n : Nat)
  deriving DecidableEq

/-- The bits a double stands for in a digest: one value for both zeros and one for every NaN. -/
def floatBits (x : Double) : UInt64 :=
  if x == 0.0 then 0 else if x.isNaN then UInt64.ofNat (2 ^ 64 - 1) else x.bits

mutual

/-- The values an atom feeds to a hash function. A program feeds what a stack of its children does. -/
def Atom.digest : Atom → List Datum
  | .integer n => [.tag 0, .integer n]
  | .float x => [.tag 1, .bits (floatBits x)]
  | .boolean b => [.tag 2, .truth b]
  | .name s => [.tag 3, .text s]
  | .instruction h => [.tag 4, .serial h.serial]
  | .program p => .tag 5 :: .element 4 :: .length p.length :: Program.digest p

def Program.digest : List Atom → List Datum
  | [] => []
  | a :: rest => a.digest ++ Program.digest rest

end

end PushLang
