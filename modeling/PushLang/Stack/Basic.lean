namespace PushLang

/-- A stack, listed from the top down. -/
structure Stack (α : Type) where
  down : List α
  deriving DecidableEq

namespace Stack

variable {α β : Type}

def empty : Stack α := ⟨[]⟩

instance : Inhabited (Stack α) := ⟨empty⟩

def ofList (items : List α) : Stack α := ⟨items.reverse⟩

def toList (s : Stack α) : List α := s.down.reverse

def size (s : Stack α) : Nat := s.down.length

def isEmpty (s : Stack α) : Bool := s.down.isEmpty

def push (s : Stack α) (a : α) : Stack α := ⟨a :: s.down⟩

def top? (s : Stack α) : Option α := s.down.head?

def pop (s : Stack α) : Stack α := ⟨s.down.tail⟩

/-- The depth a requested depth stands for: negative ones mean the top, too large ones the bottom. -/
def clamp (s : Stack α) (n : Int64) : Nat := min n.toInt.toNat (s.size - 1)

def reverseIndex (s : Stack α) (n : Int64) : Nat := s.size - 1 - s.clamp n

def peek? (s : Stack α) (n : Int64) : Option α := s.down[s.clamp n]?

def deepPeek? (s : Stack α) (n : Int64) : Option α := s.down[s.reverseIndex n]?

def dup (s : Stack α) : Stack α :=
  match s.top? with
  | some a => s.push a
  | none => s

def swap (s : Stack α) : Stack α :=
  match s.down with
  | a :: b :: rest => ⟨b :: a :: rest⟩
  | _ => s

def rot (s : Stack α) : Stack α :=
  match s.down with
  | a :: b :: c :: rest => ⟨c :: a :: b :: rest⟩
  | _ => s

def shove (s : Stack α) (a : α) (n : Int64) : Stack α := ⟨s.down.insertIdx (s.clamp n) a⟩

def shoveTop (s : Stack α) (n : Int64) : Stack α :=
  match s.down with
  | [] => s
  | a :: rest => ⟨rest.insertIdx (s.clamp n) a⟩

def yank (s : Stack α) (n : Int64) : Stack α :=
  match s.peek? n with
  | some a => ⟨a :: s.down.eraseIdx (s.clamp n)⟩
  | none => s

def yankDup (s : Stack α) (n : Int64) : Stack α :=
  match s.peek? n with
  | some a => s.push a
  | none => s

/-- Pushes all items of `s` onto `onto`, top first, so that the bottom item ends on top. -/
def pushAllReverse (s onto : Stack α) : Stack α := ⟨s.toList ++ onto.down⟩

def equal (eq : α → α → Bool) (s t : Stack α) : Bool :=
  s.size == t.size && (s.down.zip t.down).all fun (a, b) => eq a b

def render (text : α → String) (s : Stack α) : String :=
  "[" ++ " ".intercalate (s.down.map text) ++ "]"

def inspect (text : α → String) (s : Stack α) : String :=
  "TypedStack \x7b items: [" ++ ", ".intercalate (s.toList.map text) ++ "] \x7d"

end Stack

end PushLang
