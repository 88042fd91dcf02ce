import PushLang.Kind

namespace PushLang

structure Stacks where
  integer : Stack Int64 := .empty
  float : Stack Double := .empty
  boolean : Stack Bool := .empty
  name : Stack String := .empty
  code : Stack Atom := .empty
  exec : Stack Atom := .empty
  input : Stack Atom := .empty

namespace Stacks

def get (s : Stacks) : (k : Kind) → Stack k.Item
  | .integer => s.integer
  | .float => s.float
  | .boolean => s.boolean
  | .name => s.name
  | .code => s.code
  | .exec => s.exec
  | .input => s.input

def set (s : Stacks) : (k : Kind) → Stack k.Item → Stacks
  | .integer, t => { s with integer := t }
  | .float, t => { s with float := t }
  | .boolean, t => { s with boolean := t }
  | .name, t => { s with name := t }
  | .code, t => { s with code := t }
  | .exec, t => { s with exec := t }
  | .input, t => { s with input := t }

@[simp] theorem get_set_self (s : Stacks) (k : Kind) (t : Stack k.Item) : (s.set k t).get k = t := by
  cases k <;> rfl

@[simp] theorem get_set_of_ne (s : Stacks) {k l : Kind} (h : l ≠ k) (t : Stack k.Item) :
    (s.set k t).get l = s.get l := by
  cases k <;> cases l <;> simp_all [get, set]

@[simp] theorem set_get_self (s : Stacks) (k : Kind) : s.set k (s.get k) = s := by
  cases k <;> rfl

@[simp] theorem set_set_self (s : Stacks) (k : Kind) (t u : Stack k.Item) :
    (s.set k t).set k u = s.set k u := by
  cases k <;> rfl

end Stacks

end PushLang
