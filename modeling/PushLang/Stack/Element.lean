import PushLang.Atom.Text
import PushLang.Stack.Basic

namespace PushLang

inductive Element where
  | integer
  | float
  | boolean
  | name
  | atom
  deriving DecidableEq

namespace Element

@[reducible] def Carrier : Element → Type
  | .integer => Int64
  | .float => Double
  | .boolean => Bool
  | .name => String
  | .atom => Atom

/-- Equality of items. Doubles compare by value, so that a NaN differs from itself. -/
def equal : (e : Element) → e.Carrier → e.Carrier → Bool
  | .integer, (m : Int64), (n : Int64) => m == n
  | .float, (x : Double), (y : Double) => x == y
  | .boolean, (b : Bool), (c : Bool) => b == c
  | .name, (s : String), (t : String) => s == t
  | .atom, (a : Atom), (b : Atom) => a.equal b

def render : (e : Element) → e.Carrier → String
  | .integer, (n : Int64) => Decimal.integer n
  | .float, (x : Double) => Decimal.plain x
  | .boolean, (b : Bool) => renderBool b
  | .name, (s : String) => s
  | .atom, (a : Atom) => a.render

def inspect : (e : Element) → e.Carrier → String
  | .integer, (n : Int64) => Decimal.integer n
  | .float, (x : Double) => Decimal.withExponent x
  | .boolean, (b : Bool) => renderBool b
  | .name, (s : String) => Text.quote s
  | .atom, (a : Atom) => a.inspect

def number : Element → Nat
  | .integer => 0
  | .float => 1
  | .boolean => 2
  | .name => 3
  | .atom => 4

def digest : (e : Element) → e.Carrier → List Datum
  | .integer, (n : Int64) => [.integer n]
  | .float, (x : Double) => [.bits (floatBits x)]
  | .boolean, (b : Bool) => [.truth b]
  | .name, (s : String) => [.text s]
  | .atom, (a : Atom) => a.digest

def toAtom : (e : Element) → e.Carrier → Atom
  | .integer, (n : Int64) => .integer n
  | .float, (x : Double) => .float x
  | .boolean, (b : Bool) => .boolean b
  | .name, (s : String) => .name s
  | .atom, (a : Atom) => a

def ofAtom? : (e : Element) → Atom → Option e.Carrier
  | .integer, .integer n => some n
  | .float, .float x => some x
  | .boolean, .boolean b => some b
  | .name, .name s => some s
  | .atom, a => some a
  | _, _ => none

end Element

abbrev AnyStack := (e : Element) × Stack e.Carrier

namespace AnyStack

/-- Stacks of different types of items differ, even if both are empty. -/
def equal : AnyStack → AnyStack → Bool
  | ⟨.integer, s⟩, ⟨.integer, t⟩ => s.equal (Element.integer.equal) t
  | ⟨.float, s⟩, ⟨.float, t⟩ => s.equal (Element.float.equal) t
  | ⟨.boolean, s⟩, ⟨.boolean, t⟩ => s.equal (Element.boolean.equal) t
  | ⟨.name, s⟩, ⟨.name, t⟩ => s.equal (Element.name.equal) t
  | ⟨.atom, s⟩, ⟨.atom, t⟩ => s.equal (Element.atom.equal) t
  | _, _ => false

/-- The values a stack feeds to a hash function: its type of items, its size and its items. -/
def digest (s : AnyStack) : List Datum :=
  .element s.1.number :: .length s.2.size :: s.2.toList.flatMap s.1.digest

end AnyStack

end PushLang
