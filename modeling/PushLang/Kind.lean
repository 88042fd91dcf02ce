import PushLang.Stack.Element

namespace PushLang

inductive Kind where
  | integer
  | float
  | boolean
  | name
  | code
  | exec
  | input
  deriving DecidableEq

namespace Kind

def all : List Kind := [.integer, .float, .boolean, .name, .code, .exec, .input]

def label : Kind → String
  | .integer => "integer"
  | .float => "float"
  | .boolean => "boolean"
  | .name => "name"
  | .code => "code"
  | .exec => "exec"
  | .input => "input"

def ofLabel? (label : String) : Option Kind := all.find? fun k => k.label == label

@[reducible] def element : Kind → Element
  | .integer => .integer
  | .float => .float
  | .boolean => .boolean
  | .name => .name
  | .code => .atom
  | .exec => .atom
  | .input => .atom

@[reducible] def Item (k : Kind) : Type := k.element.Carrier

/-- What a failed calculation leaves in place of a result. -/
def faultValue? : (k : Kind) → Option k.Item
  | .integer => some (0 : Int64)
  | .float => some (0.0 : Double)
  | .boolean => some false
  | .name => none
  | .code => none
  | .exec => none
  | .input => none

end Kind

structure Constant where
  kind : Kind
  value : kind.Item

end PushLang
