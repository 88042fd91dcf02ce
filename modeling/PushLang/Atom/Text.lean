import PushLang.Atom.Basic
import PushLang.Decimal.Layout
import PushLang.Text.Quoted

namespace PushLang

def renderBool (b : Bool) : String := if b then "true" else "false"

mutual

def Atom.render : Atom → String
  | .integer n => Decimal.integer n
  | .float x => Decimal.pointed x
  | .boolean b => renderBool b
  | .name s => s
  | .instruction h => h.name
  | .program p => "(" ++ " ".intercalate (Program.renderEach p) ++ ")"

def Program.renderEach : List Atom → List String
  | [] => []
  | a :: rest => a.render :: Program.renderEach rest

end

def Program.render (p : Program) : String := "(" ++ " ".intercalate (renderEach p) ++ ")"

mutual

def Atom.inspect : Atom → String
  | .integer n => "Integer(" ++ Decimal.integer n ++ ")"
  | .float x => "Float(" ++ Decimal.withExponent x ++ ")"
  | .boolean b => "Boolean(" ++ renderBool b ++ ")"
  | .name s => "Name(" ++ Text.quote s ++ ")"
  | .instruction h => "Instruction(InstructionRef(" ++ h.name ++ "))"
  | .program p =>
    "Program(Program \x7b items: TypedStack \x7b items: [" ++
      ", ".intercalate (Program.inspectEach p) ++ "] \x7d \x7d)"

def Program.inspectEach : List Atom → List String
  | [] => []
  | a :: rest => a.inspect :: Program.inspectEach rest

end

def Program.inspect (p : Program) : String :=
  "Program \x7b items: TypedStack \x7b items: [" ++ ", ".intercalate (inspectEach p) ++ "] \x7d \x7d"

end PushLang
