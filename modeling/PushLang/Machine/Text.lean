import PushLang.Machine.Basic

namespace PushLang.Machine

variable {χ : Type}

def renderStack (m : Machine χ) (k : Kind) : String := (m.stack k).render k.element.render

def inspectStack (m : Machine χ) (k : Kind) : String := (m.stack k).inspect k.element.inspect

def render (m : Machine χ) : String :=
  let line (title : String) (k : Kind) := title ++ " stack: " ++ m.renderStack k
  "\n".intercalate
    [line "exec" .exec, line "code" .code, line "int" .integer, line "float" .float,
     line "boolean" .boolean, line "name" .name, line "input" .input]

def inspect (m : Machine χ) : String :=
  let stackField (title : String) (k : Kind) := title ++ "_stack: " ++ m.inspectStack k
  let countField (title : String) (n : Nat) := title ++ ": " ++ String.ofList (Nat.toDigits 10 n)
  "Interpreter \x7b " ++ ", ".intercalate
    [stackField "int" .integer, stackField "float" .float, stackField "bool" .boolean,
     stackField "name" .name, stackField "code" .code, stackField "exec" .exec,
     stackField "input" .input, countField "instructions" m.instructions.size,
     countField "bindings" m.bindings.size, countField "evaluation_executions" m.evaluations] ++
    " \x7d"

end PushLang.Machine
