import PushLang.Kind

namespace PushLang

/-- The stacks that a program works on: all but the inputs. -/
abbrev Kind.Working := {k : Kind // k ≠ .input}

/-- The stacks whose items a name can be bound to. -/
abbrev Kind.Bindable := {k : Kind // k ≠ .input ∧ k ≠ .name}

def Kind.working : List Kind.Working :=
  [⟨.integer, by decide⟩, ⟨.float, by decide⟩, ⟨.boolean, by decide⟩, ⟨.name, by decide⟩,
   ⟨.code, by decide⟩, ⟨.exec, by decide⟩]

def Kind.bindable : List Kind.Bindable :=
  [⟨.integer, by decide⟩, ⟨.float, by decide⟩, ⟨.boolean, by decide⟩, ⟨.code, by decide⟩,
   ⟨.exec, by decide⟩]

inductive StackOp where
  | pop | dup | swap | rot | flush
  deriving DecidableEq

inductive IndexOp where
  | shove | yank | yankDup
  deriving DecidableEq

inductive IntegerOp where
  | add | sub | mul | div | mod | min | max | abs | neg | less | greater
  | fromFloat | fromBoolean | rand
  deriving DecidableEq

inductive FloatOp where
  | add | sub | mul | div | mod | min | max | abs | neg | sin | cos | tan | exp | ln
  | less | greater | fromInteger | fromBoolean | rand
  deriving DecidableEq

inductive BooleanOp where
  | literal (b : Bool)
  | not | and | or | xor | fromInteger | fromFloat | rand
  deriving DecidableEq

inductive CodeOp where
  | quote | fromBoolean | fromInteger | fromFloat | noop | rand
  deriving DecidableEq

/-- Rearrangements of the pending code: drop the second item, substitute, and repeat. -/
inductive ExecOp where
  | k | s | y | noop
  deriving DecidableEq

/-- Where control instructions find the code they control. -/
inductive Domain where
  | code | exec
  deriving DecidableEq

inductive LoopOp where
  | range | count | times
  deriving DecidableEq

inductive InputOp where
  | index | inAll | inAllRev
  deriving DecidableEq

inductive Builtin where
  | stack (k : Kind.Working) (op : StackOp)
  | index (k : Kind.Working) (op : IndexOp)
  | depth (k : Kind)
  | equal (k : Kind.Working)
  | define (k : Kind.Bindable)
  | integer (op : IntegerOp)
  | float (op : FloatOp)
  | boolean (op : BooleanOp)
  | nameQuote
  | code (op : CodeOp)
  | exec (op : ExecOp)
  | branch (d : Domain)
  | loop (d : Domain) (op : LoopOp)
  | input (op : InputOp)
  deriving DecidableEq

def StackOp.label : StackOp → String
  | .pop => "pop"
  | .dup => "dup"
  | .swap => "swap"
  | .rot => "rot"
  | .flush => "flush"

def IndexOp.label : IndexOp → String
  | .shove => "shove"
  | .yank => "yank"
  | .yankDup => "yankdup"

def IntegerOp.label : IntegerOp → String
  | .add => "+"
  | .sub => "-"
  | .mul => "*"
  | .div => "/"
  | .mod => "%"
  | .min => "min"
  | .max => "max"
  | .abs => "abs"
  | .neg => "neg"
  | .less => "<"
  | .greater => ">"
  | .fromFloat => "fromfloat"
  | .fromBoolean => "fromboolean"
  | .rand => "rand"

def FloatOp.label : FloatOp → String
  | .add => "+"
  | .sub => "-"
  | .mul => "*"
  | .div => "/"
  | .mod => "%"
  | .min => "min"
  | .max => "max"
  | .abs => "abs"
  | .neg => "neg"
  | .sin => "sin"
  | .cos => "cos"
  | .tan => "tan"
  | .exp => "exp"
  | .ln => "ln"
  | .less => "<"
  | .greater => ">"
  | .fromInteger => "frominteger"
  | .fromBoolean => "fromboolean"
  | .rand => "rand"

def CodeOp.label : CodeOp → String
  | .quote => "quote"
  | .fromBoolean => "fromboolean"
  | .fromInteger => "frominteger"
  | .fromFloat => "fromfloat"
  | .noop => "noop"
  | .rand => "rand"

def ExecOp.label : ExecOp → String
  | .k => "k"
  | .s => "s"
  | .y => "y"
  | .noop => "noop"

def LoopOp.label : LoopOp → String
  | .range => "do*range"
  | .count => "do*count"
  | .times => "do*times"

def InputOp.label : InputOp → String
  | .index => "index"
  | .inAll => "inall"
  | .inAllRev => "inallrev"

def Domain.kind : Domain → Kind
  | .code => .code
  | .exec => .exec

/-- The literals have a name without a kind. -/
def BooleanOp.name : BooleanOp → String
  | .literal b => renderBool b
  | .not => "boolean.not"
  | .and => "boolean.and"
  | .or => "boolean.or"
  | .xor => "boolean.xor"
  | .fromInteger => "boolean.frominteger"
  | .fromFloat => "boolean.fromfloat"
  | .rand => "boolean.rand"

def Kind.named (k : Kind) (label : String) : String := k.label ++ "." ++ label

/-- The name a built-in instruction is registered under. -/
def Builtin.name : Builtin → String
  | .stack k op => k.val.named op.label
  | .index k op => k.val.named op.label
  | .depth k => k.named "stackdepth"
  | .equal k => k.val.named "="
  | .define k => k.val.named "define"
  | .integer op => Kind.integer.named op.label
  | .float op => Kind.float.named op.label
  | .boolean op => op.name
  | .nameQuote => Kind.name.named "quote"
  | .code op => Kind.code.named op.label
  | .exec op => Kind.exec.named op.label
  | .branch d => d.kind.named "if"
  | .loop d op => d.kind.named op.label
  | .input op => Kind.input.named op.label

def Builtin.all : List Builtin :=
  (Kind.working.flatMap fun k =>
    [.stack k .pop, .stack k .dup, .stack k .swap, .stack k .rot, .stack k .flush,
     .index k .shove, .index k .yank, .index k .yankDup, .equal k]) ++
  Kind.all.map .depth ++
  Kind.bindable.map .define ++
  [.integer .add, .integer .sub, .integer .mul, .integer .div, .integer .mod, .integer .min,
   .integer .max, .integer .abs, .integer .neg, .integer .less, .integer .greater,
   .integer .fromFloat, .integer .fromBoolean, .integer .rand,
   .float .add, .float .sub, .float .mul, .float .div, .float .mod, .float .min, .float .max,
   .float .abs, .float .neg, .float .sin, .float .cos, .float .tan, .float .exp, .float .ln,
   .float .less, .float .greater, .float .fromInteger, .float .fromBoolean, .float .rand,
   .boolean (.literal true), .boolean (.literal false), .boolean .not, .boolean .and,
   .boolean .or, .boolean .xor, .boolean .fromInteger, .boolean .fromFloat, .boolean .rand,
   .nameQuote,
   .code .quote, .code .fromBoolean, .code .fromInteger, .code .fromFloat, .code .noop,
   .code .rand,
   .exec .k, .exec .s, .exec .y, .exec .noop,
   .branch .code, .branch .exec,
   .loop .code .range, .loop .code .count, .loop .code .times,
   .loop .exec .range, .loop .exec .count, .loop .exec .times,
   .input .index, .input .inAll, .input .inAllRev]

end PushLang
