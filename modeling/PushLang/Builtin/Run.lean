import PushLang.Builtin.Arithmetic
import PushLang.Builtin.Control
import PushLang.Builtin.Input
import PushLang.Builtin.Stacks

namespace PushLang

variable {χ : Type} [Host χ]

def Builtin.run : Builtin → Effect χ
  | .stack k op => op.run k
  | .index k op => op.run k
  | .depth k => pushDepth k
  | .equal k => compareTop k
  | .define k => bindTop k
  | .integer op => op.run
  | .float op => op.run
  | .boolean op => op.run
  | .nameQuote => .always quoteName
  | .code op => op.run
  | .exec op => .always op.apply
  | .branch d => .always (chooseBranch d)
  | .loop d op => .always (op.apply d)
  | .input op => .always op.apply

def Operation.run : Operation χ → Effect χ
  | .builtin b => b.run
  | .input index => .always fun m => m.pushInput index
  | .constant c => .always fun m => m.push c.kind c.value
  | .host x => Host.call x

end PushLang
