import PushLang.Machine.Step
import PushLang.Pattern.Automaton
import PushLang.Pattern.Reader

namespace PushLang

/-- A scripted instruction acts, or produces a value on the stack of some kind. -/
inductive Scripted where
  | acting (name : String) (operands : List Kind) (peek : Bool) (pushes : List Constant)
      (result : Except Fault Unit)
  | producing (name : String) (operands : List Kind) (peek : Bool) (pushes : List Constant)
      (out : Kind) (result : Except Fault out.Item)

namespace Scripted

def perform {χ : Type} (name : String) (ks : List Kind) (operands : Operands ks)
    (pushes : List Constant) (m : Machine χ) : Machine χ :=
  let noted := { m with journal := ⟨name, operands.toAtoms ks⟩ :: m.journal }
  pushes.foldl (fun m c => m.push c.kind c.value) noted

/-- As a pusher a scripted instruction pushes its values whichever input is asked for. -/
def supply {χ : Type} (x : Scripted) (m : Machine χ) : Machine χ :=
  match x with
  | .acting name _ _ pushes _ => perform name [] () pushes m
  | .producing name _ _ pushes _ _ => perform name [] () pushes m

instance : Host Scripted where
  call
    | .acting name ks peek pushes result =>
      action ks peek fun operands m => (perform name ks operands pushes m, result)
    | .producing name ks peek pushes out result =>
      PushLang.producing ks out peek fun operands m => (perform name ks operands pushes m, result)
  input x _ m := x.supply m
  pattern? text := (Pattern.read? text).map fun p => p.automaton.finds

end Scripted

end PushLang
