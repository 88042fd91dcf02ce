import PushLang.Machine.Form

namespace PushLang

variable {χ : Type}

def StackOp.apply {α : Type} : StackOp → Stack α → Stack α
  | .pop, s => s.pop
  | .dup, s => s.dup
  | .swap, s => s.swap
  | .rot, s => s.rot
  | .flush, _ => .empty

def StackOp.run (k : Kind) (op : StackOp) : Effect χ :=
  .always fun m => m.setStack k (op.apply (m.stack k))

def IndexOp.apply {α : Type} : IndexOp → Stack α → Int64 → Stack α
  | .shove, s, n => s.shoveTop n
  | .yank, s, n => s.yank n
  | .yankDup, s, n => s.yankDup n

def IndexOp.run (k : Kind) (op : IndexOp) : Effect χ :=
  action [.integer] false fun (n, _) m => (m.setStack k (op.apply (m.stack k) n), .ok ())

def Stack.depth {α : Type} (s : Stack α) : Int64 := Int64.ofIntClamp s.size

def pushDepth (k : Kind) : Effect χ :=
  producing [] .integer false fun _ m => (m, .ok (m.stack k).depth)

def compareItems (k : Kind) : Effect χ :=
  calculating [k, k] .boolean fun (a, b, _) => .ok (k.element.equal a b)

def comparePair (k : Kind) : Effect χ := .always fun m =>
  match (m.stack k).down with
  | a :: b :: rest => (m.setStack k ⟨rest⟩).push .boolean (k.element.equal a b)
  | _ => m

/-- Comparing code takes nothing unless there are two items. -/
def compareTop : Kind → Effect χ
  | .code => comparePair .code
  | .exec => comparePair .exec
  | k => compareItems k

/-- Binds the name on top of the name stack to the top item of another stack. The name is gone even
if there is no item. -/
def bindTop (k : Kind) : Effect χ := .always fun m =>
  match m.take .name false with
  | (none, m) => m
  | (some name, m) =>
    match m.take k false with
    | (none, m) => m
    | (some v, m) => m.bind name ⟨k, v⟩

end PushLang
