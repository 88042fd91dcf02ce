import PushLang.Machine.Form

namespace PushLang

variable {χ : Type}

namespace Machine

/-- Pushes an atom onto the stack of its kind; programs and instructions are code. -/
def route (m : Machine χ) : Atom → Machine χ
  | .integer n => m.push .integer n
  | .float x => m.push .float x
  | .boolean b => m.push .boolean b
  | .name s => m.push .name s
  | a => m.push .code a

def deliver (m : Machine χ) (a : Atom) : Machine χ :=
  match m.pusher, a with
  | .routing, a => m.route a
  | .doubling, .integer n => m.push .integer (n * 2)
  | .coding, a => m.push .code a
  | _, _ => m

/-- Hands on a copy of the input at a position, or of the last one if there are fewer. -/
def copyInput (m : Machine χ) (index : Nat) : Machine χ :=
  match (m.stack .input).deepPeek? (Int64.ofIntClamp index) with
  | some a => m.deliver a
  | none => m

def OwnsPusher (m : Machine χ) : Prop := ∀ x, m.pusher ≠ .host x

theorem pusher_route (m : Machine χ) (a : Atom) : (m.route a).pusher = m.pusher := by
  cases a <;> rfl

theorem pusher_deliver (m : Machine χ) (a : Atom) : (m.deliver a).pusher = m.pusher := by
  unfold deliver
  split
  · exact m.pusher_route _
  · rfl
  · rfl
  · rfl

theorem pusher_copyInput (m : Machine χ) (index : Nat) : (m.copyInput index).pusher = m.pusher := by
  unfold copyInput
  split
  · exact m.pusher_deliver _
  · rfl

variable [Host χ]

def pushInput (m : Machine χ) (index : Nat) : Machine χ :=
  match m.pusher with
  | .host x => Host.input x index m
  | _ => m.copyInput index

theorem pushInput_eq {m : Machine χ} (h : m.OwnsPusher) (index : Nat) :
    m.pushInput index = m.copyInput index := by
  unfold pushInput
  split
  · exact absurd ‹_› (h _)
  · rfl

end Machine

/-- Only an input instruction may come to a pusher of the host, of which nothing is known. -/
def Builtin.AsksNoHost (b : Builtin) (m : Machine χ) : Prop := ∀ op, b = .input op → m.OwnsPusher

variable [Host χ]

def inputAtIndex (m : Machine χ) : Machine χ :=
  if (m.stack .input).isEmpty then m
  else
    match m.take .integer false with
    | (none, m) => m
    | (some n, m) => m.pushInput (min n.toInt.toNat ((m.stack .input).size - 1))

def inputsAt (indices : List Nat) (m : Machine χ) : Machine χ :=
  indices.foldl (fun m i => m.pushInput i) m

theorem inputsAt_eq {m : Machine χ} (h : m.OwnsPusher) (indices : List Nat) :
    inputsAt indices m = indices.foldl (fun m i => m.copyInput i) m := by
  induction indices generalizing m with
  | nil => rfl
  | cons i rest ih =>
    have hcopied : (m.copyInput i).OwnsPusher := by rwa [Machine.OwnsPusher, m.pusher_copyInput]
    rw [inputsAt, List.foldl_cons, List.foldl_cons, m.pushInput_eq h, ← inputsAt, ih hcopied]

def InputOp.apply : InputOp → Machine χ → Machine χ
  | .index => inputAtIndex
  | .inAll => fun m => inputsAt (List.range (m.stack .input).size) m
  | .inAllRev => fun m => inputsAt (List.range (m.stack .input).size).reverse m

end PushLang
