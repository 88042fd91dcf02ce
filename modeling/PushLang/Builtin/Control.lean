import PushLang.Machine.Form

namespace PushLang

variable {χ : Type}

namespace Machine

def admits (m : Machine χ) (p : Program) : Bool := Program.points p ≤ m.config.maxPoints

def body (m : Machine χ) : Domain → Stack Atom
  | .code => m.stack .code
  | .exec => m.stack .exec

def setBody (m : Machine χ) (s : Stack Atom) : Domain → Machine χ
  | .code => m.setStack .code s
  | .exec => m.setStack .exec s

end Machine

def quoteName (m : Machine χ) : Machine χ :=
  match (m.stack .exec).down with
  | .name s :: _ => (m.drop .exec).push .name s
  | _ => m

def quoteCode (m : Machine χ) : Machine χ :=
  match (m.stack .exec).down with
  | a :: _ => (m.drop .exec).push .code a
  | [] => m

def chooseBranch (d : Domain) (m : Machine χ) : Machine χ :=
  match (m.stack .boolean).down, (m.body d).down with
  | condition :: _, first :: second :: rest =>
    ((m.drop .boolean).setBody ⟨rest⟩ d).push .exec (if condition then first else second)
  | _, _ => m

def execK (m : Machine χ) : Machine χ :=
  match (m.stack .exec).down with
  | a :: _ :: rest => m.setStack .exec ⟨a :: rest⟩
  | _ => m

/-- Turns the items `a`, `b` and `c` into `a`, `c` and `(b c)`. -/
def execS (m : Machine χ) : Machine χ :=
  match (m.stack .exec).down with
  | a :: b :: c :: rest =>
    if m.admits [b, c] then m.setStack .exec ⟨a :: c :: .program [b, c] :: rest⟩ else m
  | _ => m

/-- Puts a program below the next item that repeats it once more. -/
def execY (m : Machine χ) : Machine χ :=
  match (m.stack .exec).down with
  | a :: rest =>
    let again : Program := [.name "exec.y", a]
    if m.admits again then m.setStack .exec ⟨a :: .program again :: rest⟩ else m
  | [] => m

/-- The program that runs `code` over a range of integers. -/
def rangeProgram (d : Domain) (start stop : Int64) (code : Atom) : Program :=
  match d with
  | .code => [.integer start, .integer stop, .name "code.quote", code, .name "code.do*range"]
  | .exec => [.integer start, .integer stop, .name "exec.do*range", code]

/-- Runs code with the first integer of a range on the stack, then over the rest of the range. -/
def doRange (d : Domain) (m : Machine χ) : Machine χ :=
  match (m.body d).down, (m.stack .integer).down with
  | code :: rest, stop :: start :: _ =>
    let taken := (m.drop .integer).setBody ⟨rest⟩ d
    if start = stop then taken.push .exec code
    else
      let again := rangeProgram d (if start < stop then start + 1 else start - 1) stop code
      if m.admits again then (taken.push .exec (.program again)).push .exec code else m
  | _, _ => m

def doCounted (d : Domain) (wrap : Atom → Atom) (m : Machine χ) : Machine χ :=
  match (m.body d).down, (m.stack .integer).down with
  | code :: rest, count :: _ =>
    let loop := rangeProgram d 0 (count - 1) (wrap code)
    if 0 < count ∧ m.admits loop then
      ((m.drop .integer).setBody ⟨rest⟩ d).push .exec (.program loop)
    else m
  | _, _ => m

def LoopOp.apply (d : Domain) : LoopOp → Machine χ → Machine χ
  | .range => doRange d
  | .count => doCounted d id
  | .times => doCounted d fun code => .program [.name "integer.pop", code]

def pushRandomCode (m : Machine χ) : Machine χ × Except Fault Unit :=
  match m.activeGenerators, m.take .integer false with
  | [], _ => (m, .ok ())
  | _, (none, m) => (m, .ok ())
  | _, (some requested, m) =>
    let limit := min requested.toInt.natAbs m.config.maxRandomSize
    let (size, m) :=
      if 0 < limit then m.withSource fun s => ((s.draw limit).1 + 2, (s.draw limit).2) else (2, m)
    match m.randomCode size with
    | (.ok p, m) => (m.push .code (.program p), .ok ())
    | (.error e, m) => (m, .error (.failed e.message))

def CodeOp.run : CodeOp → Effect χ
  | .quote => .always quoteCode
  | .fromBoolean => calculating [.boolean] .code fun (b, _) => .ok (.boolean b)
  | .fromInteger => calculating [.integer] .code fun (n, _) => .ok (.integer n)
  | .fromFloat => calculating [.float] .code fun (x, _) => .ok (.float x)
  | .noop => .always id
  | .rand => action [] false fun _ m => pushRandomCode m

def ExecOp.apply : ExecOp → Machine χ → Machine χ
  | .k => execK
  | .s => execS
  | .y => execY
  | .noop => id

end PushLang
