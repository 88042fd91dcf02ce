import PushLang.Proofs.Guarded.Random
import PushLang.Proofs.Machine.Run

namespace PushLang.Guarded

variable {χ : Type}

/-- An effect that has no result where an operation leaves its domain. -/
abbrev Effect (χ : Type) := Machine χ → Option (Machine χ × Except Failure Unit)

def lift (e : PushLang.Effect χ) : Effect χ := fun m => some (e m)

def ofInt? (n : Int) : Option Int64 :=
  if Int64.minValue.toInt ≤ n ∧ n ≤ Int64.maxValue.toInt then some (Int64.ofInt n) else none

/-- A sum of sizes, which must have 64 bits. -/
def addSize? (a b : Nat) : Option Nat := if a + b < 2 ^ 64 then some (a + b) else none

def action? (ks : List Kind) (f : Operands ks → Machine χ → Option (Machine χ × Except Fault Unit)) :
    Effect χ := fun m =>
  match m.takeAll false ks with
  | (none, m) => some (m, .ok ())
  | (some operands, m) => do
    match ← f operands m with
    | (m, .ok ()) => some (m, .ok ())
    | (m, .error fault) => some (m, failureOf ks operands fault)

def producing? (ks : List Kind) (out : Kind)
    (f : Operands ks → Machine χ → Option (Machine χ × Except Fault out.Item)) : Effect χ := fun m =>
  match m.takeAll false ks with
  | (none, m) => some (m, .ok ())
  | (some operands, m) => do
    let (m, result) ← f operands m
    let outcome :=
      match result with
      | .ok _ => .ok ()
      | .error fault => failureOf ks operands fault
    some (m.push? out (resultOf out result), outcome)

def wrapping? (f : Int64 → Int64 → Int64) (a b : Int64) : Option Int64 :=
  if b = 0 then none else some (f a b)

def divided? (f : Int64 → Int64 → Int64) : Effect χ :=
  producing? [.integer, .integer] .integer fun (a, b, _) m =>
    if b = 0 then some (m, .error .arithmetic) else (wrapping? f a b).map fun n => (m, .ok n)

def runInteger? : IntegerOp → Effect χ
  | .div => divided? fun a b => a / b
  | .mod => divided? fun a b => a % b
  | .rand => producing? [] .integer fun _ m =>
    (sampleInteger? m.config.integers m.source).map fun (n, s) => ({ m with source := s }, .ok n)
  | op => lift op.run

def runFloat? : FloatOp → Effect χ
  | .rand => producing? [] .float fun _ m =>
    (sampleFloat? m.config.floats m.source).map fun (x, s) => ({ m with source := s }, .ok x)
  | op => lift op.run

/-- The limit of a count of points keeps the sum with two within 64 bits. -/
def pushRandomCode? (m : Machine χ) : Option (Machine χ × Except Fault Unit) :=
  match m.activeGenerators, m.take .integer false with
  | [], _ => some (m, .ok ())
  | _, (none, m) => some (m, .ok ())
  | _, (some requested, m) => do
    let limit := min requested.toInt.natAbs m.config.maxRandomSize
    let (size, m) ←
      if 0 < limit then do
        let (drawn, s) ← draw? limit m.source
        let size ← addSize? drawn 2
        some (size, { m with source := s })
      else some (2, m)
    match ← code? m.activeGenerators m.config size m.source with
    | (.ok p, s) => some (({ m with source := s } : Machine χ).push .code (.program p), .ok ())
    | (.error e, s) => some ({ m with source := s }, .error (.failed e.message))

def execK? (m : Machine χ) : Option (Machine χ) :=
  if 1 < (m.stack .exec).size then
    (swap? (m.stack .exec)).map fun s => m.setStack .exec s.pop
  else some m

def doRange? (d : Domain) (m : Machine χ) : Option (Machine χ) :=
  match (m.body d).down, (m.stack .integer).down with
  | code :: rest, stop :: start :: _ => do
    let taken := (m.drop .integer).setBody ⟨rest⟩ d
    if start = stop then some (taken.push .exec code)
    else
      let next ← ofInt? (if start < stop then start.toInt + 1 else start.toInt - 1)
      let again := rangeProgram d next stop code
      if m.admits again then some ((taken.push .exec (.program again)).push .exec code) else some m
  | _, _ => some m

def doCounted? (d : Domain) (wrap : Atom → Atom) (m : Machine χ) : Option (Machine χ) :=
  match (m.body d).down, (m.stack .integer).down with
  | code :: rest, count :: _ =>
    if 0 < count then do
      let last ← ofInt? (count.toInt - 1)
      let loop := rangeProgram d 0 last (wrap code)
      if m.admits loop then some (((m.drop .integer).setBody ⟨rest⟩ d).push .exec (.program loop))
      else some m
    else some m
  | _, _ => some m

def applyLoop? (d : Domain) : LoopOp → Machine χ → Option (Machine χ)
  | .range => doRange? d
  | .count => doCounted? d id
  | .times => doCounted? d fun code => .program [.name "integer.pop", code]

section

variable [Host χ]

def inputAtIndex? (m : Machine χ) : Option (Machine χ) :=
  if (m.stack .input).isEmpty then some m
  else
    match m.take .integer false with
    | (none, m) => some m
    | (some n, m) => (sub? (m.stack .input).size 1).map fun last => m.pushInput (min n.toInt.toNat last)

def runBuiltin? : Builtin → Effect χ
  | .stack k op => fun m =>
    (applyStack? op (m.stack k.val)).map fun s => (m.setStack k s, .ok ())
  | .index k op => action? [.integer] fun (n, _) m =>
    (applyIndex? op (m.stack k.val) n).map fun s => (m.setStack k s, .ok ())
  | .integer op => runInteger? op
  | .float op => runFloat? op
  | .code .rand => action? [] fun _ m => pushRandomCode? m
  | .exec .k => fun m => (execK? m).map fun m => (m, .ok ())
  | .loop d op => fun m => (applyLoop? d op m).map fun m => (m, .ok ())
  | .input .index => fun m => (inputAtIndex? m).map fun m => (m, .ok ())
  | b => lift b.run

end

theorem action?_eq {ks : List Kind}
    {f? : Operands ks → Machine χ → Option (Machine χ × Except Fault Unit)} {f : Callback χ ks Unit}
    (h : ∀ operands m, f? operands m = some (f operands m)) : action? ks f? = lift (action ks false f) := by
  funext m
  unfold action? lift action
  rcases m.takeAll false ks with ⟨_ | operands, m₁⟩
  · rfl
  · rcases hf : f operands m₁ with ⟨m₂, fault | _⟩ <;>
      simp only [h, hf, Option.bind_eq_bind, Option.bind_some]

theorem producing?_eq {ks : List Kind} {out : Kind}
    {f? : Operands ks → Machine χ → Option (Machine χ × Except Fault out.Item)}
    {f : Callback χ ks out.Item} (h : ∀ operands m, f? operands m = some (f operands m)) :
    producing? ks out f? = lift (producing ks out false f) := by
  funext m
  unfold producing? lift producing
  rcases m.takeAll false ks with ⟨_ | operands, m₁⟩
  · rfl
  · rcases hf : f operands m₁ with ⟨m₂, fault | v⟩ <;>
      simp only [h, hf, Option.bind_eq_bind, Option.bind_some]

theorem wrapping?_eq {f : Int64 → Int64 → Int64} {a b : Int64} (h : b ≠ 0) :
    wrapping? f a b = some (f a b) := if_neg h

theorem divided?_eq (f : Int64 → Int64 → Int64) :
    (divided? f : Effect χ) =
      lift (integerBinary fun a b => if b = 0 then .error .arithmetic else .ok (f a b)) := by
  unfold divided? integerBinary calculating
  apply producing?_eq
  rintro ⟨a, b, _⟩ m
  dsimp only
  split
  · rfl
  · rename_i hb
    rw [wrapping?_eq hb]
    rfl

theorem runInteger?_eq (op : IntegerOp) : (runInteger? op : Effect χ) = lift op.run := by
  cases op with
  | div => exact divided?_eq fun a b => a / b
  | mod => exact divided?_eq fun a b => a % b
  | rand =>
    unfold runInteger? IntegerOp.run
    apply producing?_eq
    intro _ m
    rw [sampleInteger?_eq]
    rfl
  | add | sub | mul | min | max | abs | neg | less | greater | fromFloat | fromBoolean => rfl

theorem runFloat?_eq (op : FloatOp) : (runFloat? op : Effect χ) = lift op.run := by
  cases op with
  | rand =>
    unfold runFloat? FloatOp.run
    apply producing?_eq
    intro _ m
    rw [sampleFloat?_eq]
    rfl
  | add | sub | mul | div | mod | min | max | abs | neg | sin | cos | tan | exp | ln | less
  | greater | fromInteger | fromBoolean => rfl

theorem addSize?_eq {a b : Nat} (h : a + b < 2 ^ 64) : addSize? a b = some (a + b) := if_pos h

theorem pushRandomCode?_eq (m : Machine χ) : pushRandomCode? m = some (pushRandomCode m) := by
  unfold pushRandomCode? pushRandomCode
  rcases m.activeGenerators with _ | ⟨g, generators⟩
  · rfl
  rcases m.take .integer false with ⟨_ | requested, m₁⟩
  · rfl
  · dsimp only
    -- The magnitude is at most `2 ^ 63`, far enough below `2 ^ 64` for the two that are added.
    have hlow := Int64.le_toInt requested
    have hhigh := Int64.toInt_lt requested
    generalize hlimit : min requested.toInt.natAbs m₁.config.maxRandomSize = limit
    by_cases hpos : 0 < limit
    · have hlt := Random.Source.draw_lt hpos m₁.source
      rw [if_pos hpos, if_pos hpos, draw?_eq hpos]
      simp only [Option.bind_eq_bind, Option.bind_some]
      rw [addSize?_eq (by omega)]
      simp only [Option.bind_some, code?_eq, Machine.withSource, Machine.randomCode]
      split <;> rename_i hcode <;> rw [hcode]
    · rw [if_neg hpos, if_neg hpos]
      simp only [Option.bind_eq_bind, Option.bind_some, code?_eq, Machine.withSource,
        Machine.randomCode]
      split <;> rename_i hcode <;> rw [hcode]

theorem execK?_eq (m : Machine χ) : execK? m = some (execK m) := by
  unfold execK? execK
  rcases hstack : m.stack .exec with ⟨_ | ⟨a, _ | ⟨b, rest⟩⟩⟩
  · rfl
  · rfl
  · rw [swap?_eq, if_pos (by simp [Stack.size])]
    rfl

theorem ofInt?_eq {n : Int} (hlow : -2 ^ 63 ≤ n) (hhigh : n < 2 ^ 63) :
    ofInt? n = some (Int64.ofInt n) := by
  apply if_pos
  change -2 ^ 63 ≤ n ∧ n ≤ 2 ^ 63 - 1
  omega

/-- The step toward the end of a range stays between its ends. -/
theorem ofInt?_toward {start stop : Int64} (h : start ≠ stop) :
    ofInt? (if start < stop then start.toInt + 1 else start.toInt - 1) =
      some (if start < stop then start + 1 else start - 1) := by
  have hlow := Int64.le_toInt stop
  have hhigh := Int64.toInt_lt stop
  have hlow' := Int64.le_toInt start
  have hhigh' := Int64.toInt_lt start
  have hne : start.toInt ≠ stop.toInt := fun heq => h (Int64.toInt_inj.mp heq)
  split
  · rename_i hlt
    rw [Int64.lt_iff_toInt_lt] at hlt
    rw [ofInt?_eq (by omega) (by omega), Int64.ofInt_add, Int64.ofInt_toInt]
    rfl
  · rename_i hlt
    rw [Int64.lt_iff_toInt_lt] at hlt
    rw [ofInt?_eq (by omega) (by omega), Int64.ofInt_sub, Int64.ofInt_toInt]
    rfl

theorem doRange?_eq (d : Domain) (m : Machine χ) : doRange? d m = some (doRange d m) := by
  unfold doRange? doRange
  rcases (m.body d).down with _ | ⟨code, rest⟩
  · rfl
  rcases (m.stack .integer).down with _ | ⟨stop, _ | ⟨start, others⟩⟩
  · rfl
  · rfl
  · dsimp only
    by_cases heq : start = stop
    · rw [if_pos heq, if_pos heq]
    · rw [if_neg heq, if_neg heq, ofInt?_toward heq]
      exact (apply_ite some _ _ _).symm

theorem doCounted?_eq (d : Domain) (wrap : Atom → Atom) (m : Machine χ) :
    doCounted? d wrap m = some (doCounted d wrap m) := by
  unfold doCounted? doCounted
  rcases (m.body d).down with _ | ⟨code, rest⟩
  · rfl
  rcases (m.stack .integer).down with _ | ⟨count, others⟩
  · rfl
  · dsimp only
    by_cases hpos : 0 < count
    · have hhigh := Int64.toInt_lt count
      have hcount : 0 < count.toInt := Int64.lt_iff_toInt_lt.mp hpos
      have hlast : ofInt? (count.toInt - 1) = some (count - 1) := by
        rw [ofInt?_eq (by omega) (by omega), Int64.ofInt_sub, Int64.ofInt_toInt]
        rfl
      rw [if_pos hpos, hlast]
      simp only [hpos, true_and]
      exact (apply_ite some _ _ _).symm
    · rw [if_neg hpos, if_neg fun h => hpos h.1]

theorem applyLoop?_eq (d : Domain) (op : LoopOp) (m : Machine χ) :
    applyLoop? d op m = some (op.apply d m) := by
  cases op with
  | range => exact doRange?_eq d m
  | count => exact doCounted?_eq d _ m
  | times => exact doCounted?_eq d _ m

theorem input_take (m : Machine χ) :
    (m.take .integer false).2.stack .input = m.stack .input := by
  unfold Machine.take
  split
  · rfl
  · exact Machine.stack_setStack_of_ne m (by decide) _

variable [Host χ]

theorem inputAtIndex?_eq (m : Machine χ) : inputAtIndex? m = some (inputAtIndex m) := by
  unfold inputAtIndex? inputAtIndex
  split
  · rfl
  · rename_i hempty
    have hsize : (m.stack .input).size ≠ 0 := fun h =>
      hempty (List.isEmpty_iff_length_eq_zero.mpr h)
    have hinput := input_take m
    rcases htake : m.take .integer false with ⟨_ | n, m₁⟩
    · rfl
    · rw [htake] at hinput
      dsimp only at hinput ⊢
      rw [hinput, sub?_eq (by omega)]
      rfl

theorem runBuiltin?_eq (b : Builtin) : (runBuiltin? b : Effect χ) = lift b.run := by
  cases b with
  | stack k op =>
    funext m
    simp only [runBuiltin?, applyStack?_eq]
    rfl
  | index k op =>
    unfold runBuiltin? Builtin.run IndexOp.run
    apply action?_eq
    rintro ⟨n, _⟩ m
    dsimp only
    rw [applyIndex?_eq]
    rfl
  | integer op => exact runInteger?_eq op
  | float op => exact runFloat?_eq op
  | code op =>
    cases op with
    | rand =>
      unfold runBuiltin? Builtin.run CodeOp.run
      apply action?_eq
      intro _ m
      exact pushRandomCode?_eq m
    | quote | fromBoolean | fromInteger | fromFloat | noop => rfl
  | exec op =>
    cases op with
    | k =>
      funext m
      simp only [runBuiltin?, execK?_eq]
      rfl
    | s | y | noop => rfl
  | loop d op =>
    funext m
    simp only [runBuiltin?, applyLoop?_eq]
    rfl
  | input op =>
    cases op with
    | index =>
      funext m
      simp only [runBuiltin?, inputAtIndex?_eq]
      rfl
    | inAll | inAllRev => rfl
  | depth k | equal k | define k | boolean op | nameQuote | branch d => rfl

def runOperation? : Operation χ → Effect χ
  | .builtin b => runBuiltin? b
  | op => lift op.run

def invoke? (h : Handle) : Effect χ := fun m =>
  match m.operations[h.serial]? with
  | some op => runOperation? op m
  | none => some (m, .ok ())

def resolve? (name : String) : Effect χ := fun m =>
  match m.bindings[name]? with
  | some c => some (m.push c.kind c.value, .ok ())
  | none =>
    match m.instructions[name]? with
    | some h => invoke? h m
    | none => some (m.push .name name, .ok ())

def dispatch? : Atom → Effect χ
  | .name s => resolve? s
  | .instruction h => invoke? h
  | a => lift (Machine.dispatch a)

def stepsFrom? (done : Nat) : Nat → Machine χ → Option (Machine χ × Except Failure Nat)
  | 0, m => some (m, .ok done)
  | budget + 1, m =>
    match m.next? with
    | none => some (m, .ok done)
    | some (a, m) => do
      match ← dispatch? a m with
      | (m, .ok ()) => stepsFrom? (done + 1) budget m
      | (m, .error e) => some (m, .error e)

def step? (m : Machine χ) (budget : Nat) : Option (Machine χ × Except Failure Nat) :=
  stepsFrom? 0 budget m

def execute? (m : Machine χ) (p : Program) (budget : Nat) :
    Option (Machine χ × Except Failure Nat) := step? (m.loadProgram p) budget

theorem runOperation?_eq (op : Operation χ) : runOperation? op = lift op.run := by
  cases op with
  | builtin b => exact runBuiltin?_eq b
  | input index | constant c | host x => rfl

theorem invoke?_eq (h : Handle) : (invoke? h : Effect χ) = lift (Machine.invoke h) := by
  funext m
  unfold invoke? lift Machine.invoke
  cases m.operations[h.serial]? with
  | none => rfl
  | some op =>
    simp only [runOperation?_eq]
    rfl

theorem resolve?_eq (name : String) : (resolve? name : Effect χ) = lift (Machine.resolve name) := by
  funext m
  unfold resolve? lift Machine.resolve
  cases m.bindings[name]? with
  | some c => rfl
  | none =>
    cases m.instructions[name]? with
    | none => rfl
    | some h =>
      simp only [invoke?_eq]
      rfl

theorem dispatch?_eq (a : Atom) : (dispatch? a : Effect χ) = lift (Machine.dispatch a) := by
  cases a with
  | name s => exact resolve?_eq s
  | instruction h => exact invoke?_eq h
  | program children | integer n | float x | boolean b => rfl

theorem stepsFrom?_eq (done budget : Nat) (m : Machine χ) :
    stepsFrom? done budget m = some (m.stepsFrom done budget) := by
  -- Both machines carry out the same atom, so they go on from the same machine.
  induction budget generalizing done m with
  | zero => rfl
  | succ budget ih =>
    unfold stepsFrom? Machine.stepsFrom
    rcases m.next? with _ | ⟨a, m₁⟩
    · rfl
    · simp only [dispatch?_eq, lift, Option.bind_eq_bind, Option.bind_some]
      rcases Machine.dispatch a m₁ with ⟨m₂, e | _⟩
      · rfl
      · exact ih _ _

theorem step?_eq (m : Machine χ) (budget : Nat) : step? m budget = some (m.step budget) :=
  stepsFrom?_eq 0 budget m

end PushLang.Guarded
