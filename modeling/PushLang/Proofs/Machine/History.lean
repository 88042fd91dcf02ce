import PushLang.Machine.Active
import PushLang.Proofs.Machine.Meaning
import PushLang.Scripted

namespace PushLang

variable {χ : Type}

/-- An operation on the tables, or work that changes all but the tables to what they are in `w`. -/
inductive Edit (χ : Type) where
  | define (name : String) (op : Operation χ)
  | load
  | set (patterns : List String)
  | add (patterns : List String)
  | remove (patterns : List String)
  | list (entries : Program)
  | work (w : Machine χ)

namespace Machine

def tables (m : Machine χ) : Machine χ :=
  { m with
    contents := {}
    bindings := ∅
    source := .script []
    pusher := .routing
    evaluations := 0
    config := {}
    journal := [] }

def withTablesOf (w m : Machine χ) : Machine χ :=
  { w with
    operations := m.operations
    instructions := m.instructions
    generators := m.generators
    available := m.available
    active := m.active }

theorem withTablesOf_eq {w m : Machine χ} (h : w.tables = m.tables) : w.withTablesOf m = w := by
  have hself : w.withTablesOf m.tables = w := by
    rw [← h]
    rfl
  exact hself

theorem tables_of_setup {m m' : Machine χ} (h : m'.setup = m.setup) :
    m'.tables = m.tables := by
  have ht := congrArg tables h
  exact ht

theorem tables_next? {m m' : Machine χ} {a : Atom} (h : m.next? = some (a, m')) :
    m'.tables = m.tables := by
  obtain ⟨E, -, rfl⟩ := exists_of_next? h
  rfl

theorem tables_take (m : Machine χ) (k : Kind) (peek : Bool) :
    (m.take k peek).2.tables = m.tables := by
  unfold take
  split
  · rfl
  · cases peek <;> rfl

theorem tables_takeAll (m : Machine χ) (peek : Bool) (ks : List Kind) :
    (m.takeAll peek ks).2.tables = m.tables := by
  apply takeAll_induction (P := fun m' => m'.tables = m.tables)
  · exact fun m' k h => (m'.tables_take k peek).trans h
  · rfl

theorem tables_push? (m : Machine χ) (k : Kind) (v : Option k.Item) :
    (m.push? k v).tables = m.tables := by
  cases v <;> rfl

end Machine

open Machine

variable [Host χ]

def Edit.apply : Edit χ → Effect χ
  | .define name op => .always fun m => m.define name op
  | .load => .always Machine.load
  | .set patterns => setInstructions patterns
  | .add patterns => addInstructions patterns
  | .remove patterns => removeInstructions patterns
  | .list entries => setInstructionList entries
  | .work w => .always fun m => w.withTablesOf m

namespace Machine

/-- The machine after some edits, failing ones included. -/
def after (m : Machine χ) (es : List (Edit χ)) : Machine χ := es.foldl (fun m e => (e.apply m).1) m

@[simp] theorem after_nil (m : Machine χ) : m.after [] = m := rfl

@[simp] theorem after_cons (m : Machine χ) (e : Edit χ) (es : List (Edit χ)) :
    m.after (e :: es) = (e.apply m).1.after es := rfl

theorem after_append (m : Machine χ) (es fs : List (Edit χ)) :
    m.after (es ++ fs) = (m.after es).after fs := List.foldl_append

theorem after_work {m w : Machine χ} (h : w.tables = m.tables) (es : List (Edit χ)) :
    m.after (.work w :: es) = w.after es := by
  rw [after_cons, Edit.apply, Effect.always, withTablesOf_eq h]

theorem after_induction {P : Machine χ → Prop} (apply : ∀ (e : Edit χ) m, P m → P (e.apply m).1)
    {m : Machine χ} (h : P m) (es : List (Edit χ)) : P (m.after es) := by
  induction es generalizing m with
  | nil => exact h
  | cons e es ih => exact ih (apply e m h)

end Machine

/-- The edits of which each call of a host instruction or pusher consists. The host gets hold of a
machine only to edit it. -/
structure Host.Account (χ : Type) [Host χ] where
  edits : χ → Machine χ → List (Edit χ)
  call_eq : ∀ x m, (Host.call x m).1 = m.after (edits x m)
  inputEdits : χ → Nat → Machine χ → List (Edit χ)
  input_eq : ∀ x index m, Host.input x index m = m.after (inputEdits x index m)

/-- What an embedding program asks of a machine: an edit, to clear the stacks, other settings, or to
run a program or the pending code for some steps. -/
inductive Request (χ : Type) where
  | edit (e : Edit χ)
  | clear
  | configure (config : Config)
  | run (p : Program) (budget : Nat)
  | resume (budget : Nat)

def Request.perform : Request χ → Machine χ → Machine χ
  | .edit e, m => (e.apply m).1
  | .clear, m => m.clearStacks
  | .configure config, m => { m with config }
  | .run p budget, m => (m.execute p budget).1
  | .resume budget, m => (m.step budget).1

/-- The machine after some requests. -/
def Machine.served (m : Machine χ) (rs : List (Request χ)) : Machine χ :=
  rs.foldl (fun m r => r.perform m) m

theorem Machine.tables_pushInput {m : Machine χ} (h : m.OwnsPusher) (index : Nat) :
    (m.pushInput index).tables = m.tables := tables_of_setup (m.setup_pushInput h index)

namespace Host.Account

variable (account : Host.Account χ)

def pushInputEdits (index : Nat) (m : Machine χ) : List (Edit χ) :=
  match m.pusher with
  | .host x => account.inputEdits x index m
  | _ => [.work (m.pushInput index)]

def inputsEdits : List Nat → Machine χ → List (Edit χ)
  | [], _ => []
  | i :: rest, m => account.pushInputEdits i m ++ inputsEdits rest (m.pushInput i)

def inputOpEdits (op : InputOp) (m : Machine χ) : List (Edit χ) :=
  match op with
  | .index =>
    if (m.stack .input).isEmpty then []
    else
      match m.take .integer false with
      | (none, m) => [.work m]
      | (some n, m) =>
        .work m :: account.pushInputEdits (min n.toInt.toNat ((m.stack .input).size - 1)) m
  | .inAll => account.inputsEdits (List.range (m.stack .input).size) m
  | .inAllRev => account.inputsEdits (List.range (m.stack .input).size).reverse m

def operationEdits (op : Operation χ) (m : Machine χ) : List (Edit χ) :=
  match op with
  | .host x => account.edits x m
  | .input index => account.pushInputEdits index m
  | .builtin (.input op) => account.inputOpEdits op m
  | op => [.work (op.run m).1]

def dispatchEdits (a : Atom) (m : Machine χ) : List (Edit χ) :=
  match m.meaning? a with
  | some op => account.operationEdits op m
  | none => [.work (dispatch a m).1]

def stepEdits : Nat → Machine χ → List (Edit χ)
  | 0, _ => []
  | budget + 1, m =>
    match m.next? with
    | none => []
    | some (a, m) =>
      .work m :: (account.dispatchEdits a m ++
        match dispatch a m with
        | (m, .ok ()) => stepEdits budget m
        | (_, .error _) => [])

def requestEdits (m : Machine χ) : Request χ → List (Edit χ)
  | .edit e => [e]
  | .clear => [.work m.clearStacks]
  | .configure config => [.work { m with config }]
  | .run p budget => .work (m.loadProgram p) :: account.stepEdits budget (m.loadProgram p)
  | .resume budget => account.stepEdits budget m

/-- The edits in a row of requests. -/
def historyEdits : Machine χ → List (Request χ) → List (Edit χ)
  | _, [] => []
  | m, r :: rs => account.requestEdits m r ++ historyEdits (r.perform m) rs

theorem after_pushInputEdits (index : Nat) (m : Machine χ) :
    m.after (account.pushInputEdits index m) = m.pushInput index := by
  unfold pushInputEdits
  split
  · rename_i x hx
    rw [← account.input_eq, pushInput, hx]
  · rename_i hx
    rw [after_work (m.tables_pushInput hx index), after_nil]

theorem after_inputsEdits (indices : List Nat) (m : Machine χ) :
    m.after (account.inputsEdits indices m) = inputsAt indices m := by
  induction indices generalizing m with
  | nil => rfl
  | cons i rest ih => rw [inputsEdits, after_append, account.after_pushInputEdits, ih]; rfl

theorem after_inputOpEdits (op : InputOp) (m : Machine χ) :
    m.after (account.inputOpEdits op m) = op.apply m := by
  cases op with
  | inAll | inAllRev => exact account.after_inputsEdits _ m
  | index =>
    rw [inputOpEdits, InputOp.apply, inputAtIndex]
    split
    · rfl
    · have htaken := m.tables_take .integer false
      rcases htake : m.take .integer false with ⟨_ | n, m'⟩ <;> rw [htake] at htaken
      · rw [after_work htaken, after_nil]
      · rw [after_work htaken, account.after_pushInputEdits]

theorem after_operationEdits (op : Operation χ) (m : Machine χ) :
    m.after (account.operationEdits op m) = (op.run m).1 := by
  unfold operationEdits
  split
  · rw [Operation.run, account.call_eq]
  · exact account.after_pushInputEdits _ m
  · exact account.after_inputOpEdits _ m
  · rename_i hhost hinput hbuiltin
    have htables : (op.run m).1.tables = m.tables := by
      cases op with
      | builtin b =>
        have hasks : b.AsksNoHost m := fun op hb => (hbuiltin op (hb ▸ rfl)).elim
        exact tables_of_setup (Builtin.setup_run hasks).2
      | input index => exact absurd rfl (hinput index)
      | constant c => rfl
      | host x => exact absurd rfl (hhost x)
    rw [after_work htables, after_nil]

theorem after_dispatchEdits (a : Atom) (m : Machine χ) :
    m.after (account.dispatchEdits a m) = (dispatch a m).1 := by
  unfold dispatchEdits
  split
  · rename_i op hop
    rw [dispatch_of_meaning? hop, account.after_operationEdits]
  · rename_i hnone
    rcases dispatch_of_meaning?_none hnone with ⟨p, rfl⟩ | hdispatch
    · exact after_work rfl []
    · rw [hdispatch]
      exact after_work rfl []

theorem after_stepEdits (budget done : Nat) (m : Machine χ) :
    m.after (account.stepEdits budget m) = (stepsFrom done budget m).1 := by
  induction budget generalizing done m with
  | zero => rfl
  | succ budget ih =>
    rw [stepEdits, stepsFrom]
    rcases hnext : m.next? with _ | ⟨a, m₁⟩
    · rfl
    · dsimp only
      rw [after_work (tables_next? hnext), after_append, account.after_dispatchEdits]
      rcases dispatch a m₁ with ⟨m₂, e | _⟩
      · rfl
      · exact ih (done + 1) m₂

theorem after_requestEdits (m : Machine χ) (r : Request χ) :
    m.after (account.requestEdits m r) = r.perform m := by
  cases r with
  | edit e => rfl
  | clear | configure config => exact after_work rfl []
  | run p budget =>
    have hloaded : (m.loadProgram p).tables = m.tables := rfl
    rw [requestEdits, after_work hloaded, account.after_stepEdits budget 0]
    rfl
  | resume budget => exact account.after_stepEdits budget 0 m

/-- A history is the row of its edits. -/
theorem after_historyEdits (m : Machine χ) (rs : List (Request χ)) :
    m.after (account.historyEdits m rs) = m.served rs := by
  induction rs generalizing m with
  | nil => rfl
  | cons r rs ih => rw [historyEdits, after_append, account.after_requestEdits, ih]; rfl

theorem served_induction (account : Host.Account χ) {P : Machine χ → Prop}
    (apply : ∀ (e : Edit χ) m, P m → P (e.apply m).1) {m : Machine χ} (h : P m)
    (rs : List (Request χ)) : P (m.served rs) := by
  rw [← account.after_historyEdits]
  exact after_induction apply h _

end Host.Account

namespace Scripted

theorem tables_perform (name : String) (ks : List Kind) (operands : Operands ks)
    (pushes : List Constant) (m : Machine Scripted) :
    (perform name ks operands pushes m).tables = m.tables := by
  have hpushes : ∀ (pushes : List Constant) (m : Machine Scripted),
      (pushes.foldl (fun m c => m.push c.kind c.value) m).tables = m.tables := by
    intro pushes
    induction pushes with
    | nil => exact fun m => rfl
    | cons c pushes ih => exact fun m => ih _
  exact hpushes pushes _

theorem tables_call (x : Scripted) (m : Machine Scripted) :
    (Host.call x m).1.tables = m.tables := by
  cases x with
  | acting name ks peek pushes result =>
    have htaken := m.tables_takeAll peek ks
    simp only [Host.call, action]
    rcases htake : m.takeAll peek ks with ⟨_ | operands, m₁⟩ <;> rw [htake] at htaken
    · exact htaken
    · have hperform := (tables_perform name ks operands pushes m₁).trans htaken
      rcases result with fault | _ <;> exact hperform
  | producing name ks peek pushes out result =>
    have htaken := m.tables_takeAll peek ks
    simp only [Host.call, PushLang.producing]
    rcases htake : m.takeAll peek ks with ⟨_ | operands, m₁⟩ <;> rw [htake] at htaken
    · exact htaken
    · exact ((tables_push? _ out _).trans (tables_perform name ks operands pushes m₁)).trans htaken

theorem tables_supply (x : Scripted) (m : Machine Scripted) : (x.supply m).tables = m.tables := by
  cases x with
  | acting name ks peek pushes result => exact tables_perform name [] () pushes m
  | producing name ks peek pushes out result => exact tables_perform name [] () pushes m

/-- Scripted instructions and pushers leave the tables alone. -/
def account : Host.Account Scripted where
  edits x m := [.work (Host.call x m).1]
  call_eq x m := (after_work (tables_call x m) []).symm
  inputEdits x _ m := [.work (x.supply m)]
  input_eq x _ m := (after_work (tables_supply x m) []).symm

end Scripted

end PushLang
