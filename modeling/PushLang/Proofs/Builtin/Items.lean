import PushLang.Proofs.Builtin.Control

namespace PushLang

variable {χ : Type}

namespace Machine

/-- The number of items on all stacks. -/
def items (m : Machine χ) : Nat := (Kind.all.map fun k => (m.stack k).size).sum

theorem items_setStack (m : Machine χ) (k : Kind) (s : Stack k.Item) :
    (m.setStack k s).items + (m.stack k).size = m.items + s.size := by
  cases k <;>
    simp only [items, Kind.all, List.map_cons, List.map_nil, List.sum_cons, List.sum_nil, setStack,
      stack, Stacks.set, Stacks.get] <;>
    omega

theorem items_setStack_le (m : Machine χ) {k : Kind} {s : Stack k.Item} {c : Nat}
    (h : s.size ≤ (m.stack k).size + c) : (m.setStack k s).items ≤ m.items + c := by
  have hitems := m.items_setStack k s
  omega

theorem items_replace_le (m : Machine χ) {k : Kind} {old new : List k.Item}
    (h : (m.stack k).down = old) (hlength : new.length ≤ old.length + 1) :
    (m.setStack k ⟨new⟩).items ≤ m.items + 1 := by
  refine m.items_setStack_le ?_
  rw [Stack.size, Stack.size, h]
  exact hlength

@[simp] theorem items_push (m : Machine χ) (k : Kind) (v : k.Item) :
    (m.push k v).items = m.items + 1 := by
  have hitems := m.items_setStack k ((m.stack k).push v)
  have hsize : ((m.stack k).push v).size = (m.stack k).size + 1 := rfl
  rw [push]
  omega

theorem items_drop (m : Machine χ) {k : Kind} {v : k.Item} {rest : List k.Item}
    (h : (m.stack k).down = v :: rest) : (m.drop k).items + 1 = m.items := by
  have hitems := m.items_setStack k (m.stack k).pop
  simp only [Stack.size, Stack.pop, h, List.tail_cons, List.length_cons] at hitems
  simp only [drop, Stack.pop, h, List.tail_cons]
  omega

theorem items_drop_push (m : Machine χ) {k l : Kind} {v : k.Item} {rest : List k.Item}
    (h : (m.stack k).down = v :: rest) (w : l.Item) : ((m.drop k).push l w).items = m.items := by
  rw [items_push, m.items_drop h]

theorem items_drop_le (m : Machine χ) (k : Kind) : (m.drop k).items ≤ m.items := by
  apply m.items_setStack_le (c := 0)
  simp [Stack.size, Stack.pop]

theorem items_take_le (m : Machine χ) (k : Kind) (peek : Bool) :
    (m.take k peek).2.items ≤ m.items := by
  unfold take
  split
  · exact Nat.le_refl _
  · cases peek with
    | false => exact m.items_drop_le k
    | true => exact Nat.le_refl _

theorem items_takeAll_le (m : Machine χ) (peek : Bool) (ks : List Kind) :
    (m.takeAll peek ks).2.items ≤ m.items := by
  apply takeAll_induction (P := fun m' => m'.items ≤ m.items)
  · exact fun m' k h => (m'.items_take_le k peek).trans h
  · exact Nat.le_refl _

theorem items_setBody (m : Machine χ) (s : Stack Atom) (d : Domain) :
    (m.setBody s d).items + (m.body d).size = m.items + s.size := by
  cases d with
  | code => exact m.items_setStack .code s
  | exec => exact m.items_setStack .exec s

theorem items_drop_setBody (m : Machine χ) {k : Kind} {d : Domain} (hk : k ≠ d.kind) {v : k.Item}
    {tail : List k.Item} (h : (m.stack k).down = v :: tail) (s : Stack Atom) :
    ((m.drop k).setBody s d).items + (m.body d).size + 1 = m.items + s.size := by
  have hbody : (m.drop k).body d = m.body d := by
    cases d with
    | code => exact stack_setStack_of_ne m hk.symm _
    | exec => exact stack_setStack_of_ne m hk.symm _
  have hdrop := m.items_drop h
  have hset := (m.drop k).items_setBody s d
  rw [hbody] at hset
  omega

end Machine

def Effect.AddsOne (e : Effect χ) : Prop := ∀ m, (e m).1.items ≤ m.items + 1

theorem addsOne_action {ks : List Kind} (peek : Bool) {f : Callback χ ks Unit}
    (hf : ∀ operands m, (f operands m).1.items ≤ m.items + 1) : (action ks peek f).AddsOne := by
  intro m
  have htake := m.items_takeAll_le peek ks
  unfold action
  rcases htaken : m.takeAll peek ks with ⟨_ | operands, m₁⟩
  · rw [htaken] at htake
    exact Nat.le_succ_of_le htake
  · have hcall := hf operands m₁
    rw [htaken] at htake
    dsimp only
    rcases hresult : f operands m₁ with ⟨m₂, fault | _⟩
    · rw [hresult] at hcall
      exact hcall.trans (Nat.succ_le_succ htake)
    · rw [hresult] at hcall
      exact hcall.trans (Nat.succ_le_succ htake)

theorem addsOne_producing {ks : List Kind} (out : Kind) (peek : Bool) {f : Callback χ ks out.Item}
    (hf : ∀ operands m, (f operands m).1.items = m.items) : (producing ks out peek f).AddsOne := by
  intro m
  have htake := m.items_takeAll_le peek ks
  unfold producing
  rcases htaken : m.takeAll peek ks with ⟨_ | operands, m₁⟩
  · rw [htaken] at htake
    exact Nat.le_succ_of_le htake
  · have hcall := hf operands m₁
    rw [htaken] at htake
    dsimp only at htake ⊢
    rcases resultOf out (f operands m₁).2 with _ | v
    · simp only [Machine.push?]
      omega
    · simp only [Machine.push?, Machine.items_push]
      omega

theorem addsOne_calculating {ks : List Kind} (out : Kind) {f : Operands ks → Except Fault out.Item} :
    (calculating ks out f : Effect χ).AddsOne := addsOne_producing out false fun _ _ => rfl

theorem StackOp.addsOne (k : Kind) (op : StackOp) : (op.run k : Effect χ).AddsOne :=
  fun m => m.items_setStack_le (op.rearranged _).size_le

theorem IndexOp.addsOne (k : Kind) (op : IndexOp) : (op.run k : Effect χ).AddsOne :=
  addsOne_action false fun _ m => m.items_setStack_le (op.rearranged _ _).size_le

theorem addsOne_comparePair (k : Kind) : (comparePair k : Effect χ).AddsOne := by
  intro m
  simp only [comparePair, Effect.always]
  split
  · rename_i a b rest hdown
    have hitems := m.items_setStack k ⟨rest⟩
    simp only [Stack.size, hdown, List.length_cons] at hitems
    rw [Machine.items_push]
    omega
  · exact Nat.le_succ _

theorem addsOne_compareTop (k : Kind) : (compareTop k : Effect χ).AddsOne := by
  cases k with
  | code | exec => exact addsOne_comparePair _
  | integer | float | boolean | name | input => exact addsOne_calculating .boolean

theorem addsOne_bindTop (k : Kind) : (bindTop k : Effect χ).AddsOne := by
  intro m
  have hitems : (bindTop k m).1.items ≤ m.items :=
    bindTop_induction (P := fun m' => m'.items ≤ m.items)
      (fun m' l h => (m'.items_take_le l false).trans h) (fun _ _ _ h => h) (Nat.le_refl _)
  exact Nat.le_succ_of_le hitems

theorem IntegerOp.addsOne (op : IntegerOp) : (op.run : Effect χ).AddsOne := by
  cases op with
  | add | sub | mul | div | mod | min | max | abs | neg | less | greater | fromFloat
  | fromBoolean => exact addsOne_calculating _
  | rand => exact addsOne_producing .integer false fun _ _ => rfl

theorem FloatOp.addsOne (op : FloatOp) : (op.run : Effect χ).AddsOne := by
  cases op with
  | add | sub | mul | div | mod | min | max | abs | neg | sin | cos | tan | exp | ln | less
  | greater | fromInteger | fromBoolean => exact addsOne_calculating _
  | rand => exact addsOne_producing .float false fun _ _ => rfl

theorem BooleanOp.addsOne (op : BooleanOp) : (op.run : Effect χ).AddsOne := by
  cases op with
  | literal b => exact fun m => (m.items_push .boolean b).le
  | not | and | or | xor | fromInteger | fromFloat => exact addsOne_calculating _
  | rand => exact addsOne_producing .boolean false fun _ _ => rfl

theorem addsOne_quoteName : (Effect.always quoteName : Effect χ).AddsOne := by
  intro m
  simp only [Effect.always, quoteName]
  split
  · rename_i s rest hdown
    exact (m.items_drop_push hdown _).le.trans (Nat.le_succ _)
  · exact Nat.le_succ _

theorem addsOne_quoteCode : (Effect.always quoteCode : Effect χ).AddsOne := by
  intro m
  simp only [Effect.always, quoteCode]
  split
  · rename_i a rest hdown
    exact (m.items_drop_push hdown _).le.trans (Nat.le_succ _)
  · exact Nat.le_succ _

theorem addsOne_chooseBranch (d : Domain) : (Effect.always (chooseBranch d) : Effect χ).AddsOne := by
  intro m
  simp only [Effect.always, chooseBranch]
  split
  · rename_i condition conditions first second rest hboolean hbody
    have htaken := m.items_drop_setBody (d := d) (by cases d <;> decide) hboolean ⟨rest⟩
    simp only [Stack.size, hbody, List.length_cons] at htaken
    rw [Machine.items_push]
    omega
  · exact Nat.le_succ _

theorem ExecOp.addsOne (op : ExecOp) : (Effect.always op.apply : Effect χ).AddsOne := by
  intro m
  cases op with
  | noop => exact Nat.le_succ _
  | k =>
    simp only [Effect.always, apply, execK]
    split
    · rename_i a b rest hdown
      exact m.items_replace_le hdown (by simp)
    · exact Nat.le_succ _
  | s =>
    simp only [Effect.always, apply, execS]
    split
    · rename_i a b c rest hdown
      split
      · exact m.items_replace_le hdown (by simp)
      · exact Nat.le_succ _
    · exact Nat.le_succ _
  | y =>
    simp only [Effect.always, apply, execY]
    split
    · rename_i a rest hdown
      split
      · exact m.items_replace_le hdown (by simp)
      · exact Nat.le_succ _
    · exact Nat.le_succ _

theorem LoopOp.addsOne (d : Domain) (op : LoopOp) :
    (Effect.always (op.apply d) : Effect χ).AddsOne := by
  have hinteger : Kind.integer ≠ d.kind := by cases d <;> decide
  have hcounted : ∀ wrap m, (doCounted d wrap m : Machine χ).items ≤ m.items + 1 := by
    intro wrap m
    unfold doCounted
    split
    · rename_i code rest count counts hbody hcount
      have htaken := m.items_drop_setBody hinteger hcount ⟨rest⟩
      simp only [Stack.size, hbody, List.length_cons] at htaken
      dsimp only
      split
      · rw [Machine.items_push]
        omega
      · exact Nat.le_succ _
    · exact Nat.le_succ _
  intro m
  cases op with
  | count | times => exact hcounted _ m
  | range =>
    simp only [Effect.always, apply, doRange]
    split
    · rename_i code rest stop start bounds hbody hbounds
      have htaken := m.items_drop_setBody hinteger hbounds ⟨rest⟩
      simp only [Stack.size, hbody, List.length_cons] at htaken
      generalize rangeProgram d _ stop code = again
      split
      · rw [Machine.items_push]
        omega
      · split
        · rw [Machine.items_push, Machine.items_push]
          omega
        · exact Nat.le_succ _
    · exact Nat.le_succ _

theorem items_pushRandomCode_le (m : Machine χ) : (pushRandomCode m).1.items ≤ m.items + 1 := by
  have htake := m.items_take_le .integer false
  unfold pushRandomCode
  split
  · exact Nat.le_succ _
  · rename_i m₁ hnone _
    rw [hnone] at htake
    exact Nat.le_succ_of_le htake
  · rename_i requested m₁ hsome _
    rw [hsome] at htake
    obtain ⟨size, s, hsize, -⟩ :=
      drawnSize_le m₁ (min requested.toInt.natAbs m₁.config.maxRandomSize)
    simp only [hsize]
    have hcode : (({ m₁ with source := s } : Machine χ).randomCode size).2.items = m₁.items := rfl
    rcases hresult : ({ m₁ with source := s } : Machine χ).randomCode size with ⟨e | p, m₂⟩
    · rw [hresult] at hcode
      exact hcode.le.trans (Nat.le_succ_of_le htake)
    · rw [hresult] at hcode
      dsimp only at hcode htake ⊢
      rw [Machine.items_push]
      omega

theorem CodeOp.addsOne (op : CodeOp) : (op.run : Effect χ).AddsOne := by
  cases op with
  | quote => exact addsOne_quoteCode
  | fromBoolean | fromInteger | fromFloat => exact addsOne_calculating .code
  | noop => exact fun _ => Nat.le_succ _
  | rand => exact addsOne_action false fun _ m => items_pushRandomCode_le m

namespace Machine

theorem items_route (m : Machine χ) (a : Atom) : (m.route a).items = m.items + 1 := by
  cases a <;> exact items_push m _ _

theorem items_deliver_le (m : Machine χ) (a : Atom) : (m.deliver a).items ≤ m.items + 1 := by
  unfold deliver
  split
  · exact (m.items_route _).le
  · exact (m.items_push _ _).le
  · exact (m.items_push _ _).le
  · exact Nat.le_succ _

theorem items_copyInput_le (m : Machine χ) (index : Nat) :
    (m.copyInput index).items ≤ m.items + 1 := by
  unfold copyInput
  split
  · exact m.items_deliver_le _
  · exact Nat.le_succ _

variable [Host χ] {m : Machine χ}

theorem items_pushInput_le (h : m.OwnsPusher) (index : Nat) :
    (m.pushInput index).items ≤ m.items + 1 := by
  rw [pushInput_eq h]
  exact m.items_copyInput_le index

theorem items_inputsAt_le (h : m.OwnsPusher) (indices : List Nat) :
    (inputsAt indices m).items ≤ m.items + indices.length := by
  rw [inputsAt_eq h]
  clear h
  induction indices generalizing m with
  | nil => exact Nat.le_refl _
  | cons i rest ih =>
    have hcopied := m.items_copyInput_le i
    have hrest := ih (m := m.copyInput i)
    rw [List.foldl_cons, List.length_cons]
    omega

theorem items_inputAtIndex_le (h : m.OwnsPusher) : (inputAtIndex m).items ≤ m.items + 1 := by
  rw [inputAtIndex]
  split
  · exact Nat.le_succ _
  · have htake := m.items_take_le .integer false
    have howns : (m.take .integer false).2.OwnsPusher := by rwa [OwnsPusher, m.pusher_take]
    rcases hresult : m.take .integer false with ⟨_ | n, m₁⟩
    · rw [hresult] at htake
      exact Nat.le_succ_of_le htake
    · rw [hresult] at htake howns
      exact (items_pushInput_le howns _).trans (Nat.succ_le_succ htake)

end Machine

/-- An instruction adds one item at most, or one for each input. -/
theorem Builtin.items_run_le [Host χ] (b : Builtin) {m : Machine χ} (h : m.OwnsPusher) :
    (b.run m).1.items ≤ m.items + max 1 (m.stack .input).size := by
  have hone : ∀ e : Effect χ, e.AddsOne → (e m).1.items ≤ m.items + max 1 (m.stack .input).size :=
    fun e he => (he m).trans (by omega)
  cases b with
  | stack k op => exact hone _ (op.addsOne k)
  | index k op => exact hone _ (op.addsOne k)
  | depth k => exact hone _ (addsOne_producing .integer false fun _ _ => rfl)
  | equal k => exact hone _ (addsOne_compareTop k)
  | define k => exact hone _ (addsOne_bindTop k)
  | integer op => exact hone _ op.addsOne
  | float op => exact hone _ op.addsOne
  | boolean op => exact hone _ op.addsOne
  | nameQuote => exact hone _ addsOne_quoteName
  | code op => exact hone _ op.addsOne
  | exec op => exact hone _ op.addsOne
  | branch d => exact hone _ (addsOne_chooseBranch d)
  | loop d op => exact hone _ (op.addsOne d)
  | input op =>
    cases op with
    | index => exact (Machine.items_inputAtIndex_le h).trans (by omega)
    | inAll =>
      have hall := Machine.items_inputsAt_le h (List.range (m.stack .input).size)
      rw [List.length_range] at hall
      exact hall.trans (by omega)
    | inAllRev =>
      have hall := Machine.items_inputsAt_le h (List.range (m.stack .input).size).reverse
      rw [List.length_reverse, List.length_range] at hall
      exact hall.trans (by omega)

end PushLang
