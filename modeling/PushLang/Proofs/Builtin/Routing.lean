import PushLang.Proofs.Builtin.Exchange
import PushLang.Proofs.Builtin.Items

namespace PushLang

variable {χ : Type}

/-- The item that an atom is on the stack of a kind, if it is routed to that stack. -/
def Atom.onto? : (k : Kind) → Atom → Option k.Item
  | .integer, .integer n => some n
  | .float, .float x => some x
  | .boolean, .boolean b => some b
  | .name, .name s => some s
  | .code, .instruction h => some (.instruction h)
  | .code, .program p => some (.program p)
  | _, _ => none

/-- The stacks with these atoms on top, the last one topmost: the items of a kind on the stack of
their kind, programs and instructions on that of the code. -/
def Stacks.receiving (s : Stacks) (atoms : List Atom) : Stacks where
  integer := .ofList (s.integer.toList ++ atoms.filterMap (Atom.onto? .integer))
  float := .ofList (s.float.toList ++ atoms.filterMap (Atom.onto? .float))
  boolean := .ofList (s.boolean.toList ++ atoms.filterMap (Atom.onto? .boolean))
  name := .ofList (s.name.toList ++ atoms.filterMap (Atom.onto? .name))
  code := .ofList (s.code.toList ++ atoms.filterMap (Atom.onto? .code))
  exec := s.exec
  input := s.input

/-- Each item has a position that fits an integer, as on any stack that fits in memory. -/
def Stack.Indexable {α : Type} (s : Stack α) : Prop := s.size ≤ 2 ^ 63

namespace Machine

def receiving (m : Machine χ) (atoms : List Atom) : Machine χ :=
  { m with contents := m.contents.receiving atoms }

def reverseInputs (m : Machine χ) : Machine χ :=
  m.setStack .input (.ofList (m.stack .input).toList.reverse)

end Machine

namespace Stack

variable {α : Type}

theorem filterMap_range (s : Stack α) :
    ((List.range s.size).filterMap fun i => s.toList[i]?) = s.toList := by
  rw [← s.length_toList]
  induction s.toList with
  | nil => rfl
  | cons a items ih =>
    rw [List.length_cons, List.range_succ_eq_map, List.filterMap_cons_some List.getElem?_cons_zero,
      List.filterMap_map]
    exact congrArg (a :: ·) ih

end Stack

namespace Atom

theorem onto?_self (a : Atom) : a.onto? a.routed.kind = some a.routed.value := by
  cases a <;> rfl

theorem onto?_of_ne {a : Atom} {k : Kind} (h : k ≠ a.routed.kind) : a.onto? k = none := by
  cases a <;> cases k <;> first | rfl | exact absurd rfl h

theorem toAtom_routed (a : Atom) : a.routed.kind.element.toAtom a.routed.value = a := by
  cases a <;> rfl

/-- Each atom is an item on one stack, where those of one kind keep their order. -/
theorem perm_onto? (atoms : List Atom) :
    atoms.Perm (Kind.all.flatMap fun k => (atoms.filterMap (onto? k)).map k.element.toAtom) := by
  induction atoms with
  | nil => rfl
  | cons a atoms ih =>
    -- The stack of the first atom is passed once, and the others get nothing from it.
    have hmem : a.routed.kind ∈ Kind.all := by cases a.routed.kind <;> decide
    obtain ⟨before, after, hsplit⟩ := List.append_of_mem hmem
    have hnodup : (before ++ a.routed.kind :: after).Nodup := hsplit ▸ (by decide)
    obtain ⟨-, hafter, hbefore⟩ := List.nodup_append.mp hnodup
    have hself : ((a :: atoms).filterMap (onto? a.routed.kind)).map a.routed.kind.element.toAtom =
        a :: (atoms.filterMap (onto? a.routed.kind)).map a.routed.kind.element.toAtom := by
      rw [List.filterMap_cons_some (onto?_self a), List.map_cons, toAtom_routed]
    have hothers : ∀ ks : List Kind, a.routed.kind ∉ ks →
        (ks.flatMap fun k => ((a :: atoms).filterMap (onto? k)).map k.element.toAtom) =
          ks.flatMap fun k => (atoms.filterMap (onto? k)).map k.element.toAtom := by
      intro ks hks
      refine List.flatMap_congr fun k hk => ?_
      rw [List.filterMap_cons_none (onto?_of_ne fun h => hks (h ▸ hk))]
    rw [hsplit, List.flatMap_append, List.flatMap_cons] at ih ⊢
    rw [hself, hothers before fun h => hbefore _ h _ List.mem_cons_self rfl,
      hothers after (List.nodup_cons.mp hafter).1]
    exact (ih.cons a).trans List.perm_middle.symm

end Atom

namespace Stacks

theorem ext_get {s t : Stacks} (h : ∀ k, s.get k = t.get k) : s = t := by
  cases s
  cases t
  simp only [mk.injEq]
  exact ⟨h .integer, h .float, h .boolean, h .name, h .code, h .exec, h .input⟩

theorem toList_get_receiving (s : Stacks) (atoms : List Atom) (k : Kind) :
    ((s.receiving atoms).get k).toList = (s.get k).toList ++ atoms.filterMap (Atom.onto? k) := by
  have hnone : ∀ k, (∀ a : Atom, k ≠ a.routed.kind) → atoms.filterMap (Atom.onto? k) = [] :=
    fun k h => List.filterMap_eq_nil_iff.mpr fun a _ => Atom.onto?_of_ne (h a)
  cases k with
  | integer | float | boolean | name | code => exact Stack.toList_ofList _
  | exec =>
    rw [hnone .exec fun a => by cases a <;> exact Kind.noConfusion, List.append_nil]
    rfl
  | input =>
    rw [hnone .input fun a => by cases a <;> exact Kind.noConfusion, List.append_nil]
    rfl

theorem receiving_nil (s : Stacks) : s.receiving [] = s := by
  refine ext_get fun k => Stack.toList_inj.mp ?_
  rw [toList_get_receiving, List.filterMap_nil, List.append_nil]

theorem receiving_append (s : Stacks) (atoms others : List Atom) :
    s.receiving (atoms ++ others) = (s.receiving atoms).receiving others := by
  refine ext_get fun k => Stack.toList_inj.mp ?_
  simp only [toList_get_receiving, List.filterMap_append, List.append_assoc]

theorem set_routed (s : Stacks) (a : Atom) :
    s.set a.routed.kind ((s.get a.routed.kind).push a.routed.value) = s.receiving [a] := by
  refine ext_get fun k => Stack.toList_inj.mp ?_
  rw [toList_get_receiving]
  by_cases h : k = a.routed.kind
  · subst h
    rw [get_set_self, Stack.toList_push, List.filterMap_cons_some a.onto?_self, List.filterMap_nil]
  · rw [get_set_of_ne s h, List.filterMap_cons_none (Atom.onto?_of_ne h), List.filterMap_nil,
      List.append_nil]

end Stacks

namespace Machine

variable {m : Machine χ}

theorem receiving_append (m : Machine χ) (atoms others : List Atom) :
    m.receiving (atoms ++ others) = (m.receiving atoms).receiving others :=
  congrArg (fun contents => { m with contents }) (m.contents.receiving_append atoms others)

theorem receiving_nil (m : Machine χ) : m.receiving [] = m :=
  congrArg (fun contents => { m with contents }) m.contents.receiving_nil

theorem push_routed (m : Machine χ) (a : Atom) :
    m.push a.routed.kind a.routed.value = m.receiving [a] :=
  congrArg (fun contents => { m with contents }) (m.contents.set_routed a)

/-- Nothing is lost and nothing is there twice. -/
theorem items_receiving (m : Machine χ) (atoms : List Atom) :
    (m.receiving atoms).items = m.items + atoms.length := by
  induction atoms generalizing m with
  | nil => rw [receiving_nil, List.length_nil, Nat.add_zero]
  | cons a atoms ih =>
    rw [← List.singleton_append, receiving_append, ih, ← push_routed, items_push,
      List.length_append, List.length_singleton, Nat.add_assoc]

theorem receiving_reverseInputs (m : Machine χ) (atoms : List Atom) :
    (m.reverseInputs.receiving atoms).reverseInputs = m.receiving atoms := by
  have hinput : Stack.ofList (Stack.ofList (m.stack .input).toList.reverse).toList.reverse =
      m.stack .input := by
    rw [Stack.toList_ofList, List.reverse_reverse, Stack.ofList_toList]
  exact congrArg (fun input => { m with
    contents := { m.contents.receiving atoms with input } }) hinput

variable [Host χ]

theorem pushInput_eq_receiving (hpusher : m.pusher = .routing)
    (hindexable : (m.stack .input).Indexable) {k : Nat} {a : Atom}
    (h : (m.stack .input).toList[min k ((m.stack .input).size - 1)]? = some a) :
    m.pushInput k = m.receiving [a] := by
  have hclamp : (m.stack .input).clamp (.ofIntClamp k) = min k ((m.stack .input).size - 1) := by
    rw [Stack.Indexable] at hindexable
    rw [Stack.clamp_ofIntClamp]
    omega
  rw [pushInput_of_getElem? hpusher ((congrArg _ hclamp).trans h), push_routed]

theorem pushInput_of_size_le (hpusher : m.pusher = .routing) {k : Nat}
    (h : (m.stack .input).size ≤ k) :
    m.pushInput k = m.pushInput ((m.stack .input).size - 1) := by
  have hclamp : (m.stack .input).clamp (.ofIntClamp k) =
      (m.stack .input).clamp (.ofIntClamp ((m.stack .input).size - 1 : Nat)) := by
    rw [Stack.clamp_ofIntClamp, Stack.clamp_ofIntClamp]
    omega
  have howns := ownsPusher_of_routing hpusher
  rw [pushInput_eq howns, pushInput_eq howns, copyInput, copyInput, Stack.deepPeek?_eq,
    Stack.deepPeek?_eq, hclamp]

/-- What is handed on does not change what the next positions stand for. -/
theorem inputsAt_eq_receiving (hpusher : m.pusher = .routing)
    (hindexable : (m.stack .input).Indexable) (indices : List Nat)
    (h : ∀ i ∈ indices, i < (m.stack .input).size) :
    inputsAt indices m = m.receiving (indices.filterMap fun i => (m.stack .input).toList[i]?) := by
  induction indices generalizing m with
  | nil => exact m.receiving_nil.symm
  | cons i rest ih =>
    obtain ⟨hi, hrest⟩ := List.forall_mem_cons.mp h
    have hlt : i < (m.stack .input).toList.length := (m.stack .input).length_toList ▸ hi
    have hget : (m.stack .input).toList[i]? = some (m.stack .input).toList[i] :=
      List.getElem?_eq_getElem hlt
    have hpush : m.pushInput i = m.receiving [(m.stack .input).toList[i]] := by
      apply pushInput_eq_receiving hpusher hindexable
      rw [Nat.min_eq_left (Nat.le_sub_one_of_lt hi)]
      exact hget
    rw [List.filterMap_cons_some hget, ← List.singleton_append (l := rest.filterMap _),
      receiving_append, ← hpush]
    have hinput : (m.pushInput i).stack .input = m.stack .input := by
      rw [hpush]
      rfl
    have hrouting : (m.pushInput i).pusher = .routing := by
      rw [hpush]
      exact hpusher
    have hnext := ih hrouting (hinput.symm ▸ hindexable) (hinput.symm ▸ hrest)
    rw [hinput] at hnext
    exact hnext

theorem inAll_eq_receiving (hpusher : m.pusher = .routing)
    (hindexable : (m.stack .input).Indexable) :
    (Builtin.input .inAll).run m = (m.receiving (m.stack .input).toList, .ok ()) := by
  have hinputs := inputsAt_eq_receiving hpusher hindexable (List.range (m.stack .input).size)
    fun i hi => List.mem_range.mp hi
  rw [Stack.filterMap_range] at hinputs
  exact congrArg (·, _) hinputs

theorem inAllRev_eq_receiving (hpusher : m.pusher = .routing)
    (hindexable : (m.stack .input).Indexable) :
    (Builtin.input .inAllRev).run m = (m.receiving (m.stack .input).toList.reverse, .ok ()) := by
  have hinputs := inputsAt_eq_receiving hpusher hindexable (List.range (m.stack .input).size).reverse
    fun i hi => List.mem_range.mp (List.mem_reverse.mp hi)
  rw [List.filterMap_reverse, Stack.filterMap_range] at hinputs
  exact congrArg (·, _) hinputs

theorem inAllRev_eq_reverseInputs (hpusher : m.pusher = .routing)
    (hindexable : (m.stack .input).Indexable) : (Builtin.input .inAllRev).run m =
      (((Builtin.input .inAll).run m.reverseInputs).1.reverseInputs, .ok ()) := by
  have hinput : m.reverseInputs.stack .input = .ofList (m.stack .input).toList.reverse :=
    stack_setStack_self m .input _
  have hsize : (m.reverseInputs.stack .input).Indexable := by
    rw [Stack.Indexable, ← Stack.length_toList, hinput, Stack.toList_ofList, List.length_reverse,
      Stack.length_toList]
    exact hindexable
  rw [inAllRev_eq_receiving hpusher hindexable,
    inAll_eq_receiving (m := m.reverseInputs) hpusher hsize, hinput, Stack.toList_ofList,
    receiving_reverseInputs]

theorem index_run_push (hinput : (m.stack .input).size ≠ 0) (n : Int64) :
    (Builtin.input .index).run (m.push .integer n) =
      (m.pushInput (min n.toInt.toNat ((m.stack .input).size - 1)), .ok ()) := by
  have hrest : (m.push .integer n).setStack .integer ⟨(m.stack .integer).down⟩ = m :=
    (setStack_setStack m .integer _ _).trans (setStack_of_down rfl)
  have hindex := inputAtIndex_of_down (m := m.push .integer n)
    (congrArg Stack.down (stack_setStack_self m .integer _)) hinput
  rw [hrest] at hindex
  exact congrArg (·, _) hindex

end Machine

/-- Inputs that are routed to the stacks of their kinds arrive there in their order, each on one
stack and none twice, and those handed on from the top arrive as the opposite order would from the
bottom. An integer names an input by its position, where one outside the stack means the nearest one
inside, as it does for an instruction that stands for a position. The inputs stay where they are. -/
theorem inputs_routed_in_order [Host χ] (m : Machine χ) (hpusher : m.pusher = .routing) :
    let inputs := (m.stack .input).toList
    ((m.stack .input).Indexable →
      (Builtin.input .inAll).run m = (m.receiving inputs, .ok ()) ∧
      (Builtin.input .inAllRev).run m =
        (((Builtin.input .inAll).run m.reverseInputs).1.reverseInputs, .ok ()) ∧
      ∀ k a, inputs[min k (inputs.length - 1)]? = some a →
        (Operation.input k).run m = (m.receiving [a], .ok ())) ∧
    (∀ k, ((m.receiving inputs).stack k).toList =
      (m.stack k).toList ++ inputs.filterMap (Atom.onto? k)) ∧
    inputs.Perm (Kind.all.flatMap fun k =>
      (inputs.filterMap (Atom.onto? k)).map k.element.toAtom) ∧
    (m.receiving inputs).items = m.items + inputs.length ∧
    (inputs ≠ [] → ∀ n : Int64, (Builtin.input .index).run (m.push .integer n) =
      (Operation.input (min (max n.toInt 0) (inputs.length - 1)).toNat).run m) ∧
    (∀ k, inputs.length ≤ k →
      (Operation.input k).run m = (Operation.input (inputs.length - 1)).run m) ∧
    (∀ op : InputOp, ((Builtin.input op).run m).1.stack .input = m.stack .input) ∧
    ∀ k, ((Operation.input k).run m).1.stack .input = m.stack .input := by
  intro inputs
  have hlength : inputs.length = (m.stack .input).size := Stack.length_toList _
  have howns := Machine.ownsPusher_of_routing hpusher
  refine ⟨fun hindexable => ⟨Machine.inAll_eq_receiving hpusher hindexable,
    Machine.inAllRev_eq_reverseInputs hpusher hindexable, fun k a ha => ?_⟩,
    m.contents.toList_get_receiving inputs, Atom.perm_onto? inputs, m.items_receiving inputs,
    fun hinputs n => ?_, fun k hk => ?_,
    fun op => Machine.input_of_setup (Builtin.setup_run fun _ _ => howns).2,
    fun k => Machine.input_of_setup (m.setup_pushInput howns k)⟩
  · rw [hlength] at ha
    exact congrArg (·, _) (Machine.pushInput_eq_receiving hpusher hindexable ha)
  · have hinput : (m.stack .input).size ≠ 0 :=
      hlength ▸ fun h => hinputs (List.eq_nil_of_length_eq_zero h)
    have hposition : (min (max n.toInt 0) (inputs.length - 1)).toNat =
        min n.toInt.toNat ((m.stack .input).size - 1) := by omega
    rw [Machine.index_run_push hinput, hposition]
    rfl
  · rw [hlength] at hk ⊢
    exact congrArg (·, _) (Machine.pushInput_of_size_le hpusher hk)

/-- Four inputs of three kinds, where an integer lies already. -/
theorem inputs_routed_in_order_kinds :
    let inputs : List Atom := [.integer 1, .name "x", .program [.boolean true], .integer 2]
    let m : Machine Scripted :=
      { contents := { integer := ⟨[7]⟩, input := .ofList inputs }, source := .script [], config := {} }
    m.pusher = .routing ∧ (m.stack .input).Indexable ∧
      (Builtin.input .inAll).run m = (m.receiving inputs, .ok ()) ∧
      ((m.receiving inputs).stack .integer).toList = [7, 1, 2] ∧
      (Operation.input 2).run m = (m.receiving [.program [.boolean true]], .ok ()) ∧
      (Builtin.input .index).run (m.push .integer (-5)) = (Operation.input 0).run m ∧
      (Operation.input 9).run m = (Operation.input 3).run m := by
  intro inputs m
  have hindexable : (m.stack .input).Indexable := show 4 ≤ 2 ^ 63 by omega
  obtain ⟨hall, hstacks, -, -, hindex, hbeyond, -, -⟩ := inputs_routed_in_order m rfl
  obtain ⟨hforward, -, hposition⟩ := hall hindexable
  exact ⟨rfl, hindexable, hforward, hstacks .integer, hposition 2 _ rfl,
    hindex (List.cons_ne_nil _ _) (-5), hbeyond 9 (show 4 ≤ 9 by omega)⟩

end PushLang
