import PushLang.Proofs.Builtin.Loops
import PushLang.Proofs.Machine.Operands
import PushLang.Proofs.Machine.RandomCode
import PushLang.Proofs.Random.Range
import PushLang.Proofs.Stack.Depth

namespace PushLang

open PushLang.Random

variable {χ : Type}

/-- A piece of code on the stack where control instructions find it. -/
def Domain.item (d : Domain) (a : Atom) : Constant :=
  match d with
  | .code => ⟨.code, a⟩
  | .exec => ⟨.exec, a⟩

theorem Domain.kind_ne_input (d : Domain) : d.kind ≠ .input := by cases d <;> decide

/-- An atom on the stack of its kind; programs and instructions are code. -/
def Atom.routed : Atom → Constant
  | .integer n => ⟨.integer, n⟩
  | .float x => ⟨.float, x⟩
  | .boolean b => ⟨.boolean, b⟩
  | .name s => ⟨.name, s⟩
  | .instruction h => ⟨.code, .instruction h⟩
  | .program p => ⟨.code, .program p⟩

/-- The items that an instruction takes and those that it puts there instead, where the first item
of each kind is the topmost one. A program may be built for them, and the random source used. -/
structure Exchange where
  taken : List Constant
  given : List Constant
  built : Option Program
  source : Source

/-- A program is built that has more points than the settings allow. -/
def Exchange.Oversized (e : Exchange) (config : Config) : Prop :=
  ∃ p ∈ e.built, config.maxPoints < Program.points p

namespace Machine

/-- The machine with further items on its stacks. -/
def holding (m : Machine χ) (items : List Constant) : Machine χ :=
  items.foldr (fun c m => m.push c.kind c.value) m

/-- The size of random code that an integer bounds, and the source after drawing it. -/
def drawnSize (m : Machine χ) (n : Int64) : Nat × Source :=
  let limit := min n.toInt.natAbs m.config.maxRandomSize
  if 0 < limit then ((m.source.draw limit).1 + 2, (m.source.draw limit).2) else (2, m.source)

end Machine

/-- The instructions that take all of their operands or none. -/
inductive Builtin.IsWhole : Builtin → Prop where
  | k : IsWhole (.exec .k)
  | s : IsWhole (.exec .s)
  | y : IsWhole (.exec .y)
  | branch (d : Domain) : IsWhole (.branch d)
  | equal (d : Domain) : IsWhole (.equal ⟨d.kind, d.kind_ne_input⟩)
  | loop (d : Domain) (op : LoopOp) : IsWhole (.loop d op)
  | rand : IsWhole (.code .rand)
  | index : IsWhole (.input .index)

/-- An operand of the instruction is missing. A count that is not positive is none, and random code
needs an active generator. -/
def Builtin.Lacks (m : Machine χ) : Builtin → Prop
  | .exec .k => (m.stack .exec).size < 2
  | .exec .s => (m.stack .exec).size < 3
  | .exec .y => (m.stack .exec).size < 1
  | .branch d => (m.stack .boolean).size < 1 ∨ (m.stack d.kind).size < 2
  | .equal k => (m.stack k).size < 2
  | .loop d .range => (m.stack .integer).size < 2 ∨ (m.stack d.kind).size < 1
  | .loop d _ =>
    (m.stack .integer).size < 1 ∨ (∃ count ∈ (m.stack .integer).top?, count ≤ 0) ∨
      (m.stack d.kind).size < 1
  | .code .rand => (m.stack .integer).size < 1 ∨ m.activeGenerators = []
  | .input .index => (m.stack .input).size < 1 ∨ (m.stack .integer).size < 1
  | _ => False

/-- The code that runs a piece of code from one integer to another, for a loop that takes its code
from the code stack or from the pending code. -/
inductive Domain.Repeats (start stop : Int64) (code : Atom) : Domain → Program → Prop where
  | code : Repeats start stop code .code
    [.integer start, .integer stop, .name "code.quote", code, .name "code.do*range"]
  | exec : Repeats start stop code .exec
    [.integer start, .integer stop, .name "exec.do*range", code]

theorem Domain.repeats_rangeProgram (d : Domain) (start stop : Int64) (code : Atom) :
    d.Repeats start stop code (rangeProgram d start stop code) := by
  cases d with
  | code => exact .code
  | exec => exact .exec

inductive Builtin.Exchanges (m : Machine χ) : Builtin → Exchange → Prop where
  | k (a b : Atom) :
    Exchanges m (.exec .k) ⟨[⟨.exec, a⟩, ⟨.exec, b⟩], [⟨.exec, a⟩], none, m.source⟩
  | s (a b c : Atom) :
    Exchanges m (.exec .s) ⟨[⟨.exec, a⟩, ⟨.exec, b⟩, ⟨.exec, c⟩],
      [⟨.exec, a⟩, ⟨.exec, c⟩, ⟨.exec, .program [b, c]⟩], some [b, c], m.source⟩
  | y (a : Atom) :
    Exchanges m (.exec .y) ⟨[⟨.exec, a⟩], [⟨.exec, a⟩, ⟨.exec, .program [.name "exec.y", a]⟩],
      some [.name "exec.y", a], m.source⟩
  | branch (d : Domain) (condition : Bool) (first second : Atom) :
    Exchanges m (.branch d) ⟨[⟨.boolean, condition⟩, d.item first, d.item second],
      [⟨.exec, if condition then first else second⟩], none, m.source⟩
  | equal (d : Domain) (a b : Atom) :
    Exchanges m (.equal ⟨d.kind, d.kind_ne_input⟩)
      ⟨[d.item a, d.item b], [⟨.boolean, a.equal b⟩], none, m.source⟩
  | last (d : Domain) (i : Int64) (code : Atom) :
    Exchanges m (.loop d .range) ⟨[⟨.integer, i⟩, ⟨.integer, i⟩, d.item code],
      [⟨.integer, i⟩, ⟨.exec, code⟩], none, m.source⟩
  | turn (d : Domain) {start stop : Int64} (h : start ≠ stop) (code : Atom) {p : Program}
    (hp : d.Repeats (if start < stop then start + 1 else start - 1) stop code p) :
    Exchanges m (.loop d .range) ⟨[⟨.integer, stop⟩, ⟨.integer, start⟩, d.item code],
      [⟨.integer, start⟩, ⟨.exec, code⟩, ⟨.exec, .program p⟩], some p, m.source⟩
  | count (d : Domain) {n : Int64} (h : 0 < n) (code : Atom) {p : Program}
    (hp : d.Repeats 0 (n - 1) code p) :
    Exchanges m (.loop d .count) ⟨[⟨.integer, n⟩, d.item code], [⟨.exec, .program p⟩], some p,
      m.source⟩
  | times (d : Domain) {n : Int64} (h : 0 < n) (code : Atom) {p : Program}
    (hp : d.Repeats 0 (n - 1) (.program [.name "integer.pop", code]) p) :
    Exchanges m (.loop d .times) ⟨[⟨.integer, n⟩, d.item code], [⟨.exec, .program p⟩], some p,
      m.source⟩
  | rand (n : Int64) {p : Program} {s : Source}
    (h : Random.code m.activeGenerators m.config (m.drawnSize n).1 (m.drawnSize n).2 = (.ok p, s)) :
    Exchanges m (.code .rand) ⟨[⟨.integer, n⟩], [⟨.code, .program p⟩], none, s⟩
  | index (n : Int64) {a : Atom}
    (h : (m.stack .input).toList[min n.toInt.toNat ((m.stack .input).size - 1)]? = some a) :
    Exchanges m (.input .index) ⟨[⟨.integer, n⟩], [a.routed], none, m.source⟩

namespace Stack

variable {α : Type}

theorem clamp_ofIntClamp (s : Stack α) (i : Nat) :
    s.clamp (.ofIntClamp i) = min (min i (2 ^ 63 - 1)) (s.size - 1) := by
  have hmax : Int64.maxValue.toInt = 2 ^ 63 - 1 := by decide
  rw [clamp, toInt_ofIntClamp_of_nonneg (Int.natCast_nonneg i), hmax]
  omega

end Stack

namespace Machine

variable {m : Machine χ}

theorem holding_append (m : Machine χ) (items items' : List Constant) :
    m.holding (items ++ items') = (m.holding items').holding items := List.foldr_append

theorem holding_map {k : Kind} (items : List k.Item) {rest : List k.Item}
    (h : (m.stack k).down = items ++ rest) :
    (m.setStack k ⟨rest⟩).holding (items.map (Constant.mk k)) = m := by
  induction items generalizing m with
  | nil => exact setStack_of_down h
  | cons v items ih =>
    have hbelow : ((m.setStack k ⟨items ++ rest⟩).setStack k ⟨rest⟩).holding
        (items.map (Constant.mk k)) = m.setStack k ⟨items ++ rest⟩ :=
      ih (congrArg Stack.down (stack_setStack_self m k _))
    rw [setStack_setStack] at hbelow
    rw [List.map_cons, holding, List.foldr_cons, ← holding, hbelow, push, stack_setStack_self,
      setStack_setStack]
    exact setStack_of_down h

theorem holding_maps {k l : Kind} (hne : l ≠ k) (items : List k.Item) {rest : List k.Item}
    (others : List l.Item) {rest' : List l.Item} (hk : (m.stack k).down = items ++ rest)
    (hl : (m.stack l).down = others ++ rest') :
    ((m.setStack k ⟨rest⟩).setStack l ⟨rest'⟩).holding
      (items.map (Constant.mk k) ++ others.map (Constant.mk l)) = m := by
  have hl' : ((m.setStack k ⟨rest⟩).stack l).down = others ++ rest' := by
    rw [stack_setStack_of_ne m hne, hl]
  rw [holding_append, holding_map others hl', holding_map items hk]

theorem holding_body {k : Kind} (d : Domain) (hne : d.kind ≠ k) (items : List k.Item)
    {rest : List k.Item} (others : List Atom) {rest' : List Atom} (hk : (m.stack k).down = items ++ rest)
    (hd : (m.body d).down = others ++ rest') :
    ((m.setStack k ⟨rest⟩).setBody ⟨rest'⟩ d).holding
      (items.map (Constant.mk k) ++ others.map d.item) = m := by
  cases d with
  | code => exact holding_maps hne items others hk hd
  | exec => exact holding_maps hne items others hk hd

theorem size_stack_kind (m : Machine χ) (d : Domain) :
    (m.stack d.kind).size = (m.body d).down.length := by cases d <;> rfl

theorem exists_pair {α : Type} {l : List α} (h : ¬ l.length < 2) :
    ∃ a b rest, l = a :: b :: rest := by
  obtain ⟨a, l, rfl⟩ := List.exists_cons_of_length_pos (Nat.lt_of_lt_of_le Nat.two_pos (not_lt.mp h))
  obtain ⟨b, rest, rfl⟩ := List.exists_cons_of_length_pos (l := l) (by
    rw [List.length_cons] at h
    omega)
  exact ⟨a, b, rest, rfl⟩

theorem comparePair_of_short {k : Kind} (h : (m.stack k).size < 2) :
    comparePair k m = (m, .ok ()) := by
  unfold comparePair Effect.always
  refine congrArg (·, _) ?_
  dsimp only
  split
  · rename_i hdown
    rw [Stack.size, hdown] at h
    simp at h
  · rfl

theorem comparePair_of_down {k : Kind} {a b : k.Item} {rest : List k.Item}
    (h : (m.stack k).down = a :: b :: rest) :
    comparePair k m =
      ((m.setStack k ⟨rest⟩).push .boolean (k.element.equal a b), .ok ()) := by
  rw [comparePair, Effect.always, h]

theorem doCounted_of_lacks {d : Domain} {wrap : Atom → Atom}
    (h : (m.stack .integer).size < 1 ∨ (∃ count ∈ (m.stack .integer).top?, count ≤ 0) ∨
      (m.stack d.kind).size < 1) : doCounted d wrap m = m := by
  rw [size_stack_kind] at h
  unfold doCounted
  split
  · rename_i count _ hbody hinteger
    dsimp only
    rw [Stack.size, Stack.top?, hinteger, hbody] at h
    have hcount : ¬ 0 < count := by
      rcases h with h | ⟨_, hmem, hle⟩ | h
      · simp at h
      · obtain rfl := Option.some.inj hmem
        exact Int64.not_lt.mpr hle
      · simp at h
    rw [if_neg fun hand => hcount hand.1]
  · rfl

theorem exists_counted {d : Domain}
    (h : ¬ ((m.stack .integer).size < 1 ∨ (∃ count ∈ (m.stack .integer).top?, count ≤ 0) ∨
      (m.stack d.kind).size < 1)) :
    ∃ (n : Int64) (code : Atom) (r : Machine χ), 0 < n ∧
      r.holding [⟨.integer, n⟩, d.item code] = m ∧
      ∀ wrap : Atom → Atom, doCounted d wrap m =
        if m.admits (rangeProgram d 0 (n - 1) (wrap code)) then
          { r.push .exec (.program (rangeProgram d 0 (n - 1) (wrap code))) with
            source := m.source }
        else m := by
  rw [size_stack_kind, not_or, not_or] at h
  obtain ⟨hinteger, hpos, hbody⟩ := h
  obtain ⟨n, integers, hinteger⟩ := List.exists_cons_of_length_pos (not_lt.mp hinteger)
  obtain ⟨code, rest, hbody⟩ := List.exists_cons_of_length_pos (not_lt.mp hbody)
  have hn : 0 < n := by
    refine Int64.not_le.mp fun hle => hpos ⟨n, ?_, hle⟩
    rw [Stack.top?, hinteger]
    rfl
  have hne : d.kind ≠ .integer := by cases d <;> decide
  refine ⟨n, code, _, hn, holding_body d hne [n] [code] hinteger hbody,
    fun wrap => ?_⟩
  rw [doCounted, hinteger, hbody]
  dsimp only
  simp only [hn, true_and, drop_of_down hinteger]
  cases d <;> rfl

theorem exists_pushRandomCode {n : Int64} {integers : List Int64}
    (hdown : (m.stack .integer).down = n :: integers) (hactive : m.activeGenerators ≠ []) :
    ∃ p s,
      Random.code m.activeGenerators m.config (m.drawnSize n).1 (m.drawnSize n).2 = (.ok p, s) ∧
      pushRandomCode m =
        ({ (m.setStack .integer ⟨integers⟩).push .code (.program p) with source := s }, .ok ()) := by
  obtain ⟨p, s, hcode, -⟩ :=
    code_ok hactive (Q := fun _ => True) (fun _ _ _ => trivial) (fun _ _ _ _ => trivial)
      (Nat.le_succ (m.drawnSize n).1) (m.drawnSize n).2
  refine ⟨p, s, hcode, ?_⟩
  let m₁ := m.setStack .integer ⟨integers⟩
  let limit := min n.toInt.natAbs m.config.maxRandomSize
  -- Neither taking the integer nor drawing the size touches the generators or the settings.
  have hdrawn : (if 0 < limit then m₁.withSource fun s => ((s.draw limit).1 + 2, (s.draw limit).2)
      else (2, m₁)) = ((m.drawnSize n).1, { m₁ with source := (m.drawnSize n).2 }) := by
    simp only [drawnSize]
    split <;> rfl
  have hmade : ({ m₁ with source := (m.drawnSize n).2 } : Machine χ).randomCode (m.drawnSize n).1 =
      (.ok p, { m₁ with source := s }) := by
    rw [randomCode, withSource]
    exact congrArg (fun made : Except Failure Program × Source =>
      (made.1, { m₁ with source := made.2 })) hcode
  have htake : m.take .integer false = (some n, m₁) := take_of_down hdown false
  have hlimit : min n.toInt.natAbs m₁.config.maxRandomSize = limit := rfl
  rcases hgenerators : m.activeGenerators with _ | ⟨g, generators⟩
  · exact absurd hgenerators hactive
  · simp only [pushRandomCode, hgenerators, htake, hlimit, hdrawn, hmade]
    rfl

theorem route_eq (m : Machine χ) (a : Atom) : m.route a = m.push a.routed.kind a.routed.value := by
  cases a <;> rfl

theorem ownsPusher_of_routing (h : m.pusher = .routing) : m.OwnsPusher := by
  rintro x hx
  rw [h] at hx
  cases hx

variable [Host χ]

/-- On the machine `m`, which is `r` with the operands, the instruction makes the exchange, or
nothing at all if the program to be built is too large. -/
structure Deals (m r : Machine χ) (b : Builtin) (e : Exchange) : Prop where
  exchange : b.Exchanges m e
  operands : m = r.holding e.taken
  declined : e.Oversized m.config → b.run m = (m, .ok ())
  settled : ¬ e.Oversized m.config →
    b.run m = ({ r.holding e.given with source := e.source }, .ok ())

variable {r : Machine χ} {b : Builtin} {e : Exchange}

theorem Deals.of_none (exchange : b.Exchanges m e) (operands : r.holding e.taken = m)
    (hbuilt : e.built = none)
    (hrun : b.run m = ({ r.holding e.given with source := e.source }, .ok ())) :
    m.Deals r b e := by
  refine ⟨exchange, operands.symm, fun h => ?_, fun _ => hrun⟩
  obtain ⟨p, hp, -⟩ := h
  rw [hbuilt] at hp
  cases hp

theorem Deals.of_admits (exchange : b.Exchanges m e) (operands : r.holding e.taken = m)
    {p : Program} (hbuilt : e.built = some p)
    (hrun : b.run m =
      (if m.admits p then { r.holding e.given with source := e.source } else m, .ok ())) :
    m.Deals r b e := by
  have hadmits : m.admits p = true ↔ ¬ e.Oversized m.config := by
    rw [admits, decide_eq_true_iff, Exchange.Oversized, hbuilt]
    simp
  refine ⟨exchange, operands.symm, fun h => ?_, fun h => ?_⟩
  · rw [hrun, if_neg fun hp => hadmits.mp hp h]
  · rw [hrun, if_pos (hadmits.mpr h)]

def AllOrNothing (m : Machine χ) (b : Builtin) : Prop :=
  (b.Lacks m → b.run m = (m, .ok ())) ∧ (¬ b.Lacks m → ∃ r e, m.Deals r b e)

theorem allOrNothing_k (m : Machine χ) : m.AllOrNothing (.exec .k) := by
  have hrun : (Builtin.exec .k).run m = (execK m, .ok ()) := rfl
  rw [AllOrNothing, hrun]
  refine ⟨fun hlacks => congrArg (·, _) ?_, fun hlacks => ?_⟩
  · have hsize : (m.stack .exec).down.length < 2 := hlacks
    unfold execK
    split
    · rename_i hdown
      rw [hdown] at hsize
      simp at hsize
    · rfl
  · obtain ⟨a, b, rest, hdown⟩ := exists_pair hlacks
    refine ⟨m.setStack .exec ⟨rest⟩, _, .of_none (.k a b) (holding_map [a, b] hdown) rfl ?_⟩
    rw [hrun, execK, hdown]
    rfl

theorem allOrNothing_s (m : Machine χ) : m.AllOrNothing (.exec .s) := by
  have hrun : (Builtin.exec .s).run m = (execS m, .ok ()) := rfl
  rw [AllOrNothing, hrun]
  refine ⟨fun hlacks => congrArg (·, _) ?_, fun hlacks => ?_⟩
  · have hsize : (m.stack .exec).down.length < 3 := hlacks
    unfold execS
    split
    · rename_i hdown
      rw [hdown] at hsize
      simp at hsize
      omega
    · rfl
  · have hsize : ¬ (m.stack .exec).down.length < 3 := hlacks
    obtain ⟨a, b, rest, hdown⟩ := exists_pair (l := (m.stack .exec).down) (by omega)
    obtain ⟨c, rest, rfl⟩ := List.exists_cons_of_length_pos (l := rest) (by
      rw [hdown, List.length_cons, List.length_cons] at hsize
      omega)
    refine ⟨m.setStack .exec ⟨rest⟩, _,
      .of_admits (.s a b c) (holding_map [a, b, c] hdown) rfl ?_⟩
    rw [hrun, execS, hdown]
    rfl

theorem allOrNothing_y (m : Machine χ) : m.AllOrNothing (.exec .y) := by
  have hrun : (Builtin.exec .y).run m = (execY m, .ok ()) := rfl
  rw [AllOrNothing, hrun]
  refine ⟨fun hlacks => congrArg (·, _) ?_, fun hlacks => ?_⟩
  · have hsize : (m.stack .exec).down.length < 1 := hlacks
    rw [execY, List.eq_nil_of_length_eq_zero (Nat.lt_one_iff.mp hsize)]
  · obtain ⟨a, rest, hdown⟩ := List.exists_cons_of_length_pos (not_lt.mp hlacks)
    refine ⟨m.setStack .exec ⟨rest⟩, _,
      .of_admits (.y a) (holding_map [a] hdown) rfl ?_⟩
    rw [hrun, execY, hdown]
    rfl

theorem allOrNothing_branch (m : Machine χ) (d : Domain) : m.AllOrNothing (.branch d) := by
  have hrun : (Builtin.branch d).run m = (chooseBranch d m, .ok ()) := rfl
  rw [AllOrNothing, hrun, Builtin.Lacks, size_stack_kind]
  refine ⟨fun hlacks => congrArg (·, _) ?_, fun hlacks => ?_⟩
  · unfold chooseBranch
    split
    · rename_i hboolean hbody
      rw [Stack.size, hboolean, hbody] at hlacks
      simp at hlacks
    · rfl
  · obtain ⟨hboolean, hbody⟩ := not_or.mp hlacks
    obtain ⟨condition, conditions, hboolean⟩ :=
      List.exists_cons_of_length_pos (not_lt.mp hboolean)
    obtain ⟨first, second, rest, hbody⟩ := exists_pair hbody
    have hne : d.kind ≠ .boolean := by cases d <;> decide
    refine ⟨(m.setStack .boolean ⟨conditions⟩).setBody ⟨rest⟩ d, _,
      .of_none (.branch d condition first second)
        (holding_body d hne [condition] [first, second] hboolean hbody)
        rfl ?_⟩
    rw [hrun, chooseBranch, hboolean, hbody, ← drop_of_down hboolean]
    cases d <;> rfl

theorem allOrNothing_equal (m : Machine χ) (d : Domain) :
    m.AllOrNothing (.equal ⟨d.kind, d.kind_ne_input⟩) := by
  have hrun : (Builtin.equal ⟨d.kind, d.kind_ne_input⟩).run m = comparePair d.kind m := by
    cases d <;> rfl
  rw [AllOrNothing, hrun]
  refine ⟨comparePair_of_short, fun hlacks => ?_⟩
  obtain ⟨a, b, rest, hdown⟩ := exists_pair hlacks
  rw [comparePair_of_down hdown] at hrun
  cases d with
  | code => exact ⟨_, _, .of_none (.equal .code a b) (holding_map [a, b] hdown) rfl hrun⟩
  | exec => exact ⟨_, _, .of_none (.equal .exec a b) (holding_map [a, b] hdown) rfl hrun⟩

theorem allOrNothing_range (m : Machine χ) (d : Domain) : m.AllOrNothing (.loop d .range) := by
  have hrun : (Builtin.loop d .range).run m = (doRange d m, .ok ()) := rfl
  rw [AllOrNothing, hrun, Builtin.Lacks, size_stack_kind]
  refine ⟨fun hlacks => congrArg (·, _) ?_, fun hlacks => ?_⟩
  · unfold doRange
    split
    · rename_i hbody hinteger
      rw [Stack.size, hinteger, hbody] at hlacks
      simp at hlacks
    · rfl
  · obtain ⟨hinteger, hbody⟩ := not_or.mp hlacks
    obtain ⟨stop, start, integers, hinteger⟩ := exists_pair hinteger
    obtain ⟨code, rest, hbody⟩ := List.exists_cons_of_length_pos (not_lt.mp hbody)
    have hne : d.kind ≠ .integer := by cases d <;> decide
    have hholding := holding_body d hne [stop, start] [code] hinteger hbody
    by_cases hlast : start = stop
    · subst hlast
      refine ⟨_, _, .of_none (.last d start code) hholding rfl ?_⟩
      rw [hrun, doRange, hinteger, hbody]
      dsimp only
      rw [if_pos rfl, drop_of_down hinteger]
      cases d <;> rfl
    · have hturn := d.repeats_rangeProgram (toward start stop) stop code
      refine ⟨_, _, .of_admits (.turn d hlast code hturn) hholding rfl ?_⟩
      rw [hrun, doRange, hinteger, hbody]
      dsimp only
      rw [if_neg hlast, drop_of_down hinteger]
      cases d <;> rfl

theorem allOrNothing_count (m : Machine χ) (d : Domain) : m.AllOrNothing (.loop d .count) := by
  have hrun : (Builtin.loop d .count).run m = (doCounted d id m, .ok ()) := rfl
  rw [AllOrNothing, hrun]
  refine ⟨fun hlacks => congrArg (·, _) (doCounted_of_lacks hlacks), fun hlacks => ?_⟩
  obtain ⟨n, code, r, hn, hholding, hloop⟩ := exists_counted hlacks
  refine ⟨r, _, .of_admits (.count d hn code (d.repeats_rangeProgram _ _ _)) hholding rfl ?_⟩
  rw [hrun, hloop]
  rfl

theorem allOrNothing_times (m : Machine χ) (d : Domain) : m.AllOrNothing (.loop d .times) := by
  let wrap : Atom → Atom := fun code => .program [.name "integer.pop", code]
  have hrun : (Builtin.loop d .times).run m = (doCounted d wrap m, .ok ()) := rfl
  rw [AllOrNothing, hrun]
  refine ⟨fun hlacks => congrArg (·, _) (doCounted_of_lacks hlacks), fun hlacks => ?_⟩
  obtain ⟨n, code, r, hn, hholding, hloop⟩ := exists_counted hlacks
  refine ⟨r, _, .of_admits (.times d hn code (d.repeats_rangeProgram _ _ _)) hholding rfl ?_⟩
  rw [hrun, hloop]
  rfl

theorem allOrNothing_rand (m : Machine χ) : m.AllOrNothing (.code .rand) := by
  have hform : (Builtin.code .rand).run m = action [] false (fun _ => pushRandomCode) m := rfl
  have hnone : m.takeAll false [] = (some (), m) := rfl
  have hrun := hform.trans (action_of_some hnone _)
  rw [AllOrNothing, hrun, Builtin.Lacks]
  refine ⟨fun hlacks => ?_, fun hlacks => ?_⟩
  · have hnothing : pushRandomCode m = (m, .ok ()) := by
      rcases hlacks with hsize | hactive
      · have hnil := List.eq_nil_of_length_eq_zero (Nat.lt_one_iff.mp hsize)
        rw [pushRandomCode, take_of_nil hnil]
        cases m.activeGenerators <;> rfl
      · rw [pushRandomCode, hactive]
    rw [hnothing]
    rfl
  · obtain ⟨hsize, hactive⟩ := not_or.mp hlacks
    obtain ⟨n, integers, hdown⟩ := List.exists_cons_of_length_pos (not_lt.mp hsize)
    obtain ⟨p, s, hcode, hpush⟩ := exists_pushRandomCode hdown hactive
    refine ⟨m.setStack .integer ⟨integers⟩, _,
      .of_none (.rand n hcode) (holding_map [n] hdown) rfl ?_⟩
    rw [hrun, hpush]
    rfl

theorem pushInput_of_getElem? (hpusher : m.pusher = .routing) {i : Nat} {a : Atom}
    (h : (m.stack .input).toList[(m.stack .input).clamp (.ofIntClamp i)]? = some a) :
    m.pushInput i = m.push a.routed.kind a.routed.value := by
  rw [pushInput_eq (ownsPusher_of_routing hpusher), copyInput, Stack.deepPeek?_eq, h]
  simp only [deliver, hpusher, route_eq]

theorem inputAtIndex_of_down {n : Int64} {integers : List Int64}
    (hdown : (m.stack .integer).down = n :: integers) (hinput : (m.stack .input).size ≠ 0) :
    inputAtIndex m = (m.setStack .integer ⟨integers⟩).pushInput
      (min n.toInt.toNat ((m.stack .input).size - 1)) := by
  have hempty : ¬ (m.stack .input).isEmpty = true := fun h =>
    hinput (List.isEmpty_iff_length_eq_zero.mp h)
  have htake : m.take .integer false = (some n, m.setStack .integer ⟨integers⟩) :=
    take_of_down hdown false
  rw [inputAtIndex, if_neg hempty, htake]
  rfl

theorem index_of_lacks (h : (Builtin.input .index).Lacks m) :
    (Builtin.input .index).run m = (m, .ok ()) := by
  refine congrArg (·, _) (show inputAtIndex m = m from ?_)
  unfold inputAtIndex
  split
  · rfl
  · rename_i hempty
    have hinput : ¬ (m.stack .input).size < 1 := fun hsize =>
      hempty (List.isEmpty_iff_length_eq_zero.mpr (Nat.lt_one_iff.mp hsize))
    rw [take_of_nil (List.eq_nil_of_length_eq_zero (Nat.lt_one_iff.mp (h.resolve_left hinput)))]

theorem exists_deals_index (hpusher : m.pusher = .routing) (h : ¬ (Builtin.input .index).Lacks m) :
    ∃ r e, m.Deals r (.input .index) e := by
  obtain ⟨hinput, hinteger⟩ := not_or.mp h
  obtain ⟨n, integers, hdown⟩ := List.exists_cons_of_length_pos (not_lt.mp hinteger)
  let i := min n.toInt.toNat ((m.stack .input).size - 1)
  have hle : i ≤ (m.stack .input).size - 1 := Nat.min_le_right _ _
  have hlt : i < (m.stack .input).toList.length := by
    rw [Stack.toList, List.length_reverse]
    rw [Stack.size] at hinput hle
    omega
  have hclamp : (m.stack .input).clamp (.ofIntClamp i) = i := by
    have hn := Int64.toInt_lt n
    have hsmall : i ≤ n.toInt.toNat := Nat.min_le_left _ _
    rw [Stack.clamp_ofIntClamp]
    omega
  have hget := List.getElem?_eq_getElem hlt
  have hpush := pushInput_of_getElem? (m := m.setStack .integer ⟨integers⟩) hpusher
    ((congrArg _ hclamp).trans hget)
  refine ⟨m.setStack .integer ⟨integers⟩, _,
    .of_none (.index n hget) (holding_map [n] hdown) rfl ?_⟩
  refine congrArg (·, _) (show inputAtIndex m = _ from ?_)
  rw [inputAtIndex_of_down hdown (by omega)]
  exact hpush

end Machine

/-- If an operand is missing or the program to be built is too large, the whole machine stays as it
is, and nothing fails. Otherwise the operands are gone and the items that the instruction is there
for are in their place, and only random code makes use of the random source. Inputs go to the stack
of their kind if they are handed on that way. -/
theorem operands_all_or_none [Host χ] (m : Machine χ) {b : Builtin} (hb : b.IsWhole) :
    (b.Lacks m → b.run m = (m, .ok ())) ∧
      (¬ b.Lacks m → (b = .input .index → m.pusher = .routing) →
        ∃ (r : Machine χ) (e : Exchange), b.Exchanges m e ∧ m = r.holding e.taken ∧
          (e.Oversized m.config → b.run m = (m, .ok ())) ∧
          (¬ e.Oversized m.config →
            b.run m = ({ r.holding e.given with source := e.source }, .ok ()))) := by
  suffices h : (b.Lacks m → b.run m = (m, .ok ())) ∧
      (¬ b.Lacks m → (b = .input .index → m.pusher = .routing) → ∃ r e, m.Deals r b e) by
    refine ⟨h.1, fun hlacks hpusher => ?_⟩
    obtain ⟨r, e, hdeals⟩ := h.2 hlacks hpusher
    exact ⟨r, e, hdeals.exchange, hdeals.operands, hdeals.declined, hdeals.settled⟩
  have hwhole : ∀ {b : Builtin}, m.AllOrNothing b → (b.Lacks m → b.run m = (m, .ok ())) ∧
      (¬ b.Lacks m → (b = .input .index → m.pusher = .routing) → ∃ r e, m.Deals r b e) :=
    fun h => ⟨h.1, fun hlacks _ => h.2 hlacks⟩
  cases hb with
  | k => exact hwhole m.allOrNothing_k
  | s => exact hwhole m.allOrNothing_s
  | y => exact hwhole m.allOrNothing_y
  | branch d => exact hwhole (m.allOrNothing_branch d)
  | equal d => exact hwhole (m.allOrNothing_equal d)
  | loop d op =>
    cases op with
    | range => exact hwhole (m.allOrNothing_range d)
    | count => exact hwhole (m.allOrNothing_count d)
    | times => exact hwhole (m.allOrNothing_times d)
  | rand => exact hwhole m.allOrNothing_rand
  | index =>
    exact ⟨Machine.index_of_lacks,
      fun hlacks hpusher => Machine.exists_deals_index (hpusher rfl) hlacks⟩

/-- The substituting combinator with two items, with three, and with three where a program may have
one point only. -/
theorem operands_all_or_none_substituting :
    let m : Config → List Atom → Machine Scripted := fun config exec =>
      { contents := { exec := ⟨exec⟩ }, source := .script [], config }
    let narrow : Config := { maxPoints := 1 }
    let b : Builtin := .exec .s
    let three : List Atom := [.name "x", .integer 2, .integer 3]
    b.IsWhole ∧ b.Lacks (m {} [.integer 1, .integer 2]) ∧
      b.run (m {} [.integer 1, .integer 2]) = (m {} [.integer 1, .integer 2], .ok ()) ∧
      (∀ config, ¬ b.Lacks (m config three)) ∧
      (∀ config, b = .input .index → (m config three).pusher = .routing) ∧
      (∃ (r : Machine Scripted) (e : Exchange), b.Exchanges (m {} three) e ∧
        m {} three = r.holding e.taken ∧
        b.run (m {} three) = ({ r.holding e.given with source := e.source }, .ok ())) ∧
      b.run (m narrow three) = (m narrow three, .ok ()) := by
  intro m narrow b three
  have hb : b.IsWhole := .s
  have htwo : b.Lacks (m {} [.integer 1, .integer 2]) := Nat.lt_succ_self 2
  have hthree : ∀ config, ¬ b.Lacks (m config three) := fun _ => Nat.lt_irrefl 3
  have hpusher : ∀ config, b = .input .index → (m config three).pusher = .routing := fun _ _ => rfl
  have hshape : ∀ (m : Machine Scripted) (e : Exchange), (Builtin.exec .s).Exchanges m e →
      ∃ x y z, e.taken = [⟨.exec, x⟩, ⟨.exec, y⟩, ⟨.exec, z⟩] ∧ e.built = some [y, z] := by
    rintro m _ ⟨⟩
    exact ⟨_, _, _, rfl, rfl⟩
  refine ⟨hb, htwo, (operands_all_or_none _ hb).1 htwo, hthree, hpusher, ?_, ?_⟩
  · obtain ⟨r, e, hexchange, hoperands, -, hsettled⟩ :=
      (operands_all_or_none (m {} three) hb).2 (hthree {}) (hpusher {})
    refine ⟨r, e, hexchange, hoperands, hsettled ?_⟩
    obtain ⟨x, y, z, htaken, hbuilt⟩ := hshape _ e hexchange
    rw [htaken] at hoperands
    have hdown : three = x :: y :: z :: (r.stack .exec).down :=
      congrArg (fun m : Machine Scripted => (m.stack .exec).down) hoperands
    obtain ⟨-, rfl, rfl, -⟩ : .name "x" = x ∧ .integer 2 = y ∧ .integer 3 = z ∧
        [] = (r.stack .exec).down := by
      simpa only [three, List.cons.injEq] using hdown
    rintro ⟨p, hp, hlarge⟩
    rw [hbuilt] at hp
    cases hp
    exact absurd hlarge (by decide)
  · obtain ⟨r, e, hexchange, -, hdeclined, -⟩ :=
      (operands_all_or_none (m narrow three) hb).2 (hthree narrow) (hpusher narrow)
    obtain ⟨x, y, z, -, hbuilt⟩ := hshape _ e hexchange
    refine hdeclined ⟨[y, z], hbuilt, ?_⟩
    have hone : (m narrow three).config.maxPoints = 1 := rfl
    rw [hone, Program.points_cons, Program.points_cons]
    omega

end PushLang
