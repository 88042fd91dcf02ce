import Mathlib.Data.Set.Defs
import Mathlib.Logic.Function.Iterate
import PushLang.Proofs.Machine.Steps
import PushLang.Scripted

namespace PushLang

variable {χ : Type}

/-- The integers from `start` to `stop`, both included, upwards or downwards. -/
def indices (start stop : Int64) : List Int64 :=
  (List.range ((stop.toInt - start.toInt).natAbs + 1)).map fun k : Nat =>
    .ofInt (if start ≤ stop then start.toInt + k else start.toInt - k)

/-- Pushes each index and applies `F` after it. -/
def forEach (F : Machine χ → Machine χ) (is : List Int64) (D : Machine χ) : Machine χ :=
  is.foldl (fun D i => F (D.push .integer i)) D

/-- The number of atoms that a loop adds to its body for a turn. -/
def Domain.overhead : Domain → Nat
  | .code => 5
  | .exec => 4

/-- The pending code behind a loop instruction with the body `b`, which comes first if it is to be
found there. -/
def Domain.pending (d : Domain) (b : Atom) (E : List Atom) : List Atom :=
  match d with
  | .code => E
  | .exec => b :: E

/-- The machine with the body `b` on the code stack, if it is to be found there. -/
def Machine.offering (D : Machine χ) (d : Domain) (b : Atom) : Machine χ :=
  match d with
  | .code => D.push .code b
  | .exec => D

/-- What becomes of a machine whose loop is not begun: all operands stay, and a body that is next in
the pending code runs. -/
def Domain.declined (d : Domain) (F : Machine χ → Machine χ) (b : Atom) (D : Machine χ) :
    Machine χ :=
  match d with
  | .code => D.push .code b
  | .exec => F D

def loopHelpers : List String := ["exec.do*range", "code.do*range", "code.quote", "integer.pop"]

/-- Machines with the same settings in which the names that loops use are unbound and registered as
built in, and which stay among these machines if the integers or the code change. -/
structure SupportsLoops (P : Set (Machine χ)) (config : Config) : Prop where
  settings : ∀ D ∈ P, D.config = config
  helper : ∀ D ∈ P, ∀ name ∈ loopHelpers, ∀ b ∈ Builtin.all, b.name = name → D.Calls (.name name) b
  integers : ∀ D ∈ P, ∀ s : Stack Int64, D.setStack .integer s ∈ P
  code : ∀ D ∈ P, ∀ s : Stack Atom, D.setStack .code s ∈ P

/-- Run by a machine of `P` with any code behind it, the atom comes back to that code in finitely
many steps, with the effect `F` on the machine. -/
def Returns [Host χ] (P : Set (Machine χ)) (b : Atom) (F : Machine χ → Machine χ) : Prop :=
  ∀ D ∈ P, F D ∈ P ∧ ∀ E, D.Leads (b :: E) (F D) E

/-- The machines with anything on the stacks and all else as in `m`. -/
def Machine.restocked (m : Machine χ) : Set (Machine χ) := {D | ∃ s, D = { m with contents := s }}

namespace Machine

variable {m D : Machine χ}

theorem mem_restocked (m : Machine χ) : m ∈ m.restocked := ⟨m.contents, rfl⟩

theorem setStack_mem_restocked (hD : D ∈ m.restocked) (k : Kind) (s : Stack k.Item) :
    D.setStack k s ∈ m.restocked := by
  obtain ⟨t, rfl⟩ := hD
  exact ⟨t.set k s, rfl⟩

theorem Calls.restocked {a : Atom} {b : Builtin} (h : m.Calls a b) (hD : D ∈ m.restocked) :
    D.Calls a b := by
  obtain ⟨t, rfl⟩ := hD
  exact h

end Machine

theorem supportsLoops_restocked {m : Machine χ}
    (h : ∀ name ∈ loopHelpers, ∀ b ∈ Builtin.all, b.name = name → m.Calls (.name name) b) :
    SupportsLoops m.restocked m.config where
  settings := by
    rintro _ ⟨t, rfl⟩
    rfl
  helper D hD name hname b hb heq := (h name hname b hb heq).restocked hD
  integers _ hD s := Machine.setStack_mem_restocked hD .integer s
  code _ hD s := Machine.setStack_mem_restocked hD .code s

theorem SupportsLoops.push_mem {P : Set (Machine χ)} {config : Config} {D : Machine χ}
    (hP : SupportsLoops P config) (hD : D ∈ P) (i : Int64) : D.push .integer i ∈ P :=
  hP.integers D hD _

/-- One step from `start` closer to `stop`. -/
def toward (start stop : Int64) : Int64 := if start < stop then start + 1 else start - 1

theorem toInt_toward {start stop : Int64} (h : start ≠ stop) :
    (toward start stop).toInt =
      if start.toInt ≤ stop.toInt then start.toInt + 1 else start.toInt - 1 := by
  have hlow := Int64.le_toInt start
  have hhigh := Int64.toInt_lt start
  have hlow' := Int64.le_toInt stop
  have hhigh' := Int64.toInt_lt stop
  have hne : start.toInt ≠ stop.toInt := fun heq => h (Int64.toInt_inj.mp heq)
  -- The step stays between the ends, so it does not wrap around.
  unfold toward
  split <;> rename_i hlt <;> rw [Int64.lt_iff_toInt_lt] at hlt
  · rw [if_pos (by omega), ← Int64.toInt_ofInt_of_le (n := start.toInt + 1) (by omega) (by omega),
      Int64.ofInt_add, Int64.ofInt_toInt]
    rfl
  · rw [if_neg (by omega), ← Int64.toInt_ofInt_of_le (n := start.toInt - 1) (by omega) (by omega),
      Int64.ofInt_sub, Int64.ofInt_toInt]
    rfl

theorem indices_self (i : Int64) : indices i i = [i] := by
  simp [indices]

theorem indices_of_ne {start stop : Int64} (h : start ≠ stop) :
    indices start stop = start :: indices (toward start stop) stop := by
  have hne : start.toInt ≠ stop.toInt := fun heq => h (Int64.toInt_inj.mp heq)
  have hnext := toInt_toward h
  have hcount : (stop.toInt - start.toInt).natAbs =
      (stop.toInt - (toward start stop).toInt).natAbs + 1 := by
    rw [hnext]
    split <;> omega
  rw [indices, hcount, List.range_succ_eq_map, List.map_cons, List.map_map, indices]
  congr 1
  · simp
  · refine List.map_congr_left fun k hk => congrArg Int64.ofInt ?_
    rw [List.mem_range] at hk
    simp only [Int64.le_iff_toInt_le, hnext]
    split <;> split <;> push_cast <;> omega

theorem length_indices (start stop : Int64) :
    (indices start stop).length = (stop.toInt - start.toInt).natAbs + 1 := by
  rw [indices, List.length_map, List.length_range]

theorem points_rangeProgram (d : Domain) (start stop : Int64) (b : Atom) :
    Program.points (rangeProgram d start stop b) = d.overhead + b.points := by
  cases d <;> simp [rangeProgram, Domain.overhead, Atom.points] <;> omega

namespace Machine

variable (D : Machine χ) (d : Domain) (b : Atom) (E : List Atom)

theorem admits_rangeProgram (start stop : Int64) :
    D.admits (rangeProgram d start stop b) =
      decide (d.overhead + b.points ≤ D.config.maxPoints) := by
  rw [admits, points_rangeProgram]

theorem doRange_paused (start stop : Int64) (n : Nat) :
    doRange d
        ((((D.push .integer start).push .integer stop).offering d b).paused (d.pending b E) n) =
      if start = stop then (D.push .integer start).paused (b :: E) n
      else
        if D.admits (rangeProgram d (toward start stop) stop b) then
          (D.push .integer start).paused
            (b :: .program (rangeProgram d (toward start stop) stop b) :: E) n
        else
          (((D.push .integer start).push .integer stop).offering d b).paused (d.pending b E) n := by
  cases d <;> rfl

theorem doCounted_paused (wrap : Atom → Atom) (count : Int64) (n : Nat) :
    doCounted d wrap (((D.push .integer count).offering d b).paused (d.pending b E) n) =
      if 0 < count ∧ D.admits (rangeProgram d 0 (count - 1) (wrap b)) then
        D.paused (.program (rangeProgram d 0 (count - 1) (wrap b)) :: E) n
      else ((D.push .integer count).offering d b).paused (d.pending b E) n := by
  cases d <;> rfl

theorem calls_offering {a : Atom} {c : Builtin} (h : D.Calls a c) : (D.offering d b).Calls a c := by
  cases d <;> exact h

variable [Host χ]

theorem leads_declined {P : Set (Machine χ)} {F : Machine χ → Machine χ} {D : Machine χ} {b : Atom}
    (hb : Returns P b F) (hD : D ∈ P) (d : Domain) (E : List Atom) :
    (D.offering d b).Leads (d.pending b E) (d.declined F b D) E := by
  cases d with
  | code => exact .refl _ _
  | exec => exact (hb D hD).2 E

end Machine

section

variable [Host χ] {P : Set (Machine χ)} {config : Config} {b : Atom} {F : Machine χ → Machine χ}
  {D : Machine χ}

theorem SupportsLoops.leads_turn (hP : SupportsLoops P config) (hD : D ∈ P) (d : Domain)
    (start stop : Int64) (b : Atom) (E : List Atom) :
    ∃ a, D.Calls a (.loop d .range) ∧
      D.Leads (.program (rangeProgram d start stop b) :: E)
        (((D.push .integer start).push .integer stop).offering d b) (a :: d.pending b E) := by
  have hends : ∀ rest, D.Leads (.integer start :: .integer stop :: rest)
      ((D.push .integer start).push .integer stop) rest :=
    fun rest => (Machine.Leads.integer _ _ _).trans (.integer _ _ _)
  cases d with
  | exec =>
    have hrange : D.Calls (.name "exec.do*range") (.loop .exec .range) :=
      hP.helper D hD _ (by simp [loopHelpers]) _ (by decide +kernel) (by decide +kernel)
    exact ⟨_, hrange, (Machine.Leads.program _ _ _).trans (hends _)⟩
  | code =>
    have hrange : D.Calls (.name "code.do*range") (.loop .code .range) :=
      hP.helper D hD _ (by simp [loopHelpers]) _ (by decide +kernel) (by decide +kernel)
    have hquote : ((D.push .integer start).push .integer stop).Calls (.name "code.quote")
        (.code .quote) :=
      hP.helper D hD _ (by simp [loopHelpers]) _ (by decide +kernel) (by decide +kernel)
    refine ⟨_, hrange, ?_⟩
    exact ((Machine.Leads.program _ _ _).trans (hends _)).trans (.call hquote rfl fun _ => rfl)

theorem SupportsLoops.leads_range (hP : SupportsLoops P config) (hb : Returns P b F) (d : Domain)
    {start stop : Int64} (hfit : start = stop ∨ d.overhead + b.points ≤ config.maxPoints)
    (hD : D ∈ P) (E : List Atom) {a : Atom} (ha : D.Calls a (.loop d .range)) :
    (((D.push .integer start).push .integer stop).offering d b).Leads (a :: d.pending b E)
      (forEach F (indices start stop) D) E := by
  -- The distance of the ends gets less by one with each turn.
  induction hn : (stop.toInt - start.toInt).natAbs generalizing start D a with
  | zero =>
    obtain rfl : start = stop := Int64.toInt_inj.mp (by omega)
    have hcall : (((D.push .integer start).push .integer start).offering d b).Leads
        (a :: d.pending b E) (D.push .integer start) (b :: E) :=
      .call (Machine.calls_offering _ d b ha) rfl fun n => by
        rw [LoopOp.apply, Machine.doRange_paused, if_pos rfl]
    rw [indices_self]
    exact hcall.trans ((hb _ (hP.push_mem hD start)).2 E)
  | succ n ih =>
    have hne : start ≠ stop := by
      rintro rfl
      omega
    have hfit : d.overhead + b.points ≤ config.maxPoints := hfit.resolve_left hne
    let again := rangeProgram d (toward start stop) stop b
    have hadmits : D.admits again = true := by
      rw [Machine.admits_rangeProgram, hP.settings D hD]
      exact decide_eq_true hfit
    have hcall : (((D.push .integer start).push .integer stop).offering d b).Leads
        (a :: d.pending b E) (D.push .integer start) (b :: .program again :: E) :=
      .call (Machine.calls_offering _ d b ha) rfl fun n => by
        rw [LoopOp.apply, Machine.doRange_paused, if_neg hne, if_pos hadmits]
    obtain ⟨hF, hbody⟩ := hb _ (hP.push_mem hD start)
    obtain ⟨a', ha', hturn⟩ := hP.leads_turn hF d (toward start stop) stop b E
    have hdistance : (stop.toInt - (toward start stop).toInt).natAbs = n := by
      rw [toInt_toward hne]
      split <;> omega
    have hrest := ih (.inr hfit) hF ha' hdistance
    rw [indices_of_ne hne]
    exact ((hcall.trans (hbody _)).trans hturn).trans hrest

theorem SupportsLoops.leads_counted (hP : SupportsLoops P config) (wrap : Atom → Atom)
    (hb : Returns P (wrap b) F) (d : Domain) {count : Int64} (hpos : 0 < count)
    (hfit : d.overhead + (wrap b).points ≤ config.maxPoints) (hD : D ∈ P) (E : List Atom)
    {a : Atom} {op : LoopOp} (ha : D.Calls a (.loop d op))
    (hop : ∀ m : Machine χ, op.apply d m = doCounted d wrap m) :
    ((D.push .integer count).offering d b).Leads (a :: d.pending b E)
      (forEach F (indices 0 (count - 1)) D) E := by
  have hadmits : D.admits (rangeProgram d 0 (count - 1) (wrap b)) = true := by
    rw [Machine.admits_rangeProgram, hP.settings D hD]
    exact decide_eq_true hfit
  have hcall : ((D.push .integer count).offering d b).Leads (a :: d.pending b E) D
      (.program (rangeProgram d 0 (count - 1) (wrap b)) :: E) :=
    .call (Machine.calls_offering _ d b ha) rfl fun n => by
      rw [hop, Machine.doCounted_paused, if_pos ⟨hpos, hadmits⟩]
  obtain ⟨a', ha', hturn⟩ := hP.leads_turn hD d 0 (count - 1) (wrap b) E
  exact (hcall.trans hturn).trans (hP.leads_range hb d (.inr hfit) hD E ha')

theorem SupportsLoops.leads_uncounted (hP : SupportsLoops P config) (wrap : Atom → Atom)
    (hb : Returns P b F) (d : Domain) {count : Int64}
    (h : ¬ (0 < count ∧ d.overhead + (wrap b).points ≤ config.maxPoints)) (hD : D ∈ P)
    (E : List Atom) {a : Atom} {op : LoopOp} (ha : D.Calls a (.loop d op))
    (hop : ∀ m : Machine χ, op.apply d m = doCounted d wrap m) :
    ((D.push .integer count).offering d b).Leads (a :: d.pending b E)
      (d.declined F b (D.push .integer count)) E := by
  have hcall : ((D.push .integer count).offering d b).Leads (a :: d.pending b E)
      ((D.push .integer count).offering d b) (d.pending b E) :=
    .call (Machine.calls_offering _ d b ha) rfl fun n => by
      rw [hop, Machine.doCounted_paused, if_neg]
      rwa [Machine.admits_rangeProgram, hP.settings D hD, decide_eq_true_iff]
  exact hcall.trans (Machine.leads_declined hb (hP.push_mem hD count) d E)

theorem SupportsLoops.leads_unranged (hP : SupportsLoops P config) (hb : Returns P b F)
    (d : Domain) {start stop : Int64}
    (h : ¬ (start = stop ∨ d.overhead + b.points ≤ config.maxPoints)) (hD : D ∈ P)
    (E : List Atom) {a : Atom} (ha : D.Calls a (.loop d .range)) :
    (((D.push .integer start).push .integer stop).offering d b).Leads (a :: d.pending b E)
      (d.declined F b ((D.push .integer start).push .integer stop)) E := by
  obtain ⟨hne, hlarge⟩ := not_or.mp h
  have hcall : (((D.push .integer start).push .integer stop).offering d b).Leads
      (a :: d.pending b E) (((D.push .integer start).push .integer stop).offering d b)
      (d.pending b E) :=
    .call (Machine.calls_offering _ d b ha) rfl fun n => by
      rw [LoopOp.apply, Machine.doRange_paused, if_neg hne, if_neg]
      rwa [Machine.admits_rangeProgram, hP.settings D hD, decide_eq_true_iff]
  have hoperands := hP.push_mem (hP.push_mem hD start) stop
  exact hcall.trans (Machine.leads_declined hb hoperands d E)

theorem SupportsLoops.returns_pop (hP : SupportsLoops P config) (hb : Returns P b F) :
    Returns P (.program [.name "integer.pop", b]) fun D => F (D.drop .integer) := by
  intro D hD
  have hpop : D.Calls (.name "integer.pop") (.stack ⟨.integer, by decide⟩ .pop) :=
    hP.helper D hD _ (by simp [loopHelpers]) _ (by decide +kernel) (by decide +kernel)
  obtain ⟨hF, hbody⟩ := hb (D.drop .integer) (hP.integers D hD _)
  refine ⟨hF, fun E => ?_⟩
  have hcall : D.Leads (.name "integer.pop" :: b :: E) (D.drop .integer) (b :: E) :=
    .call hpop rfl fun n => Machine.drop_paused D (b :: E) n (by decide)
  exact (Machine.Leads.program D _ E).trans (hcall.trans (hbody E))

end

theorem forEach_drop (F : Machine χ → Machine χ) (is : List Int64) (D : Machine χ) :
    forEach (fun D => F (D.drop .integer)) is D = F^[is.length] D := by
  induction is generalizing D with
  | nil => rfl
  | cons i is ih =>
    rw [List.length_cons, Function.iterate_succ_apply, ← ih (F D)]
    simp only [forEach, List.foldl_cons, Machine.drop_push]

theorem length_indices_below {count : Int64} (h : 0 < count) :
    (indices 0 (count - 1)).length = count.toInt.toNat := by
  have hpos : 0 < count.toInt := Int64.lt_iff_toInt_lt.mp h
  have hpred : (count - 1).toInt = count.toInt - 1 := by
    have htoward := toInt_toward (Int64.ne_of_lt h).symm
    rwa [toward, if_neg (Int64.lt_asymm h), if_neg (by simpa using hpos)] at htoward
  rw [length_indices, hpred, Int64.toInt_zero]
  omega

/-- Loops have the meaning of loops over integers, for each place to find the body and whatever the
code behind them is. A loop whose program would be too large is not begun, and neither is one
without a positive count. -/
theorem loops_repeat_body [Host χ] {P : Set (Machine χ)} {config : Config}
    (hP : SupportsLoops P config) {b : Atom} {F : Machine χ → Machine χ} (hb : Returns P b F)
    (d : Domain) {D : Machine χ} (hD : D ∈ P) (E : List Atom) (a : Atom) :
    (D.Calls a (.loop d .range) → ∀ start stop,
      (((D.push .integer start).push .integer stop).offering d b).Leads (a :: d.pending b E)
        (if start = stop ∨ d.overhead + b.points ≤ config.maxPoints then
          forEach F (indices start stop) D
        else d.declined F b ((D.push .integer start).push .integer stop)) E) ∧
    (D.Calls a (.loop d .count) → ∀ count,
      ((D.push .integer count).offering d b).Leads (a :: d.pending b E)
        (if 0 < count ∧ d.overhead + b.points ≤ config.maxPoints then
          forEach F (indices 0 (count - 1)) D
        else d.declined F b (D.push .integer count)) E) ∧
    (D.Calls a (.loop d .times) → ∀ count,
      ((D.push .integer count).offering d b).Leads (a :: d.pending b E)
        (if 0 < count ∧ d.overhead + (2 + b.points) ≤ config.maxPoints then
          F^[count.toInt.toNat] D
        else d.declined F b (D.push .integer count)) E) := by
  refine ⟨fun ha start stop => ?_, fun ha count => ?_, fun ha count => ?_⟩
  · split
    · exact hP.leads_range hb d ‹_› hD E ha
    · exact hP.leads_unranged hb d ‹_› hD E ha
  · split
    · rename_i h
      exact hP.leads_counted id hb d h.1 h.2 hD E ha fun _ => rfl
    · exact hP.leads_uncounted id hb d ‹_› hD E ha fun _ => rfl
  · let wrap : Atom → Atom := fun b => .program [.name "integer.pop", b]
    have hpoints : (wrap b).points = 2 + b.points := by
      simp [wrap, Atom.points]
      omega
    rw [← hpoints]
    split
    · rename_i h
      rw [← length_indices_below h.1, ← forEach_drop]
      exact hP.leads_counted wrap (hP.returns_pop hb) d h.1 h.2 hD E ha fun _ => rfl
    · exact hP.leads_uncounted wrap hb d ‹_› hD E ha fun _ => rfl

/-- A new machine supports loops, whatever is on its stacks, and can run the body that doubles the
top integer. -/
theorem loops_repeat_body_new :
    let m : Machine Scripted := .new {} (.script [])
    let dup := fun D : Machine Scripted => D.setStack .integer (D.stack .integer).dup
    SupportsLoops m.restocked {} ∧ Returns m.restocked (.name "integer.dup") dup ∧
      Machine.Leads ((m.push .integer 3).push .integer 1)
        [.name "exec.do*range", .name "integer.dup"] (forEach dup [3, 2, 1] m) [] := by
  intro m dup
  have hunique : ∀ name ∈ "integer.dup" :: loopHelpers, ∀ b ∈ Builtin.all, b.name = name →
      ∀ c ∈ Builtin.all, c.name = name → c = b := by
    decide +kernel
  have hcalls : ∀ name ∈ "integer.dup" :: loopHelpers, ∀ b ∈ Builtin.all, b.name = name →
      m.Calls (.name name) b :=
    fun name hname b hb heq => Machine.calls_new {} _ ⟨hb, heq⟩ (hunique name hname b hb heq)
  have hsupports : SupportsLoops m.restocked {} :=
    supportsLoops_restocked fun name hname => hcalls name (List.mem_cons_of_mem _ hname)
  have hreturns : Returns m.restocked (.name "integer.dup") dup := by
    intro D hD
    have hdup : m.Calls (.name "integer.dup") (.stack ⟨.integer, by decide⟩ .dup) :=
      hcalls _ List.mem_cons_self _ (by decide +kernel) (by decide +kernel)
    exact ⟨hsupports.integers D hD _, fun E => .call (hdup.restocked hD) rfl fun _ => rfl⟩
  refine ⟨hsupports, hreturns, ?_⟩
  have hloop : m.Calls (.name "exec.do*range") (.loop .exec .range) :=
    hsupports.helper m m.mem_restocked _ (by simp [loopHelpers]) _ (by decide +kernel)
      (by decide +kernel)
  have hrange := (loops_repeat_body hsupports hreturns .exec m.mem_restocked [] _).1 hloop 3 1
  rw [if_pos (.inr (by decide))] at hrange
  have hindices : indices 3 1 = [3, 2, 1] := by decide
  rwa [hindices] at hrange

end PushLang
