import PushLang.Proofs.Machine.Operands
import PushLang.Proofs.Machine.Passes
import PushLang.Proofs.Machine.Reference
import PushLang.Proofs.Machine.Safety

namespace PushLang

variable {χ : Type}

namespace Machine

/-- The binding that defining makes: the name on top of the name stack for the value on top of the
stack of the kind. -/
def binding? (m : Machine χ) (k : Kind) : Option (String × Constant) :=
  match (m.stack .name).top?, (m.stack k).top? with
  | some s, some v => some (s, ⟨k, v⟩)
  | _, _ => none

end Machine

def Operation.record (op : Operation χ) (m : Machine χ) : List (String × Constant) :=
  match op with
  | .builtin (.define k) => (m.binding? k).toList
  | _ => []

def Machine.recordOf (a : Atom) (m : Machine χ) : List (String × Constant) :=
  match m.meaning? a with
  | some op => op.record m
  | none => []

/-- What happens to a machine: the embedding program asks something of it, or puts other items on
the stacks. -/
inductive Event (χ : Type) where
  | request (r : Request χ)
  | restock (contents : Stacks)

/-- The event brings in no host instruction, and is no other work on the machine. -/
def Event.IsNative : Event χ → Prop
  | .request (.edit (.define _ op)) => ∀ x, op ≠ .host x
  | .request (.edit (.work _)) => False
  | _ => True

section

variable [Host χ]

/-- The bindings that a run of the pending code makes, in order. -/
def Machine.stepRecord : Nat → Machine χ → List (String × Constant)
  | 0, _ => []
  | budget + 1, m =>
    match m.next? with
    | none => []
    | some (a, m) =>
      m.recordOf a ++
        match dispatch a m with
        | (m, .ok ()) => stepRecord budget m
        | (_, .error _) => []

namespace Event

def perform : Event χ → Machine χ → Machine χ
  | .request r, m => r.perform m
  | .restock contents, m => { m with contents }

/-- Only running programs makes bindings. -/
def record : Event χ → Machine χ → List (String × Constant)
  | .request (.run p budget), m => (m.loadProgram p).stepRecord budget
  | .request (.resume budget), m => m.stepRecord budget
  | _, _ => []

end Event

namespace Machine

def through (m : Machine χ) (es : List (Event χ)) : Machine χ :=
  es.foldl (fun m e => e.perform m) m

/-- The bindings that are made in a row of events, in order. -/
def record : Machine χ → List (Event χ) → List (String × Constant)
  | _, [] => []
  | m, e :: es => e.record m ++ record (e.perform m) es

theorem record_append (m : Machine χ) (es fs : List (Event χ)) :
    m.record (es ++ fs) = m.record es ++ (m.through es).record fs := by
  induction es generalizing m with
  | nil => rfl
  | cons e es ih => rw [List.cons_append, record, record, ih, List.append_assoc]; rfl

end Machine

end

section

variable {m : Machine χ} {k : Kind} {s : String} {names : List String}

theorem bindTop_of_name_nil (h : (m.stack .name).down = []) (k : Kind) :
    bindTop k m = (m, .ok ()) := by
  simp only [bindTop, Effect.always, Machine.take_of_nil h]

theorem bindTop_of_nil (hk : k ≠ .name) (hname : (m.stack .name).down = s :: names)
    (h : (m.stack k).down = []) : bindTop k m = (m.setStack .name ⟨names⟩, .ok ()) := by
  have hleft : ((m.setStack .name ⟨names⟩).stack k).down = [] := by
    rw [Machine.stack_setStack_of_ne m hk, h]
  simp only [bindTop, Effect.always, Machine.take_of_down hname, Bool.false_eq_true, ↓reduceIte,
    Machine.take_of_nil hleft]

theorem bindTop_of_cons (hk : k ≠ .name) (hname : (m.stack .name).down = s :: names) {v : k.Item}
    {rest : List k.Item} (h : (m.stack k).down = v :: rest) :
    bindTop k m =
      (((m.setStack .name ⟨names⟩).setStack k ⟨rest⟩).bind s ⟨k, v⟩, .ok ()) := by
  have hleft : ((m.setStack .name ⟨names⟩).stack k).down = v :: rest := by
    rw [Machine.stack_setStack_of_ne m hk, h]
  simp only [bindTop, Effect.always, Machine.take_of_down hname, Bool.false_eq_true, ↓reduceIte,
    Machine.take_of_down hleft]

theorem bindings_bindTop (hk : k ≠ .name) (m : Machine χ) :
    (bindTop k m).1.bindings = m.bindings.insertMany (m.binding? k).toList := by
  rcases hname : (m.stack .name).down with _ | ⟨s, names⟩
  · rw [bindTop_of_name_nil hname]
    simp [Machine.binding?, Stack.top?, hname]
  · rcases hvalue : (m.stack k).down with _ | ⟨v, rest⟩
    · rw [bindTop_of_nil hk hname hvalue]
      simp [Machine.binding?, Stack.top?, hname, hvalue, Machine.setStack]
    · rw [bindTop_of_cons hk hname hvalue]
      simp [Machine.binding?, Stack.top?, hname, hvalue, Machine.setStack, Machine.bind]

end

theorem Operation.bindings_run_eq [Host χ] {op : Operation χ} (h : ∀ x, op ≠ .host x)
    {m : Machine χ} (hm : m.OwnsPusher) :
    (op.run m).1.bindings = m.bindings.insertMany (op.record m) := by
  by_cases hdefine : ∃ k, op = .builtin (.define k)
  · obtain ⟨k, rfl⟩ := hdefine
    exact bindings_bindTop k.2.2 m
  · have hnot : ∀ k, op ≠ .builtin (.define k) := fun k hk => hdefine ⟨k, hk⟩
    obtain ⟨P, hP⟩ := op.exists_parts h
    have hrecord : op.record m = [] := by
      unfold record
      split
      · rename_i k
        exact absurd rfl (hnot k)
      · rfl
    rw [op.bindings_run hP hm (bindings_not_mem_parts hP hnot), hrecord,
      Std.ExtTreeMap.insertMany_nil]

namespace Machine

/-- Nothing that the host adds was ever registered. -/
structure LacksHost (m : Machine χ) : Prop where
  operations : ∀ op ∈ m.operations, ∀ x, op ≠ .host x
  pusher : m.OwnsPusher

theorem LacksHost.congr {m m' : Machine χ} (h : m.LacksHost)
    (hoperations : m'.operations = m.operations) (hpusher : m'.pusher = m.pusher) :
    m'.LacksHost := by
  refine ⟨?_, ?_⟩
  · rw [hoperations]
    exact h.operations
  · rw [OwnsPusher, hpusher]
    exact h.pusher

/-- The machine `m'` has no host instructions, and its bindings are those of `m` and the ones
recorded since. -/
structure Binds (m : Machine χ) (record : List (String × Constant)) (m' : Machine χ) : Prop where
  lacksHost : m'.LacksHost
  bindings : m'.bindings = m.bindings.insertMany record

namespace Binds

variable {m m' m'' : Machine χ} {record record' : List (String × Constant)}

theorem of_eq (h : m'.LacksHost) (hbindings : m'.bindings = m.bindings) : m.Binds [] m' :=
  ⟨h, by rw [hbindings, Std.ExtTreeMap.insertMany_nil]⟩

theorem refl (h : m.LacksHost) : m.Binds [] m := of_eq h rfl

theorem trans (h : m.Binds record m') (h' : m'.Binds record' m'') :
    m.Binds (record ++ record') m'' :=
  ⟨h'.lacksHost, by rw [h'.bindings, h.bindings, Std.ExtTreeMap.insertMany_append]⟩

theorem with_active (h : m.Binds record m') (active : NameMap Random.Generator) :
    m.Binds record { m' with active } := ⟨h.lacksHost.congr rfl rfl, h.bindings⟩

theorem eachOf [Host χ] (h : m.Binds record m')
    (active : (String → Bool) → Machine χ → NameMap Random.Generator) (patterns : List String) :
    m.Binds record
      (eachOf (withPattern fun found m => { m with active := active found m }) patterns m').1 := by
  refine eachOf_induction (fun _ _ hm => ?_) patterns h
  exact withPattern_induction (P := m.Binds record) (fun found => hm.with_active _) hm

end Binds

namespace LacksHost

variable {m m' : Machine χ} {a : Atom}

theorem define (h : m.LacksHost) (name : String) {op : Operation χ} (hop : ∀ x, op ≠ .host x) :
    (m.define name op).LacksHost := by
  refine ⟨fun op' hop' => ?_, h.pusher⟩
  rcases Array.mem_push.mp hop' with hop' | rfl
  · exact h.operations op' hop'
  · exact hop

theorem meaning? (h : m.LacksHost) {op : Operation χ} (hop : m.meaning? a = some op) (x : χ) :
    op ≠ .host x := by
  have hregistered : ∀ g : Handle, m.operations[g.serial]? = some op → op ≠ .host x :=
    fun g hg => h.operations op (Array.mem_of_getElem? hg) x
  cases a with
  | integer n | float y | boolean b =>
    cases hop
    rintro ⟨⟩
  | name s =>
    simp only [Machine.meaning?] at hop
    split at hop
    · cases hop
      rintro ⟨⟩
    · split at hop
      · exact hregistered _ hop
      · cases hop
        rintro ⟨⟩
  | instruction g => exact hregistered g hop
  | program p => cases hop

theorem binds_next? (h : m.LacksHost) (hnext : m.next? = some (a, m')) : m.Binds [] m' := by
  obtain ⟨E, -, rfl⟩ := exists_of_next? hnext
  exact .of_eq (h.congr rfl rfl) rfl

theorem binds_edit [Host χ] (h : m.LacksHost) {e : Edit χ}
    (he : (Event.request (.edit e)).IsNative) : m.Binds [] (e.apply m).1 := by
  cases e with
  | define name op => exact .of_eq (h.define name he) rfl
  | load => exact .of_eq (h.congr rfl rfl) rfl
  | set patterns =>
    have hloaded : m.Binds [] { m.load with active := ∅ } := .of_eq (h.congr rfl rfl) rfl
    exact hloaded.eachOf _ patterns
  | add patterns => exact Binds.eachOf (.refl h) _ patterns
  | remove patterns => exact Binds.eachOf (.refl h) _ patterns
  | list entries =>
    refine setInstructionList_induction (P := m.Binds []) (fun name m' hm' => ?_)
      (fun index m' hm' => ?_) entries (.of_eq (h.congr rfl rfl) rfl)
    · unfold activate
      split
      · exact hm'.with_active _
      · exact hm'
    · exact ⟨hm'.lacksHost.define _ nofun, hm'.bindings⟩
  | work w => exact he.elim

variable [Host χ]

theorem binds_run (h : m.LacksHost) {op : Operation χ} (hop : ∀ x, op ≠ .host x) :
    (op.run m).2 = .ok () ∧ m.Binds (op.record m) (op.run m).1 := by
  obtain ⟨P, hP⟩ := op.exists_parts hop
  obtain ⟨hok, hoperations, -, hpusher⟩ := op.run_registry hP h.pusher
  exact ⟨hok, h.congr hoperations hpusher, op.bindings_run_eq hop h.pusher⟩

theorem binds_dispatch (h : m.LacksHost) (a : Atom) :
    (dispatch a m).2 = .ok () ∧ m.Binds (recordOf a m) (dispatch a m).1 := by
  rcases hmeaning : m.meaning? a with _ | op
  · rw [recordOf, hmeaning]
    rcases dispatch_of_meaning?_none hmeaning with ⟨p, rfl⟩ | hdispatch
    · exact ⟨rfl, .of_eq (h.congr rfl rfl) rfl⟩
    · rw [hdispatch]
      exact ⟨rfl, .refl h⟩
  · rw [recordOf, hmeaning, dispatch_of_meaning? hmeaning]
    exact h.binds_run (h.meaning? hmeaning)

/-- The record of a run grows by what each atom binds. -/
theorem binds_stepsFrom (h : m.LacksHost) (done budget : Nat) :
    m.Binds (m.stepRecord budget) (stepsFrom done budget m).1 := by
  induction budget generalizing done m with
  | zero => exact .refl h
  | succ budget ih =>
    rw [stepsFrom, stepRecord]
    rcases hnext : m.next? with _ | ⟨a, m₁⟩
    · exact .refl h
    · have htaken := h.binds_next? hnext
      obtain ⟨hok, hcarried⟩ := htaken.lacksHost.binds_dispatch a
      rcases hdispatch : dispatch a m₁ with ⟨m₂, result⟩
      rw [hdispatch] at hok hcarried
      dsimp only at hok hcarried
      subst hok
      simp only [hdispatch]
      exact (htaken.trans hcarried).trans (ih hcarried.lacksHost (done + 1))

theorem binds_event (h : m.LacksHost) {e : Event χ} (he : e.IsNative) :
    m.Binds (e.record m) (e.perform m) := by
  cases e with
  | restock contents => exact .of_eq (h.congr rfl rfl) rfl
  | request r =>
    cases r with
    | edit e => exact h.binds_edit he
    | clear | configure config => exact .of_eq (h.congr rfl rfl) rfl
    | run p budget =>
      have hloaded : m.Binds [] (m.loadProgram p) := .of_eq (h.congr rfl rfl) rfl
      exact hloaded.trans (hloaded.lacksHost.binds_stepsFrom 0 budget)
    | resume budget => exact h.binds_stepsFrom 0 budget

theorem binds_through (h : m.LacksHost) {es : List (Event χ)} (hes : ∀ e ∈ es, e.IsNative) :
    m.Binds (m.record es) (m.through es) := by
  induction es generalizing m with
  | nil => exact .refl h
  | cons e es ih =>
    obtain ⟨he, hes⟩ := List.forall_mem_cons.mp hes
    have hperformed := h.binds_event he
    exact hperformed.trans (ih hperformed.lacksHost hes)

end LacksHost

theorem lacksHost_new (config : Config) (fresh : Random.Source) :
    (new config fresh : Machine χ).LacksHost where
  operations op hop x := by
    rintro rfl
    exact operations_new config fresh _ hop
  pusher := ownsPusher_new config fresh

theorem bindings_new (config : Config) (fresh : Random.Source) :
    (new config fresh : Machine χ).bindings = ∅ :=
  new_induction (P := fun m => m.bindings = ∅) config fresh rfl (fun _ _ h => h) fun _ _ h => h

section

variable {m : Machine χ} {record : List (String × Constant)}

theorem isBound_iff_of_bindings (h : m.bindings = (∅ : NameMap Constant).insertMany record)
    (s : String) : m.isBound s ↔ ∃ c, (s, c) ∈ record := by
  rw [isBound, ← Std.ExtTreeMap.mem_iff_contains, h, Std.ExtTreeMap.mem_insertMany_list,
    List.contains_iff_mem, List.mem_map]
  constructor
  · rintro (hs | ⟨⟨_, c⟩, hc, rfl⟩)
    · exact absurd hs Std.ExtTreeMap.not_mem_empty
    · exact ⟨c, hc⟩
  · rintro ⟨c, hc⟩
    exact .inr ⟨(s, c), hc, rfl⟩

theorem getElem?_of_bindings {t : NameMap Constant} (h : m.bindings = t.insertMany record)
    {before after : List (String × Constant)} {s : String} {c : Constant}
    (hrecord : record = before ++ (s, c) :: after) (hlast : ∀ c', (s, c') ∉ after) :
    m.bindings[s]? = some c := by
  have hafter : (after.map Prod.fst).contains s = false := by
    refine Bool.eq_false_iff.mpr fun hs => ?_
    obtain ⟨⟨_, c'⟩, hc', rfl⟩ := List.mem_map.mp (List.contains_iff_mem.mp hs)
    exact hlast c' hc'
  rw [h, hrecord, Std.ExtTreeMap.insertMany_append, Std.ExtTreeMap.insertMany_cons,
    Std.ExtTreeMap.getElem?_insertMany_list_of_contains_eq_false hafter,
    Std.ExtTreeMap.getElem?_insert_self]

end

/-- After all that may happen to a new machine, a name is bound if a defining instruction bound it,
to the value it was last bound to, and it stays bound. What kinds of values it had before does not
matter, nor whether an instruction has the name. Defining takes a name and a value, but a name alone
if there is no value, and nothing without a name. -/
theorem bindings_are_permanent [Host χ] (config : Config) (fresh : Random.Source)
    (es : List (Event χ)) (hes : ∀ e ∈ es, e.IsNative) :
    let start : Machine χ := new config fresh
    (∀ s, (start.through es).isBound s ↔ ∃ c, (s, c) ∈ start.record es) ∧
    (∀ fs : List (Event χ), (∀ e ∈ fs, e.IsNative) → ∀ s,
      (start.through es).isBound s → (start.through (es ++ fs)).isBound s) ∧
    (∀ before s c after, start.record es = before ++ (s, c) :: after → (∀ c', (s, c') ∉ after) →
      dispatch (.name s) (start.through es) =
        ((start.through es).push c.kind c.value, .ok ())) ∧
    ∀ (k : Kind.Bindable) (m : Machine χ),
      ((m.stack .name).down = [] → (Builtin.define k).run m = (m, .ok ())) ∧
      ∀ s names, (m.stack .name).down = s :: names →
        ((m.stack k).down = [] →
          (Builtin.define k).run m = (m.setStack .name ⟨names⟩, .ok ())) ∧
        ∀ v rest, (m.stack k).down = v :: rest →
          (Builtin.define k).run m =
            (((m.setStack .name ⟨names⟩).setStack k ⟨rest⟩).bind s ⟨k, v⟩, .ok ()) := by
  intro start
  have hbindings : ∀ es : List (Event χ), (∀ e ∈ es, e.IsNative) →
      (start.through es).bindings = (∅ : NameMap Constant).insertMany (start.record es) := by
    intro es hes
    rw [← bindings_new (χ := χ) config fresh]
    exact ((lacksHost_new config fresh).binds_through hes).bindings
  refine ⟨isBound_iff_of_bindings (hbindings es hes), fun fs hfs s hs => ?_,
    fun before s c after hrecord hlast => ?_, fun k m => ⟨fun h => bindTop_of_name_nil h k,
      fun s names hname => ⟨bindTop_of_nil k.2.2 hname, fun v rest => bindTop_of_cons k.2.2 hname⟩⟩⟩
  · obtain ⟨c, hc⟩ := (isBound_iff_of_bindings (hbindings es hes) s).mp hs
    refine (isBound_iff_of_bindings (hbindings (es ++ fs) ?_) s).mpr ⟨c, ?_⟩
    · exact fun e he => (List.mem_append.mp he).elim (hes e) (hfs e)
    · rw [record_append]
      exact List.mem_append_left _ hc
  · have hbound := getElem?_of_bindings (hbindings es hes) hrecord hlast
    simp only [dispatch, resolve, hbound]

/-- A name that is bound to a truth value, becomes the name of an input, and is bound to an integer;
then the name of the defining instruction is that of a constant, and nothing more gets bound. -/
theorem bindings_are_permanent_rebound :
    let es : List (Event Scripted) :=
      [.request (.run [.name "x", .boolean true, .name "boolean.define"] 9),
       .request (.edit (.define "x" (.input 0))),
       .request .clear,
       .restock { input := ⟨[.integer 3]⟩ },
       .request (.run [.name "name.quote", .name "x", .integer 7, .name "integer.define"] 9),
       .request (.edit (.define "integer.define" (.constant ⟨.integer, 1⟩))),
       .request (.run [.name "y", .integer 8, .name "integer.define"] 9)]
    let m : Machine Scripted := (new {} (.script [])).through es
    (∀ e ∈ es, e.IsNative) ∧ m.isBound "x" ∧ ¬ m.isBound "y" ∧
      dispatch (.name "x") m = (m.push .integer 7, .ok ()) := by
  intro es m
  have hes : ∀ e ∈ es, e.IsNative := by
    simp only [es, List.forall_mem_cons, Event.IsNative]
    exact ⟨trivial, nofun, trivial, trivial, trivial, nofun, trivial, List.forall_mem_nil _⟩
  let integer? : Constant → Option Int64
    | ⟨.integer, n⟩ => some n
    | _ => none
  have hrecord : ((new {} (.script []) : Machine Scripted).record es).map
      (fun e => (e.1, integer? e.2)) = [("x", none), ("x", some 7)] := by decide +kernel
  obtain ⟨⟨s, c⟩, rest, hcons, hfirst, hrest⟩ := List.map_eq_cons_iff.mp hrecord
  obtain ⟨⟨s', c'⟩, rest, rfl, hsecond, hnil⟩ := List.map_eq_cons_iff.mp hrest
  obtain rfl := List.map_eq_nil_iff.mp hnil
  obtain ⟨rfl, -⟩ := Prod.mk.inj hfirst
  obtain ⟨rfl, hvalue⟩ := Prod.mk.inj hsecond
  obtain rfl : c' = ⟨.integer, 7⟩ := by
    rcases c' with ⟨k, v⟩
    cases k with
    | integer => rw [Option.some.inj hvalue]
    | float | boolean | name | code | exec | input => cases hvalue
  obtain ⟨hbound, -, hlast, -⟩ := bindings_are_permanent {} (.script []) es hes
  refine ⟨hes, (hbound "x").mpr ⟨c, ?_⟩, fun hy => ?_, ?_⟩
  · rw [hcons]
    exact List.mem_cons_self
  · obtain ⟨c, hc⟩ := (hbound "y").mp hy
    rw [hcons] at hc
    simp at hc
  · exact hlast [("x", c)] "x" ⟨.integer, 7⟩ [] hcons fun _ => List.not_mem_nil

end Machine

end PushLang
