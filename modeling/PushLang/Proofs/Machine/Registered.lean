import PushLang.Proofs.Machine.Passes
import PushLang.Proofs.Machine.RandomCode

namespace PushLang

open PushLang.Random

variable {χ : Type}

/-- Every entry of the table generates the registered instruction that its name stands for, or the
literal of that name. -/
def NameMap.Refers (table : NameMap Generator) (instructions : NameMap Handle) : Prop :=
  ∀ (name : String) (g : Generator), table[name]? = some g →
    g = .instruction name ∧ name ∈ instructions ∨ (name, g) ∈ Machine.literals

namespace NameMap.Refers

variable {t u : NameMap Generator} {i j : NameMap Handle}

theorem empty : Refers (∅ : NameMap Generator) i :=
  fun name g h => absurd h (Machine.getElem?_empty_ne_some name g)

theorem mono (h : t.Refers i) (hij : ∀ name, name ∈ i → name ∈ j) : t.Refers j := by
  intro name g hg
  exact (h name g hg).imp_left fun ⟨hg, hname⟩ => ⟨hg, hij name hname⟩

theorem filter (h : t.Refers i) (f : String → Generator → Bool) :
    Refers (t.filter f) i := by
  intro name g hg
  rw [Std.ExtTreeMap.getElem?_filter', Option.filter_eq_some_iff] at hg
  exact h name g hg.1

theorem union (ht : t.Refers i) (hu : u.Refers i) : Refers (t ∪ u) i := by
  intro name g hg
  rw [Std.ExtTreeMap.getElem?_union, Option.or_eq_some_iff] at hg
  rcases hg with hg | ⟨-, hg⟩
  · exact hu name g hg
  · exact ht name g hg

theorem insert (h : t.Refers i) {name : String} {g : Generator}
    (hg : g = .instruction name ∧ name ∈ i ∨ (name, g) ∈ Machine.literals) :
    Refers (t.insert name g) i := by
  intro name' g' hg'
  rw [Std.ExtTreeMap.getElem?_insert] at hg'
  split at hg'
  · rename_i heq
    obtain rfl := Std.LawfulEqCmp.eq_of_compare heq
    cases hg'
    exact hg
  · exact h name' g' hg'

theorem insertMany (h : t.Refers i) {l : List (String × Generator)} (hl : l ⊆ Machine.literals) :
    Refers (t.insertMany l) i := by
  induction l generalizing t with
  | nil => rwa [Std.ExtTreeMap.insertMany_nil]
  | cons e l ih =>
    obtain ⟨he, hl⟩ := List.cons_subset.mp hl
    rw [Std.ExtTreeMap.insertMany_cons]
    exact ih (h.insert (.inr he)) hl

end NameMap.Refers

namespace Machine

/-- All entries of the three tables of generators refer to registered instructions or are literals,
and every registered instruction has a generator. -/
structure IsRegistered (m : Machine χ) : Prop where
  generators : m.generators.Refers m.instructions
  available : m.available.Refers m.instructions
  active : m.active.Refers m.instructions
  covered : ∀ name, name ∈ m.instructions → name ∈ m.generators

/-- Besides, the literals of every kind have generators. -/
structure IsStocked (m : Machine χ) : Prop extends m.IsRegistered where
  literal : ∀ k, ∀ name ∈ literalsOf k, name ∈ m.generators

theorem mem_instructions_define {m : Machine χ} {name : String} {op : Operation χ} {s : String} :
    s ∈ (m.define name op).instructions ↔ s = name ∨ s ∈ m.instructions := by
  rw [show (m.define name op).instructions = m.instructions.insert name ⟨m.operations.size, name⟩
    from rfl, Std.ExtTreeMap.mem_insert, Std.LawfulEqCmp.compare_eq_iff_eq, eq_comm]

theorem mem_instructions_define_of_mem {m : Machine χ} {s : String} (h : s ∈ m.instructions)
    (name : String) (op : Operation χ) : s ∈ (m.define name op).instructions :=
  mem_instructions_define.mpr (.inr h)

theorem getElem?_generators_define (m : Machine χ) (name : String) (op : Operation χ) (s : String) :
    (m.define name op).generators[s]? =
      if s = name then some (.instruction s) else m.generators[s]? := by
  rw [show (m.define name op).generators = m.generators.insert name (.instruction name) from rfl,
    Std.ExtTreeMap.getElem?_insert]
  simp only [Std.LawfulEqCmp.compare_eq_iff_eq]
  by_cases h : name = s
  · rw [if_pos h, if_pos h.symm, h]
  · rw [if_neg h, if_neg fun hs => h hs.symm]

theorem mem_generators_define {m : Machine χ} {name : String} {op : Operation χ} {s : String} :
    s ∈ (m.define name op).generators ↔ s = name ∨ s ∈ m.generators := by
  rw [Std.ExtTreeMap.mem_iff_isSome_getElem?, getElem?_generators_define,
    Std.ExtTreeMap.mem_iff_isSome_getElem?]
  by_cases h : s = name <;> simp [h]

namespace IsRegistered

variable {m : Machine χ}

theorem define (h : m.IsRegistered) (name : String) (op : Operation χ) :
    (m.define name op).IsRegistered where
  generators := by
    refine (h.generators.mono fun s hs => mem_instructions_define_of_mem hs name op).insert ?_
    exact .inl ⟨rfl, mem_instructions_define.mpr (.inl rfl)⟩
  available := h.available.mono fun s hs => mem_instructions_define_of_mem hs name op
  active := h.active.mono fun s hs => mem_instructions_define_of_mem hs name op
  covered s hs :=
    mem_generators_define.mpr ((mem_instructions_define.mp hs).imp_right (h.covered s))

theorem load (h : m.IsRegistered) : m.load.IsRegistered :=
  { h with available := h.generators }

theorem with_active (h : m.IsRegistered) {active : NameMap Generator}
    (hactive : active.Refers m.instructions) :
    ({ m with active } : Machine χ).IsRegistered :=
  { h with active := hactive }

theorem new (config : Config) (fresh : Source) :
    (Machine.new config fresh : Machine χ).IsRegistered := by
  have hdefined : ∀ (bs : List Builtin) (m : Machine χ), m.IsRegistered →
      (bs.foldl (fun m b => m.define b.name (.builtin b)) m).IsRegistered := by
    intro bs
    induction bs with
    | nil => exact fun m h => h
    | cons b bs ih => exact fun m h => ih _ (h.define b.name _)
  have hloaded : ∀ m : Machine χ, m.IsRegistered →
      { m with generators := m.generators.insertMany literals }.load.IsRegistered := by
    intro m h
    have hgenerators := h.generators.insertMany (l := literals) fun _ he => he
    exact ⟨hgenerators, hgenerators, h.active, fun name hname =>
      Std.ExtTreeMap.mem_insertMany_list.mpr (.inl (h.covered name hname))⟩
  unfold Machine.new
  apply hloaded
  apply hdefined
  exact ⟨.empty, .empty, .empty, fun name hname => absurd hname Std.ExtTreeMap.not_mem_empty⟩

end IsRegistered

namespace IsStocked

variable {m : Machine χ}

theorem define (h : m.IsStocked) (name : String) (op : Operation χ) :
    (m.define name op).IsStocked where
  toIsRegistered := h.toIsRegistered.define name op
  literal k s hs := mem_generators_define.mpr (.inr (h.literal k s hs))

theorem load (h : m.IsStocked) : m.load.IsStocked :=
  { h with toIsRegistered := h.toIsRegistered.load }

theorem with_active (h : m.IsStocked) {active : NameMap Generator}
    (hactive : active.Refers m.instructions) : ({ m with active } : Machine χ).IsStocked :=
  { h with toIsRegistered := h.toIsRegistered.with_active hactive }

theorem cleared (h : m.IsStocked) : ({ m with active := ∅ } : Machine χ).IsStocked :=
  h.with_active .empty

theorem activate (h : m.IsStocked) (name : String) : (activate name m).1.IsStocked := by
  unfold Machine.activate
  split
  · rename_i g hg
    exact h.with_active (h.active.insert (h.generators name g hg))
  · exact h

theorem addInstructions [Host χ] (h : m.IsStocked) (ts : List String) :
    (addInstructions ts m).1.IsStocked := by
  refine eachOf_induction (fun t m hm => ?_) ts h
  refine withPattern_induction (P := IsStocked) (fun a => ?_) hm
  exact hm.with_active (hm.active.union (hm.available.filter _))

theorem removeInstructions [Host χ] (h : m.IsStocked) (ts : List String) :
    (removeInstructions ts m).1.IsStocked := by
  refine eachOf_induction (fun t m hm => ?_) ts h
  refine withPattern_induction (P := IsStocked) (fun a => ?_) hm
  exact hm.with_active (hm.active.filter _)

theorem activateAtom (h : m.IsStocked) (a : Atom) : (activateAtom a m).1.IsStocked :=
  activateAtom_induction (fun name _ hm => hm.activate name)
    (fun index _ hm => hm.define (inputName index) _) a h

theorem setInstructionList (h : m.IsStocked) (list : Program) :
    (setInstructionList list m).1.IsStocked :=
  eachOf_induction (fun a _ hm => hm.activateAtom a) list h.cleared

theorem edit [Host χ] (h : m.IsStocked) (e : Edit χ) : (e.apply m).1.IsStocked := by
  cases e with
  | define name op => exact h.define name op
  | load => exact h.load
  | set ts => exact h.load.cleared.addInstructions ts
  | add ts => exact h.addInstructions ts
  | remove ts => exact h.removeInstructions ts
  | list entries => exact h.setInstructionList entries
  | work w => exact ⟨⟨h.generators, h.available, h.active, h.covered⟩, h.literal⟩

theorem new (config : Config) (fresh : Source) :
    (Machine.new config fresh : Machine χ).IsStocked := by
  let m : Machine χ := Machine.new config fresh
  have hregistered : m.IsRegistered := .new config fresh
  have hboolean : ∀ b : Bool, renderBool b ∈ m.generators := by
    intro b
    have hcalls : m.Calls (.name (renderBool b)) (.boolean (.literal b)) := by
      refine calls_new config fresh ?_ ?_
      · cases b <;> decide +kernel
      · cases b <;> decide +kernel
    obtain ⟨-, g, hg, -⟩ := hcalls
    refine hregistered.covered _ ?_
    rw [Std.ExtTreeMap.mem_iff_isSome_getElem?, hg]
    rfl
  refine ⟨hregistered, fun k name hname => ?_⟩
  have hliteral : ∀ g, (name, g) ∈ literals → name ∈ m.generators := by
    intro g hg
    refine Std.ExtTreeMap.mem_insertMany_list.mpr (.inr ?_)
    exact List.contains_iff_mem.mpr (List.mem_map_of_mem hg)
  cases k with
  | boolean =>
    rcases List.mem_pair.mp hname with rfl | rfl
    · exact hboolean true
    · exact hboolean false
  | integer =>
    obtain rfl := List.mem_singleton.mp hname
    exact hliteral .integer (by decide)
  | float =>
    obtain rfl := List.mem_singleton.mp hname
    exact hliteral .float (by decide)
  | name | code | exec | input => cases hname

variable [Host χ]

theorem served (account : Host.Account χ) (h : m.IsStocked) (rs : List (Request χ)) :
    (m.served rs).IsStocked := account.served_induction (fun e _ hm => hm.edit e) h rs

end IsStocked

theorem IsRegistered.instruction_of_mem_activeGenerators {m : Machine χ} (h : m.IsRegistered)
    {s : String} (hs : .instruction s ∈ m.activeGenerators) : s ∈ m.instructions := by
  obtain ⟨⟨name, g⟩, hmem, rfl⟩ := List.mem_map.mp hs
  rw [Std.ExtTreeMap.mem_toList_iff_getElem?_eq_some] at hmem
  rcases h.active name _ hmem with ⟨hg, hname⟩ | hliteral
  · cases hg
    exact hname
  · simp [literals] at hliteral

theorem IsRegistered.mem_instructions_of_randomCode {m m' : Machine χ} (h : m.IsRegistered)
    {size : Nat} {p : Program} (hcode : m.randomCode size = (.ok p, m')) {s : String}
    (hs : .name s ∈ Program.leaves p) : s ∈ m.instructions := by
  by_cases hactive : m.activeGenerators = []
  · -- Without active generators there is no leaf.
    have hnone := code_nil m.config size m.source
    have hfst : (m.randomCode size).1 = .ok p := congrArg Prod.fst hcode
    rw [randomCode, withSource, hactive] at hfst
    rw [show (code [] m.config size m.source).1 = .ok p from hfst] at hnone
    split at hnone
    · cases hnone
    · cases hnone
      simp at hs
  · obtain ⟨q, source, hq, -, hall⟩ :=
      code_ok hactive (fun g hg s => g.wellMade_generate m.config hg s)
        (nests_wellMade m.config size) (Nat.le_succ size) m.source
    rw [randomCode, withSource, hq] at hcode
    cases hcode
    obtain ⟨a, ha, hl⟩ := Program.mem_leaves.mp hs
    obtain ⟨g, hg, hmaker, -⟩ := (hall a ha).leaves _ hl
    cases hmaker
    exact h.instruction_of_mem_activeGenerators hg

end Machine

/-- The text by which an entry of a list asks for something; only names and instructions do. -/
def Atom.text? : Atom → Option String
  | .name s => some s
  | .instruction h => some h.name
  | _ => none

namespace Machine

theorem activateAtom_of_text? {a : Atom} {text : String} (h : a.text? = some text)
    (m : Machine χ) : activateAtom a m = activateEntry text m := by
  cases a with
  | name s | instruction g =>
    cases h
    rfl
  | integer n | float x | boolean b | program p => cases h

theorem after?_append (lead rest : String) : after? lead (lead ++ rest) = some rest := by
  have hprefix : lead.toList.isPrefixOf (lead.toList ++ rest.toList) = true :=
    List.isPrefixOf_iff_prefix.mpr (List.prefix_append _ _)
  rw [after?, String.toList_append, if_pos hprefix, ← String.length_toList, List.drop_left,
    String.ofList_toList]

theorem insert_union_filter {m : Machine χ} {name : String} {g : Generator}
    (h : m.generators[name]? = some g) (names : List String) :
    (m.active.insert name g ∪ m.generators.filter fun s _ => names.contains s) =
      m.active ∪ m.generators.filter fun s _ => (name :: names).contains s := by
  apply Std.ExtTreeMap.ext_getElem?
  intro s
  simp only [Std.ExtTreeMap.getElem?_union, Std.ExtTreeMap.getElem?_filter',
    Std.ExtTreeMap.getElem?_insert, Std.LawfulEqCmp.compare_eq_iff_eq, List.contains_cons]
  by_cases hs : name = s
  · subst hs
    rw [if_pos rfl, h, beq_self_eq_true, Bool.true_or]
    cases names.contains name <;> rfl
  · rw [if_neg hs, beq_eq_false_iff_ne.mpr fun heq => hs heq.symm, Bool.false_or]

/-- Activating names that all have generators takes over their entries, in whatever order. -/
theorem eachOf_activate {names : List String} {m : Machine χ}
    (h : ∀ name ∈ names, name ∈ m.generators) :
    eachOf activate names m =
      ({ m with active := m.active ∪ m.generators.filter fun s _ => names.contains s },
        .ok ()) := by
  induction names generalizing m with
  | nil =>
    have hnone : (m.active ∪ m.generators.filter fun s _ => ([] : List String).contains s) =
        m.active := NameMap.union_filter_false
    rw [hnone]
    rfl
  | cons name names ih =>
    obtain ⟨g, hg⟩ : ∃ g, m.generators[name]? = some g :=
      ⟨_, Std.ExtTreeMap.getElem?_eq_some_getElem (h name List.mem_cons_self)⟩
    have hrest := ih (m := { m with active := m.active.insert name g })
      fun s hs => h s (List.mem_cons_of_mem _ hs)
    rw [eachOf, activate, hg]
    refine hrest.trans ?_
    rw [← insert_union_filter hg]

theorem IsStocked.mem_generators_of_kind {m : Machine χ} (h : m.IsStocked) {k : Kind}
    {name : String} (hname : name ∈ m.instructionNames.filter
      (fun s => k.label.toList.isPrefixOf s.toList) ++ literalsOf k) :
    name ∈ m.generators := by
  rcases List.mem_append.mp hname with hname | hname
  · exact h.covered name (Std.ExtTreeMap.mem_keys.mp (List.mem_of_mem_filter hname))
  · exact h.literal k name hname

theorem IsStocked.activateEntry_registered {m : Machine χ} (h : m.IsStocked) (label : String) :
    (activateEntry ("registered." ++ label) m).2 = .ok () := by
  rw [activateEntry, after?_append]
  dsimp only
  split
  · exact congrArg Prod.snd (eachOf_activate fun name hname => h.mem_generators_of_kind hname)
  · rfl

/-- After every history of requests to a new machine, failing ones included, the entries of the
tables of generators refer to registered instructions or are literals, and every registered
instruction has a generator. So random code has only registered names in it, and an entry for a kind
never makes a list fail. -/
theorem generators_stay_registered [Host χ] (account : Host.Account χ) (config : Config)
    (fresh : Source) (rs : List (Request χ)) :
    let m : Machine χ := (new config fresh).served rs
    m.IsRegistered ∧
      (∀ size p m', m.randomCode size = (.ok p, m') →
        ∀ s, .name s ∈ Program.leaves p → s ∈ m.instructions) ∧
      ∀ (l : Program) (a : Atom) (label : String), a.text? = some ("registered." ++ label) →
        (setInstructionList l m).2 = .ok () → (setInstructionList (l ++ [a]) m).2 = .ok () := by
  intro m
  have hstocked : m.IsStocked := (IsStocked.new config fresh).served account rs
  refine ⟨hstocked.toIsRegistered, fun size p m' hcode s hs =>
    hstocked.mem_instructions_of_randomCode hcode hs, fun l a label ha hl => ?_⟩
  have hentry := (hstocked.setInstructionList l).activateEntry_registered label
  rw [← activateAtom_of_text? ha] at hentry
  rw [setInstructionList, eachOf_append_of_ok hl, eachOf_singleton]
  exact hentry

/-- A history with a definition, a failing choice of patterns, a run and a failing list. -/
theorem generators_stay_registered_failing :
    let rs : List (Request Scripted) :=
      [.edit (.define "vector.+" (.host (.acting "vector.+" [.code] false [] (.ok ())))),
       .edit (.set ["\\+$", "("]),
       .run [.name "vector.+", .name "code.rand"] 9,
       .edit (.list [.name "input.makeinputs2", .integer 3])]
    let m : Machine Scripted := (new {} (.script [])).served rs
    m.IsRegistered ∧
      (setInstructionList [.name "registered.float", .name "registered.input"] m).2 = .ok () := by
  intro rs m
  obtain ⟨hregistered, -, hlist⟩ := generators_stay_registered Scripted.account {} (.script []) rs
  have hfloat : (setInstructionList [.name "registered.float"] m).2 = .ok () :=
    hlist [] (.name "registered.float") "float" (by decide +kernel) rfl
  exact ⟨hregistered,
    hlist [.name "registered.float"] (.name "registered.input") "input" (by decide +kernel) hfloat⟩

end Machine

end PushLang
