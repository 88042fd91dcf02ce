import PushLang.Proofs.Machine.Registered

namespace PushLang

open PushLang.Random

variable {χ : Type}

/-- What the text of an entry says: all instructions of a kind, a kind that there is none of, so
many inputs, a count that is no number, or a single name. -/
inductive Entry where
  | kind (k : Kind)
  | unknown
  | inputs (count : Nat)
  | malformed
  | single (name : String)
  deriving DecidableEq

namespace Entry

def ofText (text : String) : Entry :=
  match Machine.after? "registered." text with
  | some label =>
    match Kind.ofLabel? label with
    | some k => .kind k
    | none => .unknown
  | none =>
    match Machine.after? "input.makeinputs" text with
    | some count =>
      match Machine.readCount? count with
      | some n => .inputs n
      | none => .malformed
    | none => .single text

theorem eq_of_ofText_single {text name : String} (h : ofText text = .single name) :
    name = text := by
  unfold ofText at h
  split at h
  · split at h <;> cases h
  · split at h
    · split at h <;> cases h
    · cases h
      rfl

/-- The entry asks to activate the name where these instructions are registered. -/
def Asks (instructions : NameMap Handle) : Entry → String → Prop
  | .kind k, s => (s ∈ instructions ∧ k.label.toList <+: s.toList) ∨ s ∈ Machine.literalsOf k
  | .unknown, _ => False
  | .inputs count, s => ∃ i < count, s = Machine.inputName i
  | .malformed, _ => False
  | .single name, s => s = name

/-- The entry registers an input under the name. -/
def Makes : Entry → String → Prop
  | .inputs count, s => ∃ i < count, s = Machine.inputName i
  | _, _ => False

/-- The machine knows what the entry asks for. -/
def Resolves (m : Machine χ) : Entry → Prop
  | .malformed => False
  | .single name => name ∈ m.generators
  | _ => True

theorem asks_of_makes {e : Entry} {s : String} (h : e.Makes s) (i : NameMap Handle) :
    e.Asks i s := by
  cases e with
  | inputs count => exact h
  | kind k | unknown | malformed | single name => exact h.elim

/-- Of more registered names an entry asks for no more than these. -/
theorem Asks.of_superset {e : Entry} {i j : NameMap Handle} {made : String → Prop}
    (hj : ∀ s, s ∈ j ↔ s ∈ i ∨ made s) {s : String} (h : e.Asks j s) : e.Asks i s ∨ made s := by
  cases e with
  | kind k =>
    rcases h with ⟨hs, hprefix⟩ | hliteral
    · exact ((hj s).mp hs).imp_left fun hs => .inl ⟨hs, hprefix⟩
    · exact .inl (.inr hliteral)
  | unknown | inputs count | malformed | single name => exact .inl h

theorem Asks.mono {e : Entry} {i j : NameMap Handle} (hij : ∀ s, s ∈ i → s ∈ j) {s : String}
    (h : e.Asks i s) : e.Asks j s := by
  cases e with
  | kind k => exact h.imp_left fun ⟨hs, hprefix⟩ => ⟨hij s hs, hprefix⟩
  | unknown | inputs count | malformed | single name => exact h

end Entry

namespace Atom

def Asks (instructions : NameMap Handle) (a : Atom) (s : String) : Prop :=
  ∃ text, a.text? = some text ∧ (Entry.ofText text).Asks instructions s

def Makes (a : Atom) (s : String) : Prop :=
  ∃ text, a.text? = some text ∧ (Entry.ofText text).Makes s

/-- The atom is an entry of a list, and the machine knows what it asks for. -/
def IsAccepted (m : Machine χ) (a : Atom) : Prop :=
  ∃ text, a.text? = some text ∧ (Entry.ofText text).Resolves m

def refusal (a : Atom) : Failure :=
  match a.text? with
  | some text => .unknownInstruction text
  | none => .notAnInstructionName a.render

end Atom

namespace Machine

/-- Activates what an entry asks for, where `order` lists the registered names. -/
def activateEntryBy (order : Machine χ → List String) (text : String) : Effect χ := fun m =>
  match Entry.ofText text with
  | .kind k =>
    let registered := (order m).filter fun s => k.label.toList.isPrefixOf s.toList
    eachOf activate (registered ++ literalsOf k) m
  | .unknown => (m, .ok ())
  | .inputs count => eachOf makeInput (List.range count) m
  | .malformed => (m, .error (.unknownInstruction text))
  | .single name => activate name m

def activateAtomBy (order : Machine χ → List String) (a : Atom) : Effect χ :=
  match a.text? with
  | some text => activateEntryBy order text
  | none => fun m => (m, .error (.notAnInstructionName a.render))

def setInstructionListBy (order : Machine χ → List String) (list : Program) : Effect χ := fun m =>
  eachOf (activateAtomBy order) list { m with active := ∅ }

theorem activateEntry_eq (text : String) (m : Machine χ) :
    activateEntry text m = activateEntryBy instructionNames text m := by
  unfold activateEntry activateEntryBy Entry.ofText
  rcases hlabel : after? "registered." text with _ | label
  · rcases hcount : after? "input.makeinputs" text with _ | count
    · rfl
    · dsimp only
      rcases readCount? count with _ | n <;> rfl
  · dsimp only
    rcases Kind.ofLabel? label with _ | k <;> rfl

theorem activateAtom_eq (a : Atom) (m : Machine χ) :
    activateAtom a m = activateAtomBy instructionNames a m := by
  rcases ha : a.text? with _ | text
  · rw [activateAtomBy, ha]
    cases a with
    | name s | instruction g => cases ha
    | integer n | float x | boolean b | program p => rfl
  · rw [activateAtom_of_text? ha, activateEntry_eq, activateAtomBy, ha]

theorem IsStocked.activateAtomBy_eq {m : Machine χ} (h : m.IsStocked)
    {order : Machine χ → List String} (horder : (order m).Perm m.instructionNames) (a : Atom) :
    activateAtomBy order a m = Machine.activateAtom a m := by
  rw [activateAtom_eq, activateAtomBy, activateAtomBy]
  rcases a.text? with _ | text
  · rfl
  · simp only [activateEntryBy]
    cases Entry.ofText text with
    | kind k =>
      -- Both orders have the same names, and names that have generators may come in any order.
      have hperm := (horder.filter fun s => k.label.toList.isPrefixOf s.toList).append_right
        (literalsOf k)
      dsimp only
      rw [eachOf_activate fun s hs => h.mem_generators_of_kind hs,
        eachOf_activate fun s hs => h.mem_generators_of_kind (hperm.mem_iff.mp hs)]
      simp only [hperm.contains_eq]
    | unknown | inputs count | malformed | single name => rfl

theorem IsStocked.setInstructionListBy_eq {m : Machine χ} (h : m.IsStocked)
    {order : Machine χ → List String} (horder : ∀ m, (order m).Perm m.instructionNames)
    (l : Program) (active : NameMap Generator) :
    setInstructionListBy order l { m with active } = Machine.setInstructionList l m :=
  eachOf_congr (P := IsStocked) (fun a _ hm => hm.activateAtom a)
    (fun a m hm => hm.activateAtomBy_eq (horder m) a) l h.cleared

/-- The active entries are those that the generators have now. -/
def IsCurrent (m : Machine χ) : Prop :=
  ∀ (s : String) (g : Generator), m.active[s]? = some g → m.generators[s]? = some g

/-- From `m` to `m'` the names that are asked for are activated and those that are made are
registered, and nothing else happens to the active names and to the registered ones. -/
structure Listed (asked made : String → Prop) (m m' : Machine χ) : Prop where
  active : ∀ s, s ∈ m'.active ↔ s ∈ m.active ∨ asked s
  instructions : ∀ s, s ∈ m'.instructions ↔ s ∈ m.instructions ∨ made s
  generators_made : ∀ s, made s → m'.generators[s]? = some (.instruction s)
  generators_kept : ∀ s, ¬ made s → m'.generators[s]? = m.generators[s]?
  current : m.IsCurrent → m'.IsCurrent

namespace Listed

variable {asked asked' made made' : String → Prop} {m m' m'' : Machine χ}

theorem refl (m : Machine χ) : Listed (fun _ => False) (fun _ => False) m m where
  active s := by rw [or_false]
  instructions s := by rw [or_false]
  generators_made s hs := hs.elim
  generators_kept s _ := rfl
  current h := h

theorem trans (h : Listed asked made m m') (h' : Listed asked' made' m' m'') :
    Listed (fun s => asked s ∨ asked' s) (fun s => made s ∨ made' s) m m'' where
  active s := by rw [h'.active, h.active, or_assoc]
  instructions s := by rw [h'.instructions, h.instructions, or_assoc]
  generators_made s hs := by
    by_cases hs' : made' s
    · exact h'.generators_made s hs'
    · rw [h'.generators_kept s hs']
      exact h.generators_made s (hs.resolve_right hs')
  generators_kept s hs := by
    rw [h'.generators_kept s fun hs' => hs (.inr hs'), h.generators_kept s fun hs' => hs (.inl hs')]
  current hm := h'.current (h.current hm)

theorem congr (h : Listed asked made m m') (hasked : ∀ s, asked s ↔ asked' s)
    (hmade : ∀ s, made s ↔ made' s) : Listed asked' made' m m' := by
  rwa [← funext fun s => propext (hasked s), ← funext fun s => propext (hmade s)]

end Listed

theorem listed_activate {m : Machine χ} {names : List String}
    (h : ∀ s ∈ names, s ∈ m.generators) :
    ∃ m', eachOf activate names m = (m', .ok ()) ∧
      Listed (fun s => s ∈ names) (fun _ => False) m m' := by
  refine ⟨_, eachOf_activate h, ?_, fun s => by rw [or_false], fun s hs => hs.elim,
    fun s _ => rfl, fun hm s g hg => ?_⟩
  · intro s
    rw [Std.ExtTreeMap.mem_union_iff]
    refine or_congr_right ?_
    rw [Std.ExtTreeMap.mem_iff_isSome_getElem?, Std.ExtTreeMap.getElem?_filter']
    by_cases hs : s ∈ names
    · simp [Std.ExtTreeMap.getElem?_eq_some_getElem (h s hs), hs]
    · simp [hs]
  · rw [Std.ExtTreeMap.getElem?_union, Std.ExtTreeMap.getElem?_filter',
      Option.or_eq_some_iff] at hg
    rcases hg with hg | ⟨-, hg⟩
    · exact (Option.filter_eq_some_iff.mp hg).1
    · exact hm s g hg

theorem inputName_ne_of_mem_literals {name : String} {g : Generator} (h : (name, g) ∈ literals)
    (index : Nat) : name ≠ inputName index := by
  intro hname
  have hstart := congrArg (fun s : String => s.toList.take 3) hname
  simp only [literals, List.mem_cons, List.not_mem_nil, or_false, Prod.mk.injEq] at h
  rcases h with ⟨rfl, -⟩ | ⟨rfl, -⟩ | ⟨rfl, -⟩ <;> simp [inputName] at hstart

/-- A registered input gets the entry it had, if it had one, since it is no literal. -/
theorem IsRegistered.listed_define {m : Machine χ} (h : m.IsRegistered) (index : Nat) :
    Listed (fun _ => False) (fun s => s = inputName index) m
      (m.define (inputName index) (.input index)) where
  active s := by rw [or_false]; rfl
  instructions s := mem_instructions_define.trans or_comm
  generators_made s hs := by rw [getElem?_generators_define, if_pos hs]
  generators_kept s hs := by rw [getElem?_generators_define, if_neg hs]
  current hm s g hg := by
    rw [getElem?_generators_define]
    by_cases hs : s = inputName index
    · rw [if_pos hs]
      rcases h.active s g hg with ⟨rfl, -⟩ | hliteral
      · rfl
      · exact absurd hs (inputName_ne_of_mem_literals hliteral index)
    · rw [if_neg hs]
      exact hm s g hg

theorem IsStocked.listed_makeInput {m : Machine χ} (h : m.IsStocked) (index : Nat) :
    ∃ m', makeInput index m = (m', .ok ()) ∧ m'.IsStocked ∧
      Listed (fun s => s = inputName index) (fun s => s = inputName index) m m' := by
  have hdefined := h.define (inputName index) (.input index)
  have hmem : ∀ s ∈ [inputName index],
      s ∈ (m.define (inputName index) (.input index)).generators :=
    fun s hs => mem_generators_define.mpr (.inl (List.mem_singleton.mp hs))
  obtain ⟨m', hm', hlisted⟩ := listed_activate hmem
  rw [eachOf_singleton] at hm'
  refine ⟨m', hm', ?_, ?_⟩
  · have hstocked := hdefined.activate (inputName index)
    rwa [hm'] at hstocked
  · refine (h.listed_define index |>.trans hlisted).congr (fun s => ?_) fun s => ?_
    · rw [false_or, List.mem_singleton]
    · rw [or_false]

theorem IsStocked.listed_makeInputs {m : Machine χ} (h : m.IsStocked) (indices : List Nat) :
    ∃ m', eachOf makeInput indices m = (m', .ok ()) ∧
      Listed (fun s => ∃ i ∈ indices, s = inputName i) (fun s => ∃ i ∈ indices, s = inputName i)
        m m' := by
  induction indices generalizing m with
  | nil => exact ⟨m, rfl, (Listed.refl m).congr (by simp) (by simp)⟩
  | cons index indices ih =>
    obtain ⟨m₁, hm₁, hstocked, hfirst⟩ := h.listed_makeInput index
    obtain ⟨m₂, hm₂, hrest⟩ := ih hstocked
    refine ⟨m₂, ?_, (hfirst.trans hrest).congr (by simp) (by simp)⟩
    rw [eachOf, hm₁]
    exact hm₂

theorem IsStocked.activateEntry_of_resolves {m : Machine χ} (h : m.IsStocked) {text : String}
    (hresolves : (Entry.ofText text).Resolves m) :
    ∃ m', activateEntry text m = (m', .ok ()) ∧
      Listed ((Entry.ofText text).Asks m.instructions) (Entry.ofText text).Makes m m' := by
  rw [activateEntry_eq, activateEntryBy]
  cases hentry : Entry.ofText text with
  | kind k =>
    obtain ⟨m', hm', hlisted⟩ :=
      listed_activate fun s hs => h.mem_generators_of_kind (k := k) hs
    refine ⟨m', hm', hlisted.congr (fun s => ?_) fun s => Iff.rfl⟩
    rw [List.mem_append, List.mem_filter, List.isPrefixOf_iff_prefix, Entry.Asks]
    exact or_congr_left (and_congr_left fun _ => Std.ExtTreeMap.mem_keys)
  | unknown => exact ⟨m, rfl, .refl m⟩
  | inputs count =>
    obtain ⟨m', hm', hlisted⟩ := h.listed_makeInputs (List.range count)
    refine ⟨m', hm', hlisted.congr (fun s => ?_) fun s => ?_⟩
    · simp only [List.mem_range, Entry.Asks]
    · simp only [List.mem_range, Entry.Makes]
  | malformed =>
    rw [hentry] at hresolves
    exact hresolves.elim
  | single name =>
    rw [hentry] at hresolves
    have hname : ∀ s ∈ [name], s ∈ m.generators :=
      fun s hs => List.mem_singleton.mp hs ▸ hresolves
    obtain ⟨m', hm', hlisted⟩ := listed_activate hname
    rw [eachOf_singleton] at hm'
    exact ⟨m', hm', hlisted.congr (fun s => List.mem_singleton) fun s => Iff.rfl⟩

theorem activateEntry_of_not_resolves {m : Machine χ} {text : String}
    (h : ¬ (Entry.ofText text).Resolves m) :
    activateEntry text m = (m, .error (.unknownInstruction text)) := by
  rw [activateEntry_eq, activateEntryBy]
  cases hentry : Entry.ofText text with
  | kind k | unknown | inputs count =>
    rw [hentry] at h
    exact absurd trivial h
  | malformed => rfl
  | single name =>
    obtain rfl := Entry.eq_of_ofText_single hentry
    rw [hentry, Entry.Resolves, Std.ExtTreeMap.mem_iff_isSome_getElem?,
      Option.not_isSome_iff_eq_none] at h
    dsimp only
    rw [activate, h]

end Machine

end PushLang
