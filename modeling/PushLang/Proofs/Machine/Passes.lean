import PushLang.Proofs.Machine.History

namespace PushLang

variable {χ : Type}

namespace Host

section

variable (χ) [Host χ]

/-- Whether the host takes the text for a pattern. -/
def IsWellFormed (text : String) : Prop := ∃ found, pattern? χ text = some found

/-- Whether the text is a well-formed pattern that is found in the name. -/
def findsIn (text name : String) : Bool := (pattern? χ text).any fun found => found name

/-- Whether one of the texts is a pattern that is found in the name. -/
def anyFindsIn (texts : List String) (name : String) : Bool :=
  texts.any fun text => findsIn χ text name

end

variable [Host χ]

theorem findsIn_of_pattern? {text : String} {found : String → Bool}
    (h : pattern? χ text = some found) (name : String) : findsIn χ text name = found name := by
  rw [findsIn, h, Option.any_some]

theorem anyFindsIn_cons (text : String) (texts : List String) (name : String) :
    anyFindsIn χ (text :: texts) name = (findsIn χ text name || anyFindsIn χ texts name) :=
  List.any_cons

theorem anyFindsIn_congr {ts us : List String} (h : ∀ t, t ∈ ts ↔ t ∈ us) :
    anyFindsIn χ ts = anyFindsIn χ us := by
  funext name
  rw [Bool.eq_iff_iff, anyFindsIn, anyFindsIn, List.any_eq_true, List.any_eq_true]
  exact exists_congr fun t => and_congr_left fun _ => h t

end Host

namespace NameMap

variable {α : Type} {s t : NameMap α} {f g : String → Bool}

theorem filter_true : (t.filter fun _ _ => true) = t := by
  apply Std.ExtTreeMap.ext_getElem?
  intro name
  rw [Std.ExtTreeMap.getElem?_filter']
  rcases t[name]? with _ | v <;> rfl

theorem union_filter_false : (s ∪ t.filter fun _ _ => false) = s := by
  apply Std.ExtTreeMap.ext_getElem?
  intro name
  rw [Std.ExtTreeMap.getElem?_union, Std.ExtTreeMap.getElem?_filter']
  rcases t[name]? with _ | v <;> rfl

theorem empty_union : (∅ ∪ t : NameMap α) = t := by
  apply Std.ExtTreeMap.ext_getElem?
  intro name
  rw [Std.ExtTreeMap.getElem?_union, Std.ExtTreeMap.getElem?_empty, Option.or_none]

theorem union_filter_union :
    ((s ∪ t.filter fun name _ => f name) ∪ t.filter fun name _ => g name) =
      s ∪ t.filter fun name _ => f name || g name := by
  apply Std.ExtTreeMap.ext_getElem?
  intro name
  simp only [Std.ExtTreeMap.getElem?_union, Std.ExtTreeMap.getElem?_filter']
  rcases t[name]? with _ | v
  · rfl
  · cases f name <;> cases g name <;> rfl

theorem filter_filter :
    ((t.filter fun name _ => f name).filter fun name _ => g name) =
      t.filter fun name _ => f name && g name := by
  apply Std.ExtTreeMap.ext_getElem?
  intro name
  simp only [Std.ExtTreeMap.getElem?_filter']
  rcases t[name]? with _ | v
  · rfl
  · cases f name <;> cases g name <;> simp

end NameMap

open Host

namespace Machine

section

variable {α : Type} {f : α → Effect χ} {l : List α} {m : Machine χ}

theorem eachOf_append (f : α → Effect χ) (l l' : List α) (m : Machine χ) :
    eachOf f (l ++ l') m =
      match eachOf f l m with
      | (m, .ok ()) => eachOf f l' m
      | (m, .error e) => (m, .error e) := by
  induction l generalizing m with
  | nil => rfl
  | cons a l ih =>
    rw [List.cons_append, eachOf, eachOf]
    rcases f a m with ⟨m₁, e | _⟩
    · rfl
    · exact ih m₁

theorem eachOf_append_of_ok (h : (eachOf f l m).2 = .ok ()) (l' : List α) :
    eachOf f (l ++ l') m = eachOf f l' (eachOf f l m).1 := by
  rw [eachOf_append]
  generalize eachOf f l m = outcome at h ⊢
  rcases outcome with ⟨m₁, e | _⟩
  · cases h
  · rfl

theorem eachOf_append_of_error {e : Failure} (h : (eachOf f l m).2 = .error e) (l' : List α) :
    eachOf f (l ++ l') m = eachOf f l m := by
  rw [eachOf_append]
  generalize eachOf f l m = outcome at h ⊢
  rcases outcome with ⟨m₁, e | _⟩
  · rfl
  · cases h

theorem eachOf_ok (h : ∀ a ∈ l, ∀ m, (f a m).2 = .ok ()) : (eachOf f l m).2 = .ok () := by
  induction l generalizing m with
  | nil => rfl
  | cons a l ih =>
    have ha := h a List.mem_cons_self m
    rw [eachOf]
    rcases hm : f a m with ⟨m₁, e | _⟩ <;> rw [hm] at ha
    · cases ha
    · exact ih fun b hb => h b (List.mem_cons_of_mem _ hb)

theorem eachOf_stops (h : (eachOf f l m).2 = .ok ()) {a : α} {m' : Machine χ} {e : Failure}
    (ha : f a (eachOf f l m).1 = (m', .error e)) (l' : List α) :
    eachOf f (l ++ a :: l') m = (m', .error e) := by
  rw [eachOf_append_of_ok h, eachOf, ha]

theorem eachOf_induction {P : Machine χ → Prop} (item : ∀ a m, P m → P (f a m).1) (l : List α)
    (h : P m) : P (eachOf f l m).1 := by
  induction l generalizing m with
  | nil => exact h
  | cons a l ih =>
    have hkept := item a m h
    rw [eachOf]
    rcases ha : f a m with ⟨m₁, e | _⟩ <;> rw [ha] at hkept
    · exact hkept
    · exact ih hkept

theorem eachOf_singleton (a : α) (m : Machine χ) : eachOf f [a] m = f a m := by
  rw [eachOf]
  rcases f a m with ⟨m', e | _⟩ <;> rfl

theorem eachOf_congr {g : α → Effect χ} {P : Machine χ → Prop} (keep : ∀ a m, P m → P (f a m).1)
    (same : ∀ a m, P m → g a m = f a m) (l : List α) (h : P m) : eachOf g l m = eachOf f l m := by
  induction l generalizing m with
  | nil => rfl
  | cons a l ih =>
    have hkept := keep a m h
    rw [eachOf, eachOf, same a m h]
    rcases ha : f a m with ⟨m₁, e | _⟩
    · rfl
    · rw [ha] at hkept
      exact ih hkept

end

theorem activateAtom_induction {P : Machine χ → Prop}
    (activate : ∀ name m, P m → P (activate name m).1)
    (define : ∀ index m, P m → P (m.define (inputName index) (.input index)))
    (a : Atom) {m : Machine χ} (h : P m) : P (activateAtom a m).1 := by
  have hentry : ∀ text, P (activateEntry text m).1 := by
    intro text
    unfold activateEntry
    split
    · split
      · exact eachOf_induction activate _ h
      · exact h
    · split
      · split
        · exact eachOf_induction (fun index m hm => activate _ _ (define index m hm)) _ h
        · exact h
      · exact activate text m h
  cases a with
  | name s => exact hentry s
  | instruction g => exact hentry g.name
  | integer n | float x | boolean b | program p => exact h

theorem setInstructionList_induction {P : Machine χ → Prop}
    (activate : ∀ name m, P m → P (activate name m).1)
    (define : ∀ index m, P m → P (m.define (inputName index) (.input index)))
    (list : Program) {m : Machine χ} (h : P { m with active := ∅ }) :
    P (setInstructionList list m).1 :=
  eachOf_induction (fun a _ hm => activateAtom_induction activate define a hm) list h

theorem available_setInstructionList (list : Program) (m : Machine χ) :
    (setInstructionList list m).1.available = m.available := by
  refine setInstructionList_induction (P := fun m' => m'.available = m.available)
    (fun name m' hm' => ?_) (fun _ _ hm' => hm') list rfl
  unfold activate
  split <;> exact hm'

variable [Host χ]

section

variable {f : (String → Bool) → Machine χ → Machine χ} {text : String}

theorem withPattern_of_pattern? {found : String → Bool} (h : pattern? χ text = some found)
    (m : Machine χ) : withPattern f text m = (f found m, .ok ()) := by
  rw [withPattern, h]

theorem withPattern_of_not (h : ¬ IsWellFormed χ text) (m : Machine χ) :
    withPattern f text m = (m, .error (.invalidPattern text)) := by
  rcases hpattern : pattern? χ text with _ | found
  · rw [withPattern, hpattern]
  · exact absurd ⟨found, hpattern⟩ h

theorem withPattern_induction {P : Machine χ → Prop} {m : Machine χ}
    (step : ∀ found, P (f found m)) (h : P m) : P (withPattern f text m).1 := by
  unfold withPattern
  split
  · exact step _
  · exact h

end

section

variable {ts : List String} (h : ∀ t ∈ ts, IsWellFormed χ t)
include h

/-- Where a pattern acts by the predicate on names that it stands for, and predicates one after
another act like their disjunction, a pass acts by the disjunction of its patterns. -/
theorem eachOf_withPattern_eq (act : (String → Bool) → Machine χ → Machine χ)
    (none : ∀ m, act (fun _ => false) m = m)
    (compose : ∀ f g m, act g (act f m) = act (fun name => f name || g name) m)
    (m : Machine χ) :
    eachOf (withPattern act) ts m = (act (anyFindsIn χ ts) m, .ok ()) := by
  induction ts generalizing m with
  | nil =>
    have hnone : anyFindsIn χ [] = fun _ => false := rfl
    rw [hnone, none]
    rfl
  | cons t ts ih =>
    obtain ⟨found, ht⟩ := h t List.mem_cons_self
    have hrest := ih (fun u hu => h u (List.mem_cons_of_mem _ hu)) (act found m)
    have hboth : (fun name => found name || anyFindsIn χ ts name) = anyFindsIn χ (t :: ts) := by
      funext name
      rw [anyFindsIn_cons, findsIn_of_pattern? ht]
    rw [eachOf, withPattern_of_pattern? ht]
    refine hrest.trans ?_
    rw [compose, hboth]

theorem eachOf_withPattern_stops {f : (String → Bool) → Machine χ → Machine χ} {t : String}
    (ht : ¬ IsWellFormed χ t) (us : List String) (m : Machine χ) :
    eachOf (withPattern f) (ts ++ t :: us) m =
      ((eachOf (withPattern f) ts m).1, .error (.invalidPattern t)) := by
  refine eachOf_stops (eachOf_ok fun u hu m => ?_) (withPattern_of_not ht _) us
  obtain ⟨found, hfound⟩ := h u hu
  rw [withPattern_of_pattern? hfound]

end

variable (χ) in
/-- The generators whose names match one of the patterns. -/
def selected (texts : List String) (generators : NameMap Random.Generator) :
    NameMap Random.Generator :=
  generators.filter fun name _ => anyFindsIn χ texts name

section

variable {ts : List String} (h : ∀ t ∈ ts, IsWellFormed χ t) (m : Machine χ)
include h

theorem addInstructions_eq :
    addInstructions ts m =
      ({ m with active := m.active ∪ selected χ ts m.available }, .ok ()) := by
  refine eachOf_withPattern_eq h (fun f m =>
    { m with active := m.active ∪ m.available.filter fun name _ => f name }) ?_ ?_ m
  · intro m
    rw [NameMap.union_filter_false]
  · intro f g m
    rw [NameMap.union_filter_union]

theorem removeInstructions_eq :
    removeInstructions ts m =
      ({ m with active := m.active.filter fun name _ => !anyFindsIn χ ts name }, .ok ()) := by
  refine eachOf_withPattern_eq h (fun f m =>
    { m with active := m.active.filter fun name _ => !f name }) ?_ ?_ m
  · intro m
    simp only [Bool.not_false, NameMap.filter_true]
  · intro f g m
    simp only [NameMap.filter_filter, Bool.not_or]

theorem setInstructions_eq :
    setInstructions ts m =
      ({ m with available := m.generators, active := selected χ ts m.generators }, .ok ()) := by
  have hset := addInstructions_eq h { m.load with active := ∅ }
  refine hset.trans ?_
  rw [NameMap.empty_union]
  rfl

end

theorem getElem?_active_addInstructions (ts : List String) {m : Machine χ} {name : String}
    (h : m.available[name]? = none) :
    (addInstructions ts m).1.active[name]? = m.active[name]? := by
  let P (m' : Machine χ) : Prop :=
    m'.available[name]? = none ∧ m'.active[name]? = m.active[name]?
  have hadd : P (addInstructions ts m).1 := by
    refine eachOf_induction (fun t m' hm' => ?_) ts ⟨h, rfl⟩
    refine withPattern_induction (P := P) (fun found => ⟨hm'.1, ?_⟩) hm'
    rw [Std.ExtTreeMap.getElem?_union, matching, Std.ExtTreeMap.getElem?_filter', hm'.1]
    exact hm'.2
  exact hadd.2

theorem available_eachOf {f : (String → Bool) → Machine χ → Machine χ}
    (hf : ∀ found m, (f found m).available = m.available) (ts : List String) (m : Machine χ) :
    (eachOf (withPattern f) ts m).1.available = m.available := by
  let P (m' : Machine χ) : Prop := m'.available = m.available
  have hpass : P (eachOf (withPattern f) ts m).1 := by
    refine eachOf_induction (fun t m' hm' => ?_) ts rfl
    exact withPattern_induction (P := P) (fun found => (hf found m').trans hm') hm'
  exact hpass

end Machine

open Machine

/-- Whether the edit makes all generators available. -/
def Edit.loads : Edit χ → Bool
  | .load => true
  | .set _ => true
  | _ => false

variable [Host χ]

theorem Edit.available_apply (e : Edit χ) (m : Machine χ) :
    (e.apply m).1.available = if e.loads then m.generators else m.available := by
  cases e with
  | define name op | load | work w => rfl
  | set ts =>
    refine available_eachOf ?_ ts _
    exact fun _ _ => rfl
  | add ts | remove ts =>
    refine available_eachOf ?_ ts m
    exact fun _ _ => rfl
  | list entries => exact available_setInstructionList entries m

namespace Machine

theorem available_after {es : List (Edit χ)} (h : ∀ e ∈ es, e.loads = false) (m : Machine χ) :
    (m.after es).available = m.available := by
  induction es generalizing m with
  | nil => rfl
  | cons e es ih =>
    rw [after_cons, ih fun d hd => h d (List.mem_cons_of_mem _ hd), e.available_apply,
      h e List.mem_cons_self, if_neg Bool.false_ne_true]

theorem available_since {e : Edit χ} (he : e.loads = true) {fs : List (Edit χ)}
    (hfs : ∀ f ∈ fs, f.loads = false) (m : Machine χ) (es : List (Edit χ)) :
    (m.after (es ++ e :: fs)).available = (m.after es).generators := by
  rw [after_append, after_cons, available_after hfs, e.available_apply, if_pos he]

/-- Whatever texts count as patterns and are found in names, a pass of well-formed patterns is a union
with the available generators that match one of them, where the added generators prevail, or leaves
out the active ones that match. A pattern that is not well formed stops the pass behind what the
patterns before it do. Available are the generators that there were when they were last loaded, if
only when the machine was new. -/
theorem patterns_select_generators (account : Host.Account χ) (m : Machine χ) :
    (∀ ts : List String, (∀ t ∈ ts, IsWellFormed χ t) →
      addInstructions ts m = ({ m with active := m.active ∪ selected χ ts m.available }, .ok ()) ∧
      removeInstructions ts m =
        ({ m with active := m.active.filter fun name _ => !anyFindsIn χ ts name }, .ok ()) ∧
      setInstructions ts m =
        ({ m with available := m.generators, active := selected χ ts m.generators }, .ok ()) ∧
      (∀ us, (∀ t, t ∈ ts ↔ t ∈ us) →
        addInstructions us m = addInstructions ts m ∧
        removeInstructions us m = removeInstructions ts m ∧
        setInstructions us m = setInstructions ts m) ∧
      setInstructions ts (setInstructions ts m).1 = setInstructions ts m ∧
      (∀ name, anyFindsIn χ ts name = true →
        name ∉ (removeInstructions ts (addInstructions ts m).1).1.active) ∧
      ∀ t us, ¬ IsWellFormed χ t →
        addInstructions (ts ++ t :: us) m =
          ((addInstructions ts m).1, .error (.invalidPattern t)) ∧
        removeInstructions (ts ++ t :: us) m =
          ((removeInstructions ts m).1, .error (.invalidPattern t)) ∧
        setInstructions (ts ++ t :: us) m =
          ((setInstructions ts m).1, .error (.invalidPattern t))) ∧
    (∀ ts (name : String), m.available[name]? = none →
      (addInstructions ts m).1.active[name]? = m.active[name]?) ∧
    (∀ rs, m.after (account.historyEdits m rs) = m.served rs ∧
      ((∀ e ∈ account.historyEdits m rs, e.loads = false) →
        (m.served rs).available = m.available) ∧
      ∀ es e fs, account.historyEdits m rs = es ++ e :: fs → e.loads = true →
        (∀ f ∈ fs, f.loads = false) → (m.served rs).available = (m.after es).generators) ∧
    ∀ config fresh,
      (new config fresh : Machine χ).available = (new config fresh : Machine χ).generators := by
  refine ⟨fun ts h => ?_, fun ts name hname => getElem?_active_addInstructions ts hname,
    fun rs => ⟨account.after_historyEdits m rs, fun h => ?_, fun es e fs h he hfs => ?_⟩,
    fun _ _ => rfl⟩
  · refine ⟨addInstructions_eq h m, removeInstructions_eq h m, setInstructions_eq h m,
      fun us hus => ?_, ?_, fun name hname => ?_, fun t us ht =>
        ⟨eachOf_withPattern_stops h ht us m, eachOf_withPattern_stops h ht us m,
          eachOf_withPattern_stops h ht us { m.load with active := ∅ }⟩⟩
    · have hu : ∀ t ∈ us, IsWellFormed χ t := fun t ht => h t ((hus t).mpr ht)
      rw [addInstructions_eq h, addInstructions_eq hu, removeInstructions_eq h,
        removeInstructions_eq hu, setInstructions_eq h, setInstructions_eq hu, selected, selected,
        selected, selected, anyFindsIn_congr hus]
      exact ⟨rfl, rfl, rfl⟩
    · rw [setInstructions_eq h m, setInstructions_eq h]
    · rw [removeInstructions_eq h, Std.ExtTreeMap.mem_iff_isSome_getElem?,
        Std.ExtTreeMap.getElem?_filter', hname]
      rcases (addInstructions ts m).1.active[name]? with _ | g <;> exact Bool.false_ne_true
  · rw [← account.after_historyEdits]
    exact available_after h m
  · rw [← account.after_historyEdits, h]
    exact available_since he hfs m es

/-- A pass that stops at its second pattern, and a pass after another instruction is defined. -/
theorem patterns_select_generators_sums :
    let m : Machine Scripted := new {} (.script [])
    let later : Request Scripted := .edit (.define "vector.+" (.input 0))
    IsWellFormed Scripted "\\+$" ∧ ¬ IsWellFormed Scripted "(" ∧
      anyFindsIn Scripted ["\\+$"] "integer.+" = true ∧
      setInstructions ["\\+$", "("] m =
        ((setInstructions ["\\+$"] m).1, .error (.invalidPattern "(")) ∧
      "integer.+" ∉ (removeInstructions ["\\+$"] (addInstructions ["\\+$"] m).1).1.active ∧
      (m.served [later]).available = m.generators := by
  intro m later
  have hsum : IsWellFormed Scripted "\\+$" := Option.isSome_iff_exists.mp (by decide +kernel)
  have hopen : ¬ IsWellFormed Scripted "(" := by
    rintro ⟨found, hfound⟩
    have hnone : (pattern? Scripted "(").isSome = false := by decide +kernel
    rw [hfound] at hnone
    cases hnone
  have hfinds : anyFindsIn Scripted ["\\+$"] "integer.+" = true := by decide +kernel
  obtain ⟨hpasses, -, hhistory, -⟩ := patterns_select_generators Scripted.account m
  obtain ⟨-, -, -, -, -, hremoved, hstops⟩ := hpasses ["\\+$"] (by simpa using hsum)
  have hlater : ∀ e ∈ Scripted.account.historyEdits m [later], e.loads = false := by
    intro e he
    rw [List.mem_singleton.mp he]
    rfl
  exact ⟨hsum, hopen, hfinds, (hstops "(" [] hopen).2.2, hremoved "integer.+" hfinds,
    (hhistory [later]).2.1 hlater⟩

end Machine

end PushLang
