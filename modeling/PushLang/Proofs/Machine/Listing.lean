import PushLang.Proofs.Machine.Entries

namespace PushLang

open PushLang.Random

variable {χ : Type}

namespace Machine

theorem IsStocked.activateAtom_of_isAccepted {m : Machine χ} (h : m.IsStocked) {a : Atom}
    (ha : a.IsAccepted m) :
    ∃ m', Machine.activateAtom a m = (m', .ok ()) ∧ m'.IsStocked ∧
      Listed (a.Asks m.instructions) a.Makes m m' := by
  obtain ⟨text, htext, hresolves⟩ := ha
  obtain ⟨m', hm', hlisted⟩ := h.activateEntry_of_resolves hresolves
  have hstocked := h.activateAtom a
  rw [activateAtom_of_text? htext, hm'] at hstocked
  rw [activateAtom_of_text? htext]
  refine ⟨m', hm', hstocked, hlisted.congr (fun s => ?_) fun s => ?_⟩
  · simp only [Atom.Asks, htext, Option.some.injEq, exists_eq_left']
  · simp only [Atom.Makes, htext, Option.some.injEq, exists_eq_left']

theorem activateAtom_of_not_isAccepted {m : Machine χ} {a : Atom} (h : ¬ a.IsAccepted m) :
    activateAtom a m = (m, .error a.refusal) := by
  rcases ha : a.text? with _ | text
  · rw [activateAtom_eq, activateAtomBy, Atom.refusal, ha]
  · rw [activateAtom_of_text? ha, activateEntry_of_not_resolves fun hr => h ⟨text, ha, hr⟩,
      Atom.refusal, ha]

/-- An entry sees what the entries before it registered, but they have activated that already. -/
theorem asks_or_asks {a b : Atom} {m m' : Machine χ}
    (h : ∀ s, s ∈ m'.instructions ↔ s ∈ m.instructions ∨ a.Makes s) (s : String) :
    a.Asks m.instructions s ∨ b.Asks m'.instructions s ↔
      a.Asks m.instructions s ∨ b.Asks m.instructions s := by
  constructor
  · rintro (ha | ⟨text, htext, hb⟩)
    · exact .inl ha
    · rcases hb.of_superset h with hb | ⟨made, hmade, hmakes⟩
      · exact .inr ⟨text, htext, hb⟩
      · exact .inl ⟨made, hmade, Entry.asks_of_makes hmakes _⟩
  · refine Or.imp_right ?_
    rintro ⟨text, htext, hb⟩
    exact ⟨text, htext, hb.mono fun s hs => (h s).mpr (.inl hs)⟩

theorem IsStocked.listed_eachOf {m m' : Machine χ} (h : m.IsStocked) {l : Program}
    (hl : eachOf Machine.activateAtom l m = (m', .ok ())) :
    Listed (fun s => ∃ a ∈ l, a.Asks m.instructions s) (fun s => ∃ a ∈ l, a.Makes s) m m' := by
  induction l generalizing m with
  | nil =>
    cases hl
    exact (Listed.refl _).congr (by simp) (by simp)
  | cons a l ih =>
    by_cases ha : a.IsAccepted m
    · obtain ⟨m₁, hm₁, hstocked, hfirst⟩ := h.activateAtom_of_isAccepted ha
      rw [eachOf, hm₁] at hl
      refine (hfirst.trans (ih hstocked hl)).congr (fun s => ?_) fun s => ?_
      · have hasks := fun b : Atom => asks_or_asks (b := b) hfirst.instructions s
        simp only [List.mem_cons, exists_eq_or_imp]
        by_cases has : a.Asks m.instructions s
        · simp only [has, true_or]
        · simp only [has, false_or] at hasks ⊢
          simp only [hasks]
      · simp only [List.mem_cons, exists_eq_or_imp]
    · rw [eachOf, activateAtom_of_not_isAccepted ha] at hl
      cases hl

theorem IsStocked.eachOf_error {m m' : Machine χ} (h : m.IsStocked) {l : Program} {e : Failure}
    (hl : eachOf Machine.activateAtom l m = (m', .error e)) :
    ∃ l₁ a l₂, l = l₁ ++ a :: l₂ ∧ eachOf Machine.activateAtom l₁ m = (m', .ok ()) ∧
      ¬ a.IsAccepted m' ∧ e = a.refusal := by
  induction l generalizing m with
  | nil => cases hl
  | cons a l ih =>
    by_cases ha : a.IsAccepted m
    · obtain ⟨m₁, hm₁, hstocked, -⟩ := h.activateAtom_of_isAccepted ha
      rw [eachOf, hm₁] at hl
      obtain ⟨l₁, b, l₂, rfl, hl₁, hb⟩ := ih hstocked hl
      refine ⟨a :: l₁, b, l₂, rfl, ?_, hb⟩
      rw [eachOf, hm₁]
      exact hl₁
    · rw [eachOf, activateAtom_of_not_isAccepted ha] at hl
      cases hl
      exact ⟨[], a, l, rfl, rfl, ha, rfl⟩

theorem active_eq {m₁ m₂ : Machine χ} (h₁ : m₁.IsCurrent) (h₂ : m₂.IsCurrent)
    (hnames : ∀ s, s ∈ m₁.active ↔ s ∈ m₂.active)
    (hgenerators : ∀ s : String, m₁.generators[s]? = m₂.generators[s]?) :
    m₁.active = m₂.active := by
  apply Std.ExtTreeMap.ext_getElem?
  intro s
  have hs := hnames s
  rw [Std.ExtTreeMap.mem_iff_isSome_getElem?, Std.ExtTreeMap.mem_iff_isSome_getElem?] at hs
  rcases hg₁ : m₁.active[s]? with _ | g₁ <;> rcases hg₂ : m₂.active[s]? with _ | g₂
  · rfl
  · simp [hg₁, hg₂] at hs
  · simp [hg₁, hg₂] at hs
  · rw [← h₁ s g₁ hg₁, ← h₂ s g₂ hg₂, hgenerators]

/-- What is asked for and made decides on the active entries and on the registered names. -/
theorem Listed.unique {asked made : String → Prop} {m m₁ m₂ : Machine χ}
    (h₁ : Listed asked made m m₁) (h₂ : Listed asked made m m₂) (hm : m.IsCurrent) :
    m₁.active = m₂.active ∧ ∀ s, s ∈ m₁.instructions ↔ s ∈ m₂.instructions := by
  refine ⟨active_eq (h₁.current hm) (h₂.current hm) (fun s => ?_) fun s => ?_, fun s => ?_⟩
  · rw [h₁.active, h₂.active]
  · by_cases hs : made s
    · rw [h₁.generators_made s hs, h₂.generators_made s hs]
    · rw [h₁.generators_kept s hs, h₂.generators_kept s hs]
  · rw [h₁.instructions, h₂.instructions]

theorem isCurrent_cleared (m : Machine χ) : ({ m with active := ∅ } : Machine χ).IsCurrent :=
  fun s g hg => absurd hg (getElem?_empty_ne_some s g)

namespace IsStocked

variable {m m' : Machine χ} {l : Program}

theorem listed_setInstructionList (h : m.IsStocked)
    (hl : Machine.setInstructionList l m = (m', .ok ())) :
    Listed (fun s => ∃ a ∈ l, a.Asks m.instructions s) (fun s => ∃ a ∈ l, a.Makes s)
      { m with active := ∅ } m' :=
  h.cleared.listed_eachOf hl

theorem setInstructionList_error (h : m.IsStocked) {e : Failure}
    (hl : Machine.setInstructionList l m = (m', .error e)) :
    ∃ l₁ a l₂, l = l₁ ++ a :: l₂ ∧ Machine.setInstructionList l₁ m = (m', .ok ()) ∧
      ¬ a.IsAccepted m' ∧ e = a.refusal :=
  h.cleared.eachOf_error hl

theorem setInstructionList_ok_iff (h : m.IsStocked) :
    (Machine.setInstructionList l m).2 = .ok () ↔ ∀ l₁ a l₂, l = l₁ ++ a :: l₂ →
      a.IsAccepted (Machine.setInstructionList l₁ m).1 := by
  constructor
  · rintro hok l₁ a l₂ rfl
    by_contra ha
    rcases hl₁ : (Machine.setInstructionList l₁ m).2 with e | _
    · have hstop : (Machine.setInstructionList (l₁ ++ a :: l₂) m).2 = .error e := by
        rw [Machine.setInstructionList, eachOf_append_of_error hl₁]
        exact hl₁
      rw [hstop] at hok
      cases hok
    · have hstop := eachOf_stops hl₁ (activateAtom_of_not_isAccepted ha) l₂
      rw [Machine.setInstructionList, hstop] at hok
      cases hok
  · intro haccepted
    rcases hl : Machine.setInstructionList l m with ⟨m', e | _⟩
    · obtain ⟨l₁, a, l₂, hsplit, hl₁, ha, -⟩ := h.setInstructionList_error hl
      have haccept := haccepted l₁ a l₂ hsplit
      rw [hl₁] at haccept
      exact absurd haccept ha
    · rfl

theorem setInstructionList_congr (h : m.IsStocked) {l' : Program} {m'' : Machine χ}
    (hentries : ∀ a, a ∈ l ↔ a ∈ l') (hl : Machine.setInstructionList l m = (m', .ok ()))
    (hl' : Machine.setInstructionList l' m = (m'', .ok ())) :
    m'.active = m''.active ∧ ∀ s, s ∈ m'.instructions ↔ s ∈ m''.instructions := by
  have hlisted' := (h.listed_setInstructionList hl').congr
    (fun s => exists_congr fun a => and_congr_left fun _ => (hentries a).symm)
    fun s => exists_congr fun a => and_congr_left fun _ => (hentries a).symm
  exact (h.listed_setInstructionList hl).unique hlisted' m.isCurrent_cleared

end IsStocked

/-- After every history of requests to a new machine, what a list of instructions leaves depends on
the set of its entries only, and neither on what was active before nor on the order in which the
registered names are gone through: active is what the entries ask for. A list succeeds if each entry
is accepted where it stands; else it fails at the first that is not, with its refusal, and leaves
what the entries before it do. -/
theorem lists_act_as_sets [Host χ] (account : Host.Account χ) (config : Config)
    (fresh : Source) (rs : List (Request χ)) :
    let m : Machine χ := (new config fresh).served rs
    (∀ (l₁ l₂ : Program) (m₁ m₂ : Machine χ), (∀ a, a ∈ l₁ ↔ a ∈ l₂) →
      setInstructionList l₁ m = (m₁, .ok ()) → setInstructionList l₂ m = (m₂, .ok ()) →
      m₁.active = m₂.active ∧ ∀ s, s ∈ m₁.instructions ↔ s ∈ m₂.instructions) ∧
    (∀ (order : Machine χ → List String) (l : Program) (active : NameMap Generator),
      (∀ m, (order m).Perm m.instructionNames) →
      setInstructionListBy order l { m with active } = setInstructionList l m) ∧
    (∀ (l : Program) (m' : Machine χ), setInstructionList l m = (m', .ok ()) →
      (∀ s, s ∈ m'.active ↔ ∃ a ∈ l, a.Asks m.instructions s) ∧
      (∀ (s : String) g, m'.active[s]? = some g → m'.generators[s]? = some g) ∧
      ∀ s, s ∈ m'.instructions ↔ s ∈ m.instructions ∨ ∃ a ∈ l, a.Makes s) ∧
    ∀ l : Program,
      ((setInstructionList l m).2 = .ok () ↔ ∀ l₁ a l₂, l = l₁ ++ a :: l₂ →
        a.IsAccepted (setInstructionList l₁ m).1) ∧
      ∀ m' e, setInstructionList l m = (m', .error e) →
        ∃ l₁ a l₂, l = l₁ ++ a :: l₂ ∧ setInstructionList l₁ m = (m', .ok ()) ∧
          ¬ a.IsAccepted m' ∧ e = a.refusal := by
  intro m
  have hstocked : m.IsStocked := (IsStocked.new config fresh).served account rs
  refine ⟨fun l₁ l₂ m₁ m₂ => hstocked.setInstructionList_congr, fun order l active horder =>
    hstocked.setInstructionListBy_eq horder l active, fun l m' hl => ?_, fun l =>
      ⟨hstocked.setInstructionList_ok_iff, fun m' e => hstocked.setInstructionList_error⟩⟩
  have hlisted := hstocked.listed_setInstructionList hl
  refine ⟨fun s => ?_, hlisted.current m.isCurrent_cleared, hlisted.instructions⟩
  rw [hlisted.active]
  exact or_iff_right Std.ExtTreeMap.not_mem_empty

/-- Inputs that a list defines before or behind the entry for all inputs. -/
theorem lists_act_as_sets_inputs :
    let m : Machine Scripted := (new {} (.script [])).served []
    let l₁ : Program := [.name "registered.input", .name "input.makeinputs2"]
    let l₂ : Program :=
      [.name "input.makeinputs2", .name "registered.input", .name "input.makeinputs2"]
    ∃ m₁ m₂, setInstructionList l₁ m = (m₁, .ok ()) ∧ setInstructionList l₂ m = (m₂, .ok ()) ∧
      m₁.active = m₂.active ∧ "input.in1" ∈ m₁.active := by
  intro m l₁ l₂
  have hkind : Entry.ofText "registered.input" = .kind .input := by decide +kernel
  have hinputs : Entry.ofText "input.makeinputs2" = .inputs 2 := by decide +kernel
  have haccepted : ∀ a ∈ l₁, ∀ m : Machine Scripted, a.IsAccepted m := by
    intro a ha m
    rcases List.mem_pair.mp ha with rfl | rfl
    · exact ⟨"registered.input", rfl, by rw [hkind]; trivial⟩
    · exact ⟨"input.makeinputs2", rfl, by rw [hinputs]; trivial⟩
  obtain ⟨hcongr, -, hlisted, hlist⟩ := lists_act_as_sets Scripted.account {} (.script []) []
  have hsucceeds : ∀ l : Program, (∀ a ∈ l, a ∈ l₁) →
      ∃ m', setInstructionList l m = (m', .ok ()) := by
    intro l hl
    refine ⟨_, Prod.ext rfl ((hlist l).1.mpr fun l' a l'' hsplit => haccepted a (hl a ?_) _)⟩
    rw [hsplit]
    exact List.mem_append_right _ List.mem_cons_self
  obtain ⟨m₁, hm₁⟩ := hsucceeds l₁ fun a ha => ha
  obtain ⟨m₂, hm₂⟩ := hsucceeds l₂ (by simp [l₁, l₂])
  refine ⟨m₁, m₂, hm₁, hm₂, (hcongr l₁ l₂ m₁ m₂ (by simp [l₁, l₂, or_comm]) hm₁ hm₂).1, ?_⟩
  refine ((hlisted l₁ m₁ hm₁).1 "input.in1").mpr ?_
  refine ⟨.name "input.makeinputs2", by simp [l₁], "input.makeinputs2", rfl, ?_⟩
  rw [hinputs]
  exact ⟨1, by decide, by decide +kernel⟩

end Machine

end PushLang
