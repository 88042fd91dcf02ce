import PushLang.Proofs.Machine.Growth
import PushLang.Proofs.Machine.Meaning

namespace PushLang.Machine

variable {χ : Type} {m m' m₀ : Machine χ} {a : Atom}

def literalKinds : List Kind := [.integer, .float, .boolean, .name]

/-- A machine is standard if it has the registry and the pusher of a standard one, and its atoms are
known there. -/
theorem IsStandard.congr (h : m₀.IsStandard) (hoperations : m.operations = m₀.operations)
    (hinstructions : m.instructions = m₀.instructions) (hpusher : m.pusher = m₀.pusher)
    (hatoms : ∀ a ∈ m.atoms, m₀.Knows a) : m.IsStandard := by
  refine isStandard_iff.mpr ⟨?_, ?_, ?_⟩
  · simp only [Denotes, hoperations, hinstructions]
    exact (isStandard_iff.mp h).1
  · simp only [Knows, Atom.HoldsOnly, Denotes, hoperations]
    exact hatoms
  · rw [OwnsPusher, hpusher]
    exact h.pusher

theorem Knows.congr (h : m₀.Knows a) (hoperations : m.operations = m₀.operations) : m.Knows a := by
  simp only [Knows, Atom.HoldsOnly, Denotes, hoperations]
  exact h

theorem setup_next? (h : m.next? = some (a, m')) : m'.setup = m.setup := by
  obtain ⟨E, -, rfl⟩ := exists_of_next? h
  exact setup_setStack m (k := .exec) (by decide) _

theorem bindings_next? (h : m.next? = some (a, m')) : m'.bindings = m.bindings := by
  obtain ⟨E, -, rfl⟩ := exists_of_next? h
  rfl

/-- The machine is standard and has the setup of `m₀`, and no name is bound to an input. Carrying
out such a name would change the setup, but no instruction binds one. -/
structure InSetupOf (m m₀ : Machine χ) : Prop where
  standard : m.IsStandard
  setup : m.setup = m₀.setup
  bound : m.BindsOnly (· ≠ .input)

variable [Host χ]

theorem IsStandard.ready_knows (h : m.IsStandard) : m.Ready fun a => True ∧ m.Knows a :=
  h.ready (closed_true m) fun _ _ => trivial

theorem IsStandard.next (h : m.IsStandard) (hnext : m.next? = some (a, m')) :
    m'.Knows a ∧ m'.IsStandard := by
  obtain ⟨ha, hready⟩ := h.ready_knows.next hnext
  have hsetup := setup_next? hnext
  have hoperations := operations_of_setup hsetup
  exact ⟨ha.2.congr hoperations, h.congr hoperations (instructions_of_setup hsetup)
    (pusher_of_setup hsetup) fun b hb => (hready.of_mem_atoms hb).2⟩

theorem InSetupOf.next (h : m.InSetupOf m₀) (hnext : m.next? = some (a, m')) :
    m'.Knows a ∧ m'.InSetupOf m₀ := by
  obtain ⟨ha, hstandard⟩ := h.standard.next hnext
  refine ⟨ha, hstandard, (setup_next? hnext).trans h.setup, ?_⟩
  rw [BindsOnly, bindings_next? hnext]
  exact h.bound

/-- Carrying out the atom in the machine `m` may leave this machine. -/
inductive Carries (m : Machine χ) : Atom → Machine χ → Prop where
  | program (p : Program) : Carries m (.program p) (m.setStack .exec ⟨p ++ (m.stack .exec).down⟩)
  | builtin {a : Atom} {b : Builtin} (h : m.meaning? a = some (.builtin b)) : Carries m a (b.run m).1
  | input {a : Atom} {index : Nat} (h : m.meaning? a = some (.input index)) :
      Carries m a (m.pushInput index)
  | literal {a : Atom} {k : Kind} {v : k.Item} (h : k.element.toAtom v = a)
      (hk : k ∈ literalKinds) : Carries m a (m.push k v)
  | bound {s : String} {c : Constant} (h : m.bindings[s]? = some c) :
      Carries m (.name s) (m.push c.kind c.value)
  | dangling {a : Atom} (h : m.meaning? a = none) : Carries m a m

namespace Carries

/-- The closure of a property of atoms covers all that a step does, but for where a bound value
goes. -/
theorem kept_or_bound {Q : Atom → Prop} (hQ : m.Ready Q) (ha : Q a) (h : m.Carries a m') :
    m'.Kept Q m ∨
      ∃ (s : String) (c : Constant), m.bindings[s]? = some c ∧ m' = m.push c.kind c.value := by
  cases h with
  | program p =>
    refine .inl (hQ.kept.setStack (k := .exec) (by decide) fun b hb => ?_)
    rcases List.mem_append.mp hb with hb | hb
    · exact hQ.closed.child p ha b hb
    · exact hQ.stacked .exec b hb
  | @builtin _ b _ => exact .inl (b.keeping hQ.closed (fun _ _ => hQ.pusher) m hQ.kept).2
  | input _ => exact .inl (hQ.kept.pushInput hQ.pusher _)
  | literal hv hk =>
    refine .inl (hQ.kept.push ?_ (hv ▸ ha))
    rintro rfl
    exact absurd hk (by decide)
  | bound hs => exact .inr ⟨_, _, hs, rfl⟩
  | dangling _ => exact .inl hQ.kept

theorem isBound {Q : Atom → Prop} (hQ : m.Ready Q) (ha : Q a) (h : m.Carries a m') {s : String}
    (hs : m'.isBound s) : m.isBound s ∨ Q (.name s) := by
  rcases h.kept_or_bound hQ ha with hkept | ⟨_, _, _, rfl⟩
  · exact hkept.named s hs
  · exact .inl hs

theorem operations (hstd : m.IsStandard) (ha : m.Knows a) (h : m.Carries a m') :
    m'.operations = m.operations := by
  rcases h.kept_or_bound hstd.ready_knows ⟨trivial, ha⟩ with hkept | ⟨_, _, _, rfl⟩
  · exact operations_of_setup hkept.setup
  · rfl

theorem instructions (hstd : m.IsStandard) (ha : m.Knows a) (h : m.Carries a m') :
    m'.instructions = m.instructions := by
  rcases h.kept_or_bound hstd.ready_knows ⟨trivial, ha⟩ with hkept | ⟨_, _, _, rfl⟩
  · exact instructions_of_setup hkept.setup
  · rfl

theorem pusher (hstd : m.IsStandard) (ha : m.Knows a) (h : m.Carries a m') :
    m'.pusher = m.pusher := by
  rcases h.kept_or_bound hstd.ready_knows ⟨trivial, ha⟩ with hkept | ⟨_, _, _, rfl⟩
  · exact pusher_of_setup hkept.setup
  · rfl

theorem setup (hstd : m.IsStandard) (ha : m.Knows a) (hbound : m.BindsOnly (· ≠ .input))
    (h : m.Carries a m') : m'.setup = m.setup := by
  rcases h.kept_or_bound hstd.ready_knows ⟨trivial, ha⟩ with hkept | ⟨s, c, hs, rfl⟩
  · exact hkept.setup
  · exact setup_setStack m (hbound s c hs) _

end Carries

theorem IsStandard.carries_invoke (h : m.IsStandard) {g : Handle}
    (hg : m.Denotes Operation.IsStandard g) (ha : m.meaning? a = m.operations[g.serial]?) :
    (invoke g m).2 = .ok () ∧ m.Carries a (invoke g m).1 := by
  unfold invoke
  split
  · rename_i op hop
    have hstandard := hg op hop
    cases op with
    | builtin b =>
      have hasks : b.AsksNoHost m := fun _ _ => h.pusher
      exact ⟨(Builtin.setup_run hasks).1, .builtin (ha.trans hop)⟩
    | input index => exact ⟨rfl, .input (ha.trans hop)⟩
    | constant c | host x => exact hstandard.elim
  · rename_i hnone
    exact ⟨rfl, .dangling (ha.trans hnone)⟩

/-- In a standard machine no known atom fails, and each does one of the things listed. -/
theorem IsStandard.carries (h : m.IsStandard) (ha : m.Knows a) :
    (dispatch a m).2 = .ok () ∧ m.Carries a (dispatch a m).1 := by
  cases a with
  | program p => exact ⟨rfl, .program p⟩
  | integer n => exact ⟨rfl, .literal (k := .integer) rfl (by decide)⟩
  | float x => exact ⟨rfl, .literal (k := .float) rfl (by decide)⟩
  | boolean b => exact ⟨rfl, .literal (k := .boolean) rfl (by decide)⟩
  | instruction g => exact h.carries_invoke (Atom.holdsOnly_instruction.mp ha) rfl
  | name s =>
    simp only [dispatch, resolve]
    rcases hbound : m.bindings[s]? with _ | c
    · rcases hname : m.instructions[s]? with _ | g
      · exact ⟨rfl, .literal (k := .name) rfl (by decide)⟩
      · refine h.carries_invoke (h.operations g (.registered hname)) ?_
        simp only [meaning?, hbound, hname]
    · exact ⟨rfl, .bound hbound⟩

theorem IsStandard.dispatch (h : m.IsStandard) (ha : m.Knows a) :
    (dispatch a m).2 = .ok () ∧ (dispatch a m).1.IsStandard := by
  obtain ⟨hok, hcarries⟩ := h.carries ha
  have hready := (h.ready_knows.dispatch ⟨trivial, ha⟩).2
  exact ⟨hok, h.congr (hcarries.operations h ha) (hcarries.instructions h ha)
    (hcarries.pusher h ha) fun b hb => (hready.of_mem_atoms hb).2⟩

theorem Carries.bindsOnly {kinds : Kind → Prop} (hm : m.OwnsPusher)
    (hdefine : ∀ k : Kind.Bindable, kinds k) (hbound : m.BindsOnly kinds) (h : m.Carries a m') :
    m'.BindsOnly kinds := by
  cases h with
  | program p => exact hbound
  | @builtin _ b _ =>
    have hparts : (Operation.builtin b : Operation χ).parts? = some b.parts := rfl
    exact Operation.bindsOnly_run hparts (fun k _ => hdefine k) hm hbound
  | @input _ index _ =>
    have hparts : (Operation.input index : Operation χ).parts? = some Part.inputs := rfl
    exact Operation.bindsOnly_run hparts (fun k _ => hdefine k) hm hbound
  | literal _ _ => exact hbound
  | bound _ => exact hbound
  | dangling _ => exact hbound

theorem Carries.bindings (hm : m.OwnsPusher) (h : m.Carries a m')
    (hdefine : ∀ k, m.meaning? a ≠ some (.builtin (.define k))) : m'.bindings = m.bindings := by
  cases h with
  | program p => rfl
  | @builtin _ b hb =>
    have hparts : (Operation.builtin b : Operation χ).parts? = some b.parts := rfl
    refine Operation.bindings_run hparts hm (Builtin.bindings_not_mem_parts ?_)
    rintro k rfl
    exact hdefine k hb
  | @input _ index _ =>
    have hparts : (Operation.input index : Operation χ).parts? = some Part.inputs := rfl
    exact Operation.bindings_run hparts hm (by decide)
  | literal _ _ => rfl
  | bound _ => rfl
  | dangling _ => rfl

namespace InSetupOf

theorem dispatch (h : m.InSetupOf m₀) (ha : m.Knows a) :
    (dispatch a m).2 = .ok () ∧ (dispatch a m).1.InSetupOf m₀ := by
  obtain ⟨hok, hcarries⟩ := h.standard.carries ha
  exact ⟨hok, (h.standard.dispatch ha).2,
    (hcarries.setup h.standard ha h.bound).trans h.setup,
    hcarries.bindsOnly h.standard.pusher (fun k => k.2.1) h.bound⟩

/-- Running a standard machine changes nothing of the setup. -/
theorem step (h : m.InSetupOf m₀) (n : Nat) : (m.step n).1.InSetupOf m₀ := by
  obtain ⟨k, -, -, hend⟩ := step_induction (P := fun _ m => m.InSetupOf m₀)
    (fun _ _ a _ h hnext => (h.next hnext).2.dispatch (h.next hnext).1) h n
  exact hend

end InSetupOf

end PushLang.Machine
