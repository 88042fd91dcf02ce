import PushLang.Proofs.Machine.Standard

namespace PushLang.Machine

variable {χ : Type} {m m' : Machine χ}

theorem with_contents_of_setup (h : m'.clearStacks.setup = m.clearStacks.setup)
    (contents : Stacks) :
    ({ m' with contents } : Machine χ) =
      { m with
        contents
        bindings := m'.bindings
        source := m'.source
        evaluations := m'.evaluations } := by
  have hwork := congrArg
    (fun x : Machine χ =>
      { x with
        contents
        bindings := m'.bindings
        source := m'.source
        evaluations := m'.evaluations }) h
  exact hwork

theorem IsStandard.clearStacks (h : m.IsStandard) : m.clearStacks.IsStandard := by
  refine h.congr rfl rfl rfl fun a ha => (isStandard_iff.mp h).2.1 a ?_
  rcases mem_atoms.mp ha with ⟨k, v, hv, -⟩ | hbound
  · cases k <;> cases hv
  · exact mem_atoms.mpr (.inr hbound)

/-- What one machine has on its stacks goes with what was bound in another one. -/
theorem IsStandard.merge (h : m.IsStandard) {used : Machine χ}
    (hused : used.clearStacks.IsStandard) (hsetup : used.operations = m.operations)
    (hoperations : m'.operations = m.operations) (hinstructions : m'.instructions = m.instructions)
    (hpusher : m'.pusher = m.pusher) (hcontents : m'.contents = m.contents)
    (hbindings : m'.bindings = used.bindings) : m'.IsStandard := by
  refine h.congr hoperations hinstructions hpusher fun a ha => ?_
  rcases mem_atoms.mp ha with ⟨k, v, hv, rfl⟩ | ⟨s, c, hc, rfl⟩
  · rw [stack, hcontents] at hv
    exact (isStandard_iff.mp h).2.1 _ (mem_atoms.mpr (.inl ⟨k, v, hv, rfl⟩))
  · rw [hbindings] at hc
    have hknown := (isStandard_iff.mp hused).2.1 _ (mem_atoms.mpr (.inr ⟨s, c, hc, rfl⟩))
    exact hknown.congr hsetup.symm

/-- The machine with another count of evaluations. -/
def counted (m : Machine χ) (e : Nat) : Machine χ := { m with evaluations := e }

@[simp] theorem operations_counted (m : Machine χ) (e : Nat) :
    (m.counted e).operations = m.operations := rfl

@[simp] theorem instructions_counted (m : Machine χ) (e : Nat) :
    (m.counted e).instructions = m.instructions := rfl

@[simp] theorem bindings_counted (m : Machine χ) (e : Nat) :
    (m.counted e).bindings = m.bindings := rfl

theorem next?_counted (m : Machine χ) (e : Nat) :
    (m.counted e).next? = m.next?.map fun next => (next.1, next.2.counted (e + 1)) := by
  have hstack : (m.counted e).stack .exec = m.stack .exec := rfl
  unfold next?
  rw [hstack]
  split
  · rfl
  · rfl

variable [Host χ]

theorem IsStandard.invoke_counted (h : m.IsStandard) {g : Handle}
    (hg : m.Denotes Operation.IsStandard g) (e : Nat) :
    invoke g (m.counted e) = ((invoke g m).1.counted e, (invoke g m).2) := by
  simp only [invoke, operations_counted]
  rcases hop : m.operations[g.serial]? with _ | op
  · rfl
  · obtain ⟨P, hP⟩ := op.exists_parts fun x hx => by
      have hstandard := hg op hop
      rw [hx] at hstandard
      exact hstandard
    exact Operation.commutes hP h.pusher (frame_evaluations e)

theorem IsStandard.dispatch_counted (h : m.IsStandard) {a : Atom} (ha : m.Knows a) (e : Nat) :
    Machine.dispatch a (m.counted e) =
      ((Machine.dispatch a m).1.counted e, (Machine.dispatch a m).2) := by
  cases a with
  | program p | integer n | float x | boolean b => rfl
  | instruction g => exact h.invoke_counted (Atom.holdsOnly_instruction.mp ha) e
  | name s =>
    simp only [Machine.dispatch, resolve, bindings_counted, instructions_counted]
    rcases m.bindings[s]? with _ | c
    · rcases hname : m.instructions[s]? with _ | g
      · rfl
      · exact h.invoke_counted (h.operations g (.registered hname)) e
    · rfl

/-- Whatever was counted before, a run takes the same steps and adds their number to the count. -/
theorem IsStandard.stepsFrom_counted (h : m.IsStandard) (done n : Nat) :
    ∃ k ≤ n, ∀ e, stepsFrom done n (m.counted e) =
      ((stepsFrom done n m).1.counted (e + k), .ok (done + k)) := by
  induction n generalizing m done with
  | zero => exact ⟨0, Nat.le_refl _, fun e => rfl⟩
  | succ n ih =>
    simp only [stepsFrom, next?_counted]
    rcases hnext : m.next? with _ | ⟨a, m₁⟩
    · exact ⟨0, Nat.zero_le _, fun e => rfl⟩
    · obtain ⟨ha, hstd⟩ := h.next hnext
      obtain ⟨hok, hleft⟩ := hstd.dispatch ha
      simp only [Option.map_some, hstd.dispatch_counted ha]
      rcases hdispatch : Machine.dispatch a m₁ with ⟨m₂, result⟩
      rw [hdispatch] at hok hleft
      dsimp only at hok hleft ⊢
      subst hok
      obtain ⟨k, hk, hsteps⟩ := ih hleft (done + 1)
      refine ⟨k + 1, Nat.succ_le_succ hk, fun e => ?_⟩
      dsimp only
      rw [hsteps (e + 1), Nat.add_right_comm e, Nat.add_right_comm done]
      rfl

theorem IsStandard.execute_counted {p : Program} (h : (m.loadProgram p).IsStandard) (n : Nat) :
    ∃ k ≤ n, (m.execute p n).2 = .ok k ∧
      ∀ e, (m.counted e).execute p n = ((m.execute p n).1.counted (e + k), .ok k) := by
  obtain ⟨k, hk, hsteps⟩ := h.stepsFrom_counted 0 n
  rw [Nat.zero_add] at hsteps
  exact ⟨k, hk, congrArg Prod.snd (hsteps m.evaluations), hsteps⟩

/-- What a machine is used for: a program that runs for some steps from what is put on the stacks. -/
structure Use where
  contents : Stacks
  program : Program
  budget : Nat

/-- The machine after the use, whatever was on its stacks before. -/
def use (m : Machine χ) (u : Use) : Machine χ :=
  (({ m with contents := u.contents } : Machine χ).execute u.program u.budget).1

theorem InSetupOf.use (h : m'.clearStacks.InSetupOf m.clearStacks) {u : Use}
    (hu : (({ m with contents := u.contents } : Machine χ).loadProgram u.program).IsStandard) :
    (m'.use u).clearStacks.InSetupOf m.clearStacks := by
  let start : Machine χ := ({ m' with contents := u.contents } : Machine χ).loadProgram u.program
  have hoperations : m'.clearStacks.operations = m.clearStacks.operations :=
    operations_of_setup h.setup
  have hinstructions : m'.clearStacks.instructions = m.clearStacks.instructions :=
    instructions_of_setup h.setup
  have hpusher : m'.clearStacks.pusher = m.clearStacks.pusher := pusher_of_setup h.setup
  have hstart : start.IsStandard :=
    hu.merge h.standard hoperations hoperations hinstructions hpusher rfl rfl
  have hrun : (m'.use u).InSetupOf start := InSetupOf.step ⟨hstart, rfl, h.bound⟩ u.budget
  have hsetup : start.clearStacks.setup = m.clearStacks.setup := h.setup
  exact ⟨hrun.standard.clearStacks, (clearStacks_of_setup hrun.setup).trans hsetup, hrun.bound⟩

theorem InSetupOf.history (h : m.IsStandard) (hbound : m.BindsOnly (· ≠ .input))
    {history : List Use} (hall : ∀ u ∈ history,
      (({ m with contents := u.contents } : Machine χ).loadProgram u.program).IsStandard) :
    (history.foldl Machine.use m).clearStacks.InSetupOf m.clearStacks := by
  -- The machine in use changes, the one whose setup it has stays.
  suffices hfrom : ∀ m' : Machine χ, m'.clearStacks.InSetupOf m.clearStacks →
      (history.foldl Machine.use m').clearStacks.InSetupOf m.clearStacks from
    hfrom m ⟨h.clearStacks, rfl, hbound⟩
  induction history with
  | nil => exact fun m' h => h
  | cons u history ih =>
    obtain ⟨hu, hall⟩ := List.forall_mem_cons.mp hall
    exact fun m' h => ih hall _ (h.use hu)

/-- A run changes nothing of the setup, and the count of evaluations has no part in it. So a used
machine, when cleared, runs from then on like the unused one with its bindings and its random
source. All that is run and put on the stacks refers to instructions of the standard sort only. -/
theorem run_leaves_only_work (m : Machine χ) (h : m.IsStandard)
    (hbound : m.BindsOnly (· ≠ .input)) (n : Nat) :
    (m.step n).1.setup = m.setup ∧
      ∀ p, (m.loadProgram p).IsStandard → (m.execute p n).1.setup = m.setup ∧
        (∃ k ≤ n, (m.execute p n).2 = .ok k ∧
          ∀ e, (m.counted e).execute p n = ((m.execute p n).1.counted (e + k), .ok k)) ∧
        ∀ (history : List Use) (contents : Stacks),
          (∀ u ∈ history,
            (({ m with contents := u.contents } : Machine χ).loadProgram u.program).IsStandard) →
          (({ m with contents } : Machine χ).loadProgram p).IsStandard →
          let used := history.foldl use m
          let unused : Machine χ :=
            { m with contents, bindings := used.bindings, source := used.source }
          ∃ k ≤ n, (unused.execute p n).2 = .ok k ∧
            ({ used.clearStacks with contents } : Machine χ).execute p n =
              ((unused.execute p n).1.counted (used.evaluations + k), .ok k) := by
  refine ⟨(InSetupOf.step ⟨h, rfl, hbound⟩ n).setup, fun p hp =>
    ⟨?_, hp.execute_counted n, fun history contents hall hcontents => ?_⟩⟩
  · have hloaded : (m.loadProgram p).InSetupOf m :=
      ⟨hp, setup_setStack m (k := .exec) (by decide) _, hbound⟩
    exact (hloaded.step n).setup
  · intro used unused
    have hused : used.clearStacks.InSetupOf m.clearStacks := .history h hbound hall
    have hoperations : used.clearStacks.operations = m.clearStacks.operations :=
      operations_of_setup hused.setup
    have hunused : (unused.loadProgram p).IsStandard :=
      hcontents.merge hused.standard hoperations rfl rfl rfl rfl rfl
    obtain ⟨k, hk, hok, hexecute⟩ := hunused.execute_counted n
    refine ⟨k, hk, hok, ?_⟩
    have hcleared : ({ used.clearStacks with contents } : Machine χ) =
        unused.counted used.evaluations := with_contents_of_setup hused.setup contents
    rw [hcleared]
    exact hexecute used.evaluations

/-- A machine that was used twice, once to bind a name and once to draw a number, and then gets new
inputs. -/
theorem run_leaves_only_work_new :
    let m : Machine Scripted := new {} (.script [])
    let defines : Use :=
      ⟨{ input := ⟨[.integer 4]⟩ }, [.name "x", .name "input.inall", .name "integer.define"], 9⟩
    let draws : Use := ⟨{}, [.name "integer.rand"], 9⟩
    let contents : Stacks := { input := ⟨[.integer 7]⟩ }
    let p : Program := [.name "x", .name "input.inall", .name "integer.rand"]
    let used := [defines, draws].foldl use m
    let unused : Machine Scripted :=
      { m with contents, bindings := used.bindings, source := used.source }
    (∀ contents p, (({ m with contents } : Machine Scripted).loadProgram p).IsStandard) ∧
      m.IsStandard ∧ m.BindsOnly (· ≠ .input) ∧
      ∃ k ≤ 9, ({ used.clearStacks with contents } : Machine Scripted).execute p 9 =
        ((unused.execute p 9).1.counted (used.evaluations + k), .ok k) := by
  intro m defines draws contents p used unused
  have hoperations := operations_new (χ := Scripted) {} (.script [])
  have howns := ownsPusher_new (χ := Scripted) {} (.script [])
  have hstd : m.IsStandard := refersOnly_of_operations hoperations howns
  have hany : ∀ contents p,
      (({ m with contents } : Machine Scripted).loadProgram p).IsStandard :=
    refersOnly_restocked hoperations howns
  have hbound : m.BindsOnly (· ≠ .input) := bindsOnly_new {} _ _
  obtain ⟨-, hprogram⟩ := run_leaves_only_work m hstd hbound 9
  obtain ⟨k, hk, -, hexecute⟩ := (hprogram p (isStandard_loaded_new {} _ p)).2.2 [defines, draws]
    contents (fun u _ => hany u.contents u.program) (hany contents p)
  exact ⟨hany, hstd, hbound, k, hk, hexecute⟩

end PushLang.Machine
