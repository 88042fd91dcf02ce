import PushLang.Proofs.Builtin.Parts
import PushLang.Proofs.Machine.Steps
import PushLang.Scripted

namespace PushLang

variable {χ : Type}

/-- What the host adds leaves the count of evaluations alone, as it does unless it runs programs. -/
structure Host.LeavesCount (χ : Type) [Host χ] : Prop where
  call : ∀ (x : χ) (m : Machine χ), (Host.call x m).1.evaluations = m.evaluations
  input : ∀ (x : χ) (index : Nat) (m : Machine χ),
    (Host.input x index m).evaluations = m.evaluations

theorem Scripted.perform_evaluations (name : String) (ks : List Kind) (operands : Operands ks)
    (pushes : List Constant) (m : Machine Scripted) (n : Nat) :
    Scripted.perform name ks operands pushes { m with evaluations := n } =
      { Scripted.perform name ks operands pushes m with evaluations := n } := by
  simp only [Scripted.perform]
  generalize (⟨name, _⟩ :: m.journal : List Call) = journal
  induction pushes generalizing m with
  | nil => rfl
  | cons c pushes ih => exact ih (m.push c.kind c.value)

theorem Scripted.commutes_evaluations (x : Scripted) (n : Nat) :
    (Host.call x).Commutes fun m : Machine Scripted => { m with evaluations := n } := by
  cases x with
  | acting name ks peek pushes result =>
    refine (frame_evaluations (P := ks.map .stack) n).action ?_ peek ?_
    · exact fun k hk => List.mem_map_of_mem hk
    · exact fun operands m => congrArg (·, _) (perform_evaluations name ks operands pushes m n)
  | producing name ks peek pushes out result =>
    refine (frame_evaluations (P := .stack out :: ks.map .stack) n).producing ?_ ?_ peek ?_
    · exact fun k hk => List.mem_cons_of_mem _ (List.mem_map_of_mem hk)
    · exact List.mem_cons_self
    · exact fun operands m => congrArg (·, _) (perform_evaluations name ks operands pushes m n)

theorem Scripted.leavesCount : Host.LeavesCount Scripted where
  call x m := by
    have hcall := congrArg (fun r => r.1.evaluations) (x.commutes_evaluations m.evaluations m)
    exact hcall
  input x index m := by
    have hpushes := fun name pushes =>
      congrArg Machine.evaluations (perform_evaluations name [] () pushes m m.evaluations)
    cases x with
    | acting name ks peek pushes result => exact hpushes name pushes
    | producing name ks peek pushes out result => exact hpushes name pushes

namespace Machine

theorem evaluations_next? {m m' : Machine χ} {a : Atom} (h : m.next? = some (a, m')) :
    m'.evaluations = m.evaluations + 1 := by
  obtain ⟨E, -, rfl⟩ := exists_of_next? h
  rfl

theorem exec_of_next?_none {m : Machine χ} (h : m.next? = none) : (m.stack .exec).down = [] := by
  unfold next? at h
  split at h
  · assumption
  · cases h

variable [Host χ]

/-- A run with a budget from where the run `r` ended, unless that failed. -/
def continued (r : Machine χ × Except Failure Nat) (budget : Nat) :
    Machine χ × Except Failure Nat :=
  match r with
  | (m, .ok k) => ((m.step budget).1, (m.step budget).2.map (k + ·))
  | (m, .error e) => (m, .error e)

/-- So many runs of one step, up to one that fails. -/
def singly (m : Machine χ) : Nat → Machine χ × Except Failure Nat
  | 0 => (m, .ok 0)
  | n + 1 => continued (m.singly n) 1

/-- The atoms that a run takes off the pending code, the last of which may fail. -/
def popped : Nat → Machine χ → List Atom
  | 0, _ => []
  | budget + 1, m =>
    match m.next? with
    | none => []
    | some (a, m) =>
      match dispatch a m with
      | (m, .ok ()) => a :: popped budget m
      | (_, .error _) => [a]

theorem step_add (m : Machine χ) (first second : Nat) :
    m.step (first + second) = continued (m.step first) second := by
  rw [step, stepsFrom_add, ← step]
  rcases m.step first with ⟨m', e | k⟩
  · rfl
  · exact stepsFrom_eq k second m'

theorem step_eq_singly (m : Machine χ) (n : Nat) : m.step n = m.singly n := by
  induction n with
  | zero => rfl
  | succ n ih => rw [step_add, ih, singly]

theorem evaluations_pushInput (h : Host.LeavesCount χ) (index : Nat) (m : Machine χ) :
    (m.pushInput index).evaluations = m.evaluations := by
  unfold pushInput
  split
  · exact h.input _ index m
  · have hcopied := congrArg evaluations
      ((frame_evaluations (P := Part.inputs) m.evaluations).copyInput index m)
    exact hcopied

theorem evaluations_inputsAt (h : Host.LeavesCount χ) (indices : List Nat) (m : Machine χ) :
    (inputsAt indices m).evaluations = m.evaluations := by
  induction indices generalizing m with
  | nil => rfl
  | cons i rest ih => exact (ih (m.pushInput i)).trans (evaluations_pushInput h i m)

theorem evaluations_inputOp (h : Host.LeavesCount χ) (op : InputOp) (m : Machine χ) :
    (op.apply m).evaluations = m.evaluations := by
  cases op with
  | index =>
    simp only [InputOp.apply, inputAtIndex]
    split
    · rfl
    · have htake := (frame_evaluations (P := [.stack .integer]) m.evaluations).take
        (k := .integer) (by decide) false m
      have htaken : (m.take .integer false).2.evaluations = m.evaluations :=
        congrArg (fun r => r.2.evaluations) htake
      rcases hresult : m.take .integer false with ⟨_ | n, m₁⟩ <;> rw [hresult] at htaken
      · exact htaken
      · exact (evaluations_pushInput h _ m₁).trans htaken
  | inAll | inAllRev => exact evaluations_inputsAt h _ m

theorem evaluations_run (h : Host.LeavesCount χ) (op : Operation χ) (m : Machine χ) :
    (op.run m).1.evaluations = m.evaluations := by
  have hother : ∀ b : Builtin, b.AsksNoHost m → (b.run m).1.evaluations = m.evaluations :=
    fun b hb => congrArg (fun r => r.1.evaluations)
      (Builtin.commutes (frame_evaluations m.evaluations) hb)
  cases op with
  | builtin b =>
    cases b with
    | input op => exact evaluations_inputOp h op m
    | stack k op | index k op | depth k | equal k | define k | integer op | float op | boolean op
    | nameQuote | code op | exec op | branch d | loop d op => exact hother _ nofun
  | input index => exact evaluations_pushInput h index m
  | constant c => rfl
  | host x => exact h.call x m

theorem evaluations_invoke (h : Host.LeavesCount χ) (g : Handle) (m : Machine χ) :
    (invoke g m).1.evaluations = m.evaluations := by
  unfold invoke
  split
  · exact evaluations_run h _ m
  · rfl

theorem evaluations_dispatch (h : Host.LeavesCount χ) (a : Atom) (m : Machine χ) :
    (dispatch a m).1.evaluations = m.evaluations := by
  cases a with
  | integer n | float x | boolean b | program p => rfl
  | instruction g => exact evaluations_invoke h g m
  | name s =>
    rw [dispatch, resolve]
    split
    · rfl
    · split
      · exact evaluations_invoke h _ m
      · rfl

theorem evaluations_stepsFrom (h : Host.LeavesCount χ) (done n : Nat) (m : Machine χ) :
    (stepsFrom done n m).1.evaluations = m.evaluations + (m.popped n).length := by
  induction n generalizing done m with
  | zero => rfl
  | succ n ih =>
    rw [stepsFrom, popped]
    rcases hnext : m.next? with _ | ⟨a, m₁⟩
    · rfl
    · have htaken := evaluations_next? hnext
      have hdispatch := evaluations_dispatch h a m₁
      dsimp only
      rcases hresult : dispatch a m₁ with ⟨m₂, e | _⟩
      · rw [hresult] at hdispatch
        exact hdispatch.trans htaken
      · rw [hresult] at hdispatch
        dsimp only at hdispatch ⊢
        rw [ih, List.length_cons]
        omega

theorem length_popped_le (n : Nat) (m : Machine χ) : (m.popped n).length ≤ n := by
  induction n generalizing m with
  | zero => exact Nat.le_refl 0
  | succ n ih =>
    rw [popped]
    rcases m.next? with _ | ⟨a, m₁⟩
    · exact Nat.zero_le _
    · dsimp only
      rcases dispatch a m₁ with ⟨m₂, e | _⟩
      · exact Nat.le_add_left 1 n
      · exact Nat.succ_le_succ (ih m₂)

/-- A run without a failure counts what it takes, and stops early only without pending code. -/
theorem stepsFrom_ok {done n k : Nat} {m m' : Machine χ} (h : stepsFrom done n m = (m', .ok k)) :
    k = done + (m.popped n).length ∧ (k < done + n → (m'.stack .exec).down = []) := by
  induction n generalizing done m with
  | zero =>
    cases h
    exact ⟨rfl, fun hlt => absurd hlt (Nat.lt_irrefl _)⟩
  | succ n ih =>
    rw [stepsFrom] at h
    rw [popped]
    rcases hnext : m.next? with _ | ⟨a, m₁⟩
    · rw [hnext] at h
      cases h
      exact ⟨rfl, fun _ => exec_of_next?_none hnext⟩
    · rw [hnext] at h
      dsimp only at h ⊢
      rcases hdispatch : dispatch a m₁ with ⟨m₂, e | _⟩
      · rw [hdispatch] at h
        cases h
      · rw [hdispatch] at h
        obtain ⟨hk, hempty⟩ := ih h
        simp only [List.length_cons]
        exact ⟨by omega, fun hlt => hempty (by omega)⟩

/-- A run that fails takes some steps, and then the next atom fails. -/
theorem step_error {n : Nat} {m m' : Machine χ} {e : Failure} (h : m.step n = (m', .error e)) :
    ∃ k < n, ∃ m₁ a m₂, m.step k = (m₁, .ok k) ∧ m₁.next? = some (a, m₂) ∧
      dispatch a m₂ = (m', .error e) ∧ m.popped n = m.popped k ++ [a] := by
  induction n generalizing m with
  | zero => cases h
  | succ n ih =>
    rcases hnext : m.next? with _ | ⟨a, m₁⟩
    · rw [step, stepsFrom_of_next?_none hnext] at h
      cases h
    · rcases hdispatch : dispatch a m₁ with ⟨m₂, e' | _⟩
      · rw [step, stepsFrom, hnext] at h
        simp only [hdispatch] at h
        cases h
        exact ⟨0, Nat.succ_pos n, m, a, m₁, rfl, hnext, hdispatch, by
          simp only [popped, hnext, hdispatch, List.nil_append]⟩
      · have hone : m.step 1 = (m₂, .ok 1) := step_one hnext hdispatch
        rw [Nat.add_comm, step_add_of_ok hone] at h
        have hrest : m₂.step n = (m', .error e) := by
          rcases hstep : m₂.step n with ⟨m₃, e' | k⟩ <;> rw [hstep] at h <;> cases h
          rfl
        obtain ⟨k, hk, m₃, b, m₄, hstep, hnext', hfails, hpopped⟩ := ih hrest
        refine ⟨k + 1, Nat.succ_lt_succ hk, m₃, b, m₄, ?_, hnext', hfails, ?_⟩
        · rw [Nat.add_comm, step_add_of_ok hone, hstep, Except.map, Nat.add_comm]
        · simp only [popped, hnext, hdispatch, hpopped, List.cons_append]

/-- Budgets compose, and every atom that is taken is counted. A program is executed by loading it,
which puts it in front of the pending code and changes nothing else. -/
theorem budgets_compose (h : Host.LeavesCount χ) (m : Machine χ) (n : Nat) :
    (∀ l, m.step (n + l) = continued (m.step n) l) ∧
      m.step n = m.singly n ∧
      (∀ k, (m.step n).2 = .ok k →
        k ≤ n ∧ (m.step n).1.evaluations = m.evaluations + k ∧
          (k < n → ((m.step n).1.stack .exec).down = [])) ∧
      (∀ e, (m.step n).2 = .error e →
        (m.step n).1.evaluations = m.evaluations + (m.popped n).length ∧
          ∃ k < n, ∃ m₁ a m₂, m.step k = (m₁, .ok k) ∧ m₁.next? = some (a, m₂) ∧
            dispatch a m₂ = ((m.step n).1, .error e) ∧ m.popped n = m.popped k ++ [a]) ∧
      ∀ p, m.execute p n = (m.loadProgram p).step n ∧
        ((m.loadProgram p).stack .exec).down = .program p :: (m.stack .exec).down ∧
        (m.loadProgram p).setStack .exec (m.stack .exec) = m := by
  have hcount : (m.step n).1.evaluations = m.evaluations + (m.popped n).length :=
    evaluations_stepsFrom h 0 n m
  refine ⟨fun l => step_add m n l, step_eq_singly m n, fun k hk => ?_, fun e he => ?_,
    fun p => ⟨rfl, rfl, setStack_push m (k := .exec) (.program p)⟩⟩
  · have hstep : stepsFrom 0 n m = ((m.step n).1, .ok k) := Prod.ext rfl hk
    obtain ⟨hlength, hempty⟩ := stepsFrom_ok hstep
    rw [Nat.zero_add] at hlength hempty
    exact ⟨hlength ▸ length_popped_le n m, hlength ▸ hcount, hempty⟩
  · exact ⟨hcount, step_error (Prod.ext rfl he)⟩

/-- A host instruction that fails on its operand, between two integers: the operand is gone, both
atoms are counted, and the integer behind it is still pending. -/
theorem budgets_compose_failing :
    let fails : Scripted := .acting "fails" [.integer] false [] (.error (.failed "refused"))
    let m : Machine Scripted :=
      { contents := { exec := ⟨[.integer 1, .instruction ⟨0, "fails"⟩, .integer 2]⟩ }
        operations := #[.host fails]
        source := .script []
        config := {} }
    Host.LeavesCount Scripted ∧ m.step (1 + 4) = continued (m.step 1) 4 ∧
      ∃ e, (m.step 5).2 = .error e ∧ (m.step 5).1.evaluations = 2 ∧
        ((m.step 5).1.step 5).2 = .ok 1 := by
  intro fails m
  refine ⟨Scripted.leavesCount, (budgets_compose Scripted.leavesCount m 1).1 4, ?_⟩
  have hfails : ∃ e, (m.step 5).2 = .error e := ⟨_, rfl⟩
  obtain ⟨e, he⟩ := hfails
  obtain ⟨hcount, -⟩ := (budgets_compose Scripted.leavesCount m 5).2.2.2.1 e he
  exact ⟨e, he, hcount, rfl⟩

end Machine

end PushLang
