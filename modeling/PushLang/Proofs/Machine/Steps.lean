import PushLang.Machine.Step

namespace PushLang.Machine

variable {χ : Type}

/-- The machine with `E` as its pending code and `n` evaluations counted. -/
def paused (D : Machine χ) (E : List Atom) (n : Nat) : Machine χ :=
  { D.setStack .exec ⟨E⟩ with evaluations := n }

theorem stack_paused (D : Machine χ) (E : List Atom) (n : Nat) {k : Kind} (h : k ≠ .exec) :
    (D.paused E n).stack k = D.stack k := Stacks.get_set_of_ne _ h _

theorem setStack_paused (D : Machine χ) (E : List Atom) (n : Nat) {k : Kind} (h : k ≠ .exec)
    (s : Stack k.Item) : (D.paused E n).setStack k s = (D.setStack k s).paused E n := by
  cases k <;> first | rfl | exact absurd rfl h

theorem drop_paused (D : Machine χ) (E : List Atom) (n : Nat) {k : Kind} (h : k ≠ .exec) :
    (D.paused E n).drop k = (D.drop k).paused E n := by
  rw [drop, stack_paused D E n h, setStack_paused D E n h, drop]

theorem next?_paused (D : Machine χ) (a : Atom) (E : List Atom) (n : Nat) :
    (D.paused (a :: E) n).next? = some (a, D.paused E (n + 1)) := rfl

theorem next?_of_exec_nil {m : Machine χ} (h : (m.stack .exec).down = []) : m.next? = none := by
  rw [next?, h]

theorem next?_of_exec {m : Machine χ} {a : Atom} {E : List Atom}
    (h : (m.stack .exec).down = a :: E) :
    m.next? = some (a, m.paused E (m.evaluations + 1)) := by
  rw [next?, h, drop, Stack.pop, h]
  rfl

theorem exists_of_next? {m m' : Machine χ} {a : Atom} (h : m.next? = some (a, m')) :
    ∃ E, (m.stack .exec).down = a :: E ∧
      m' = { m.drop .exec with evaluations := m.evaluations + 1 } := by
  unfold next? at h
  split at h
  · cases h
  · rename_i b E hdown
    cases h
    exact ⟨E, hdown, rfl⟩

theorem drop_push (D : Machine χ) (k : Kind) (v : k.Item) : (D.push k v).drop k = D := by
  cases k <;> rfl

def Registers (m : Machine χ) (s : String) (b : Builtin) : Prop :=
  ∃ h, m.instructions[s]? = some h ∧ m.operations[h.serial]? = some (.builtin b)

/-- Carrying out the atom runs the instruction: it is its handle, or an unbound name of it. -/
def Calls (m : Machine χ) (a : Atom) (b : Builtin) : Prop :=
  match a with
  | .instruction h => m.operations[h.serial]? = some (.builtin b)
  | .name s => m.bindings[s]? = none ∧ m.Registers s b
  | _ => False

/-- Handles given before refer to the same operations as before. -/
theorem operations_define {m : Machine χ} {i : Nat} {op : Operation χ}
    (h : m.operations[i]? = some op) (name : String) (op' : Operation χ) :
    (m.define name op').operations[i]? = some op := by
  obtain ⟨hlt, -⟩ := Array.getElem?_eq_some_iff.mp h
  rw [← h]
  exact (Array.getElem?_push_lt hlt).trans (Array.getElem?_eq_getElem hlt).symm

theorem registers_define (m : Machine χ) (s : String) (b : Builtin) :
    (m.define s (.builtin b)).Registers s b :=
  ⟨_, Std.ExtTreeMap.getElem?_insert_self, Array.getElem?_push_size⟩

theorem Registers.define {m : Machine χ} {s : String} {b : Builtin} (h : m.Registers s b)
    {name : String} (hne : name ≠ s) (op : Operation χ) : (m.define name op).Registers s b := by
  obtain ⟨g, hname, hop⟩ := h
  refine ⟨g, ?_, operations_define hop name op⟩
  have hcompare : compare name s ≠ .eq := fun heq => hne (Std.LawfulEqCmp.eq_of_compare heq)
  rw [← hname]
  exact Std.ExtTreeMap.getElem?_insert.trans (if_neg hcompare)

theorem registers_foldl {s : String} {b : Builtin} {bs : List Builtin}
    (honly : ∀ c ∈ bs, c.name = s → c = b) {m : Machine χ}
    (h : m.Registers s b ∨ b ∈ bs ∧ b.name = s) :
    (bs.foldl (fun m c => m.define c.name (.builtin c)) m).Registers s b := by
  induction bs generalizing m with
  | nil => exact h.resolve_right fun h => absurd h.1 List.not_mem_nil
  | cons c bs ih =>
    refine ih (fun e he => honly e (List.mem_cons_of_mem _ he)) ?_
    by_cases hc : c.name = s
    · obtain rfl := honly c List.mem_cons_self hc
      exact .inl (hc ▸ registers_define m _ c)
    · rcases h with h | ⟨hb, hname⟩
      · exact .inl (h.define hc _)
      · rcases List.mem_cons.mp hb with rfl | hb
        · exact absurd hname hc
        · exact .inr ⟨hb, hname⟩

theorem bindings_foldl (bs : List Builtin) (m : Machine χ) :
    (bs.foldl (fun m c => m.define c.name (.builtin c)) m).bindings = m.bindings := by
  induction bs generalizing m with
  | nil => rfl
  | cons c bs ih => exact ih _

/-- On a new machine a name calls the built-in instruction that has it. -/
theorem calls_new (config : Config) (fresh : Random.Source) {s : String} {b : Builtin}
    (hb : b ∈ Builtin.all ∧ b.name = s) (honly : ∀ c ∈ Builtin.all, c.name = s → c = b) :
    (new config fresh : Machine χ).Calls (.name s) b := by
  -- Loading touches the generators only.
  have hloaded : ∀ (m : Machine χ) (generators : NameMap Random.Generator), m.Calls (.name s) b →
      ({ m with generators } : Machine χ).load.Calls (.name s) b := fun _ _ h => h
  unfold new
  apply hloaded
  refine ⟨?_, registers_foldl honly (.inr hb)⟩
  rw [bindings_foldl]
  exact Std.ExtTreeMap.getElem?_empty

variable [Host χ]

theorem dispatch_of_calls {m : Machine χ} {a : Atom} {b : Builtin} (h : m.Calls a b) :
    dispatch a m = b.run m := by
  cases a with
  | instruction g =>
    have hop : m.operations[g.serial]? = some (.builtin b) := h
    simp only [dispatch, invoke, hop, Operation.run]
  | name s =>
    obtain ⟨hbound, g, hname, hop⟩ := h
    simp only [dispatch, resolve, hbound, hname, invoke, hop, Operation.run]
  | integer n | float x | boolean c | program p => exact h.elim

theorem stepsFrom_of_next?_none {m : Machine χ} (h : m.next? = none) (done budget : Nat) :
    stepsFrom done budget m = (m, .ok done) := by
  cases budget with
  | zero => rfl
  | succ budget => rw [stepsFrom, h]

theorem step_one {m m₁ m₂ : Machine χ} {a : Atom} (hnext : m.next? = some (a, m₁))
    (h : dispatch a m₁ = (m₂, .ok ())) : m.step 1 = (m₂, .ok 1) := by
  simp only [step, stepsFrom, hnext, h]

/-- A run with two budgets is a run with the first one and, unless that fails, one with the second
from where it ended. -/
theorem stepsFrom_add (done first second : Nat) (m : Machine χ) :
    stepsFrom done (first + second) m =
      match stepsFrom done first m with
      | (m', .ok k) => stepsFrom k second m'
      | (m', .error e) => (m', .error e) := by
  induction first generalizing done m with
  | zero => rw [Nat.zero_add]; rfl
  | succ first ih =>
    rw [Nat.succ_add, stepsFrom, stepsFrom]
    rcases hnext : m.next? with _ | ⟨a, m₁⟩
    · exact (stepsFrom_of_next?_none hnext done second).symm
    · dsimp only
      rcases dispatch a m₁ with ⟨m₂, e | _⟩
      · rfl
      · exact ih (done + 1) m₂

theorem stepsFrom_eq (done budget : Nat) (m : Machine χ) :
    stepsFrom done budget m = ((m.step budget).1, (m.step budget).2.map (done + ·)) := by
  induction budget generalizing done m with
  | zero => rfl
  | succ budget ih =>
    rw [step, stepsFrom, stepsFrom]
    rcases m.next? with _ | ⟨a, m₁⟩
    · rfl
    · dsimp only
      rcases dispatch a m₁ with ⟨m₂, e | _⟩
      · rfl
      · dsimp only
        rw [ih (done + 1), ih (0 + 1)]
        rcases (m₂.step budget).2 with e | k
        · rfl
        · simp only [Except.map, Nat.zero_add, Nat.add_assoc]

theorem step_add_of_ok {m m' : Machine χ} {k : Nat} (h : m.step k = (m', .ok k)) (l : Nat) :
    m.step (k + l) = ((m'.step l).1, (m'.step l).2.map (k + ·)) := by
  rw [step, stepsFrom_add, ← step, h]
  exact stepsFrom_eq k l m'

section

variable {P : Nat → Machine χ → Prop}
  (next : ∀ k m a m', P k m → m.next? = some (a, m') →
    (dispatch a m').2 = .ok () ∧ P (k + 1) (dispatch a m').1)
include next

theorem stepsFrom_induction {done : Nat} {m : Machine χ} (start : P done m) (budget : Nat) :
    ∃ k ≤ done + budget, (stepsFrom done budget m).2 = .ok k ∧ P k (stepsFrom done budget m).1 := by
  induction budget generalizing done m with
  | zero => exact ⟨done, Nat.le_refl _, rfl, start⟩
  | succ budget ih =>
    rw [stepsFrom]
    rcases hnext : m.next? with _ | ⟨a, m₁⟩
    · exact ⟨done, Nat.le_add_right _ _, rfl, start⟩
    · obtain ⟨hok, hleft⟩ := next done m a m₁ start hnext
      rcases hdispatch : dispatch a m₁ with ⟨m₂, result⟩
      rw [hdispatch] at hok hleft
      dsimp only at hok hleft
      subst hok
      obtain ⟨k, hk, hsteps, hend⟩ := ih hleft
      simp only [hdispatch]
      exact ⟨k, by omega, hsteps, hend⟩

/-- What holds at the start, and of the machine that each further atom leaves without failing, holds
at the end of a run, which does not fail. It may depend on the number of steps taken. -/
theorem step_induction {m : Machine χ} (start : P 0 m) (budget : Nat) :
    ∃ k ≤ budget, (m.step budget).2 = .ok k ∧ P k (m.step budget).1 := by
  obtain ⟨k, hk, hstep⟩ := stepsFrom_induction next start budget
  exact ⟨k, by omega, hstep⟩

end

/-- With the code `E` pending the machine `D` gets, in finitely many steps and without a failure, to
be the machine `D'` with the code `E'` pending, however many evaluations were counted before. The
pending codes and the counts of `D` and `D'` themselves do not matter. -/
def Leads (D : Machine χ) (E : List Atom) (D' : Machine χ) (E' : List Atom) : Prop :=
  ∀ n, ∃ k n', (D.paused E n).step k = (D'.paused E' n', .ok k)

namespace Leads

variable {D D' D'' : Machine χ} {E E' E'' : List Atom} {a : Atom}

theorem refl (D : Machine χ) (E : List Atom) : D.Leads E D E := fun n => ⟨0, n, rfl⟩

theorem trans (h : D.Leads E D' E') (h' : D'.Leads E' D'' E'') : D.Leads E D'' E'' := by
  intro n
  obtain ⟨k, n', hk⟩ := h n
  obtain ⟨l, n'', hl⟩ := h' n'
  refine ⟨k + l, n'', ?_⟩
  rw [step_add_of_ok hk, hl]
  rfl

theorem single (h : ∀ n, dispatch a (D.paused E n) = (D'.paused E' n, .ok ())) :
    D.Leads (a :: E) D' E' := by
  intro n
  exact ⟨1, n + 1, step_one (next?_paused D a E n) (h (n + 1))⟩

theorem integer (D : Machine χ) (i : Int64) (E : List Atom) :
    D.Leads (.integer i :: E) (D.push .integer i) E := single fun _ => rfl

theorem program (D : Machine χ) (p : Program) (E : List Atom) :
    D.Leads (.program p :: E) D (p ++ E) := single fun _ => rfl

theorem call {b : Builtin} {f : Machine χ → Machine χ} (hcall : D.Calls a b)
    (hb : b.run = Effect.always f) (h : ∀ n, f (D.paused E n) = D'.paused E' n) :
    D.Leads (a :: E) D' E' := by
  apply single
  intro n
  have hpaused : (D.paused E n).Calls a b := hcall
  rw [dispatch_of_calls hpaused, hb, Effect.always, h]

end Leads

end PushLang.Machine
