import Mathlib.Order.WellFounded
import PushLang.Proofs.Builtin.Loops
import PushLang.Proofs.Machine.Budget

namespace PushLang

variable {χ : Type}

/-- The program that repeats an atom. -/
def repeating (b : Atom) : Program := [.name "exec.y", b]

theorem points_repeating (b : Atom) : Program.points (repeating b) = 2 + b.points := by
  simp only [repeating, Program.points_cons, Program.points_nil, Atom.points]
  omega

/-- Machines with the same settings in which the name of the repeating combinator is unbound and
registered as built in. -/
structure SupportsRepeating (P : Set (Machine χ)) (config : Config) : Prop where
  settings : ∀ D ∈ P, D.config = config
  combinator : ∀ D ∈ P, D.Calls (.name "exec.y") (.exec .y)

section

variable [Host χ]

/-- Run by a machine of `P` with any code behind it, the atom comes back to that code in finitely
many steps, and the machine is one of `P` again. -/
def ComesBack (P : Set (Machine χ)) (b : Atom) : Prop :=
  ∀ D ∈ P, ∀ E n, ∃ k, ∃ D' ∈ P, ∃ n', (D.paused (b :: E) n).step k = (D'.paused E n', .ok k)

theorem Returns.comesBack {P : Set (Machine χ)} {b : Atom} {F : Machine χ → Machine χ}
    (h : Returns P b F) : ComesBack P b := by
  intro D hD E n
  obtain ⟨hF, hleads⟩ := h D hD
  obtain ⟨k, n', hk⟩ := hleads E n
  exact ⟨k, F D, hF, n', hk⟩

namespace Machine

variable {m m' : Machine χ}

/-- A run that takes all of its steps takes all of them up to any earlier one, and there is code
pending until the last one. -/
theorem step_ok_of_le {n l : Nat} (h : (m.step (n + l)).2 = .ok (n + l)) :
    (m.step n).2 = .ok n ∧ (0 < l → ((m.step n).1.stack .exec).down ≠ []) := by
  rw [step_add] at h
  rcases hn : m.step n with ⟨m₁, e | k⟩
  · rw [hn] at h
    cases h
  · rw [hn] at h
    obtain ⟨hk, hempty⟩ := stepsFrom_ok hn
    have hle : (m.popped n).length ≤ n := length_popped_le n m
    rcases hl : m₁.step l with ⟨m₂, e | j⟩
    · simp only [continued, hl] at h
      cases h
    · simp only [continued, hl, Except.map, Except.ok.injEq] at h
      obtain ⟨hj, -⟩ := stepsFrom_ok hl
      have hle' : (m₁.popped l).length ≤ l := length_popped_le l m₁
      refine ⟨congrArg Except.ok (show k = n by omega), fun hpos hnil => ?_⟩
      -- Without pending code the rest of the run would take no step.
      have hnone : m₁.step l = (m₁, .ok 0) :=
        stepsFrom_of_next?_none (next?_of_exec_nil hnil) 0 l
      rw [hnone] at hl
      cases hl
      omega

theorem step_of_exec_nil {k : Nat} (h : m.step k = (m', .ok k))
    (hnil : (m'.stack .exec).down = []) (l : Nat) : m.step (k + l) = (m', .ok k) := by
  have hnone : m'.step l = (m', .ok 0) := stepsFrom_of_next?_none (next?_of_exec_nil hnil) 0 l
  rw [step_add_of_ok h, hnone]
  rfl

end Machine

section

variable {P : Set (Machine χ)} {config : Config} {D : Machine χ} {b : Atom}

theorem SupportsRepeating.dispatch_combinator (hP : SupportsRepeating P config) (hD : D ∈ P)
    (E : List Atom) (n : Nat) :
    Machine.dispatch (.name "exec.y") (D.paused (b :: E) n) =
      (if 2 + b.points ≤ config.maxPoints then D.paused (b :: .program (repeating b) :: E) n
      else D.paused (b :: E) n, .ok ()) := by
  have hcall : (D.paused (b :: E) n).Calls (.name "exec.y") (.exec .y) := hP.combinator D hD
  have hadmits : D.admits (repeating b) = decide (2 + b.points ≤ config.maxPoints) := by
    rw [Machine.admits, points_repeating, hP.settings D hD]
  have hrun : execY (D.paused (b :: E) n) =
      if D.admits (repeating b) then D.paused (b :: .program (repeating b) :: E) n
      else D.paused (b :: E) n := rfl
  rw [hadmits] at hrun
  simp only [decide_eq_true_eq] at hrun
  rw [Machine.dispatch_of_calls hcall, ← hrun]
  rfl

theorem SupportsRepeating.step_two (hP : SupportsRepeating P config) (hD : D ∈ P)
    (E : List Atom) (n : Nat) :
    (D.paused (.program (repeating b) :: E) n).step 2 =
      (if 2 + b.points ≤ config.maxPoints then D.paused (b :: .program (repeating b) :: E) (n + 2)
      else D.paused (b :: E) (n + 2), .ok 2) := by
  have hopen : (D.paused (.program (repeating b) :: E) n).step 1 =
      (D.paused (.name "exec.y" :: b :: E) (n + 1), .ok 1) :=
    Machine.step_one (Machine.next?_paused D _ E n) rfl
  have hrun := Machine.step_one (Machine.next?_paused D (.name "exec.y") (b :: E) (n + 1))
    (hP.dispatch_combinator hD E (n + 2))
  rw [Machine.step_add_of_ok hopen 1, hrun]
  rfl

/-- The state of a run between two rounds: the steps taken so far, and the machine with its count of
evaluations, which has the repeating program as its only pending code. -/
structure Round (P : Set (Machine χ)) (b : Atom) (m : Machine χ) where
  steps : Nat
  machine : Machine χ
  count : Nat
  mem : machine ∈ P
  reached : m.step steps = (machine.paused [.program (repeating b)] count, .ok steps)

theorem Round.step_two {m : Machine χ} (hP : SupportsRepeating P config)
    (hfit : 2 + b.points ≤ config.maxPoints) (r : Round P b m) :
    m.step (r.steps + 2) =
      (r.machine.paused [b, .program (repeating b)] (r.count + 2), .ok (r.steps + 2)) := by
  rw [Machine.step_add_of_ok r.reached, hP.step_two r.mem, if_pos hfit]
  rfl

theorem Round.exists_next {m : Machine χ} (hP : SupportsRepeating P config)
    (hfit : 2 + b.points ≤ config.maxPoints) (hb : ComesBack P b) (r : Round P b m) :
    ∃ r' : Round P b m, r.steps < r'.steps := by
  obtain ⟨k, D', hD', n', hk⟩ := hb r.machine r.mem [.program (repeating b)] (r.count + 2)
  refine ⟨⟨r.steps + 2 + k, D', n', hD', ?_⟩, by dsimp only; omega⟩
  rw [Machine.step_add_of_ok (r.step_two hP hfit), hk]
  rfl

end

/-- Repeating an atom that comes back, which fits the limit, takes every step that the budget allows
and leaves code pending. There is a round after each round, all with the same program. Beyond the
limit the combinator does nothing, and the atom runs once. -/
theorem repeating_never_stops {P : Set (Machine χ)} {config : Config}
    (hP : SupportsRepeating P config) (b : Atom) {D : Machine χ} (hD : D ∈ P) (n : Nat) :
    let run := (D.paused [] n).execute (repeating b)
    (2 + b.points ≤ config.maxPoints → ComesBack P b →
      (∀ budget, (run budget).2 = .ok budget ∧ ((run budget).1.stack .exec).down ≠ []) ∧
      Program.points (repeating b) = 2 + b.points ∧
      ∃ t : Nat → Nat, StrictMono t ∧ t 0 = 0 ∧ ∀ r, ∃ D' ∈ P, ∃ n',
        run (t r) = (D'.paused [.program (repeating b)] n', .ok (t r)) ∧
        run (t r + 2) = (D'.paused [b, .program (repeating b)] (n' + 2), .ok (t r + 2))) ∧
    (config.maxPoints < 2 + b.points →
      (∀ E k, Machine.dispatch (.name "exec.y") (D.paused (b :: E) k) =
        (D.paused (b :: E) k, .ok ())) ∧
      (∀ budget, run (2 + budget) = Machine.continued (D.paused [b] (n + 2), .ok 2) budget) ∧
      (ComesBack P b → ∃ k, ∃ D' ∈ P, ∃ n', ∀ budget,
        run (2 + k + budget) = (D'.paused [] n', .ok (2 + k)))) := by
  intro run
  let m : Machine χ := D.paused [.program (repeating b)] n
  have hrun : ∀ budget, run budget = m.step budget := fun _ => rfl
  simp only [hrun]
  refine ⟨fun hfit hb => ?_, fun hlarge => ?_⟩
  · -- The rounds follow each other from the first one, which begins at once.
    let first : Round P b m := ⟨0, D, n, hD, rfl⟩
    choose next hnext using fun r : Round P b m => r.exists_next hP hfit hb
    let round : Nat → Round P b m := fun r => next^[r] first
    have hmono : StrictMono fun r => (round r).steps := by
      apply strictMono_nat_of_lt_succ
      intro r
      have hsucc : round (r + 1) = next (round r) := Function.iterate_succ_apply' next r first
      rw [hsucc]
      exact hnext (round r)
    refine ⟨fun budget => ?_, points_repeating b, fun r => (round r).steps, hmono, rfl,
      fun r => ⟨(round r).machine, (round r).mem, (round r).count, (round r).reached,
        (round r).step_two hP hfit⟩⟩
    have hlater : budget + 1 ≤ (round (budget + 1)).steps := hmono.le_apply
    obtain ⟨l, hl⟩ := Nat.exists_eq_add_of_le hlater
    have hall : (m.step (budget + (1 + l))).2 = .ok (budget + (1 + l)) := by
      rw [← Nat.add_assoc, ← hl, (round (budget + 1)).reached]
    obtain ⟨hok, hpending⟩ := Machine.step_ok_of_le hall
    exact ⟨hok, hpending (by omega)⟩
  · have hlarge : ¬ 2 + b.points ≤ config.maxPoints := by omega
    have htwo : m.step 2 = (D.paused [b] (n + 2), .ok 2) := by
      rw [hP.step_two hD, if_neg hlarge]
    refine ⟨fun E k => ?_, fun budget => ?_, fun hb => ?_⟩
    · rw [hP.dispatch_combinator hD, if_neg hlarge]
    · rw [Machine.step_add, htwo]
    · obtain ⟨k, D', hD', n', hk⟩ := hb D hD [] (n + 2)
      have hend : m.step (2 + k) = (D'.paused [] n', .ok (2 + k)) := by
        rw [Machine.step_add_of_ok htwo, hk]
        rfl
      exact ⟨k, D', hD', n', Machine.step_of_exec_nil hend rfl⟩

end

/-- A literal in parentheses is repeated on a new machine, whatever is on its stacks; where programs
may have two points only, it runs once. -/
theorem repeating_never_stops_new :
    let m : Machine Scripted := .new {} (.script [])
    let narrow : Machine Scripted := .new { maxPoints := 2 } (.script [])
    let b : Atom := .program [.integer 1]
    SupportsRepeating m.restocked {} ∧ ComesBack m.restocked b ∧
      ((m.paused [] 0).execute (repeating b) 50).2 = .ok 50 ∧
      SupportsRepeating narrow.restocked { maxPoints := 2 } ∧
      ∃ k, ∃ D ∈ narrow.restocked, ∃ n, ∀ budget,
        (narrow.paused [] 0).execute (repeating b) (2 + k + budget) =
          (D.paused [] n, .ok (2 + k)) := by
  intro m narrow b
  have hsupports : ∀ config,
      SupportsRepeating (Machine.new config (.script []) : Machine Scripted).restocked config := by
    intro config
    have hcalls : (Machine.new config (.script []) : Machine Scripted).Calls (.name "exec.y")
        (.exec .y) :=
      Machine.calls_new config _ (by decide +kernel) (by decide +kernel)
    refine ⟨?_, fun D hD => hcalls.restocked hD⟩
    rintro _ ⟨s, rfl⟩
    rfl
  have hback : ∀ start : Machine Scripted, ComesBack start.restocked b := by
    intro start
    apply Returns.comesBack (F := fun D => D.push .integer 1)
    intro D hD
    refine ⟨Machine.setStack_mem_restocked hD .integer _, fun E => ?_⟩
    exact (Machine.Leads.program D [.integer 1] E).trans (.integer D 1 E)
  obtain ⟨hforever, -, -⟩ := (repeating_never_stops (hsupports {}) b m.mem_restocked 0).1
    (by decide) (hback m)
  obtain ⟨-, -, honce⟩ :=
    (repeating_never_stops (hsupports { maxPoints := 2 }) b narrow.mem_restocked 0).2 (by decide)
  exact ⟨hsupports {}, hback m, (hforever 50).1, hsupports _, honce (hback narrow)⟩

end PushLang
