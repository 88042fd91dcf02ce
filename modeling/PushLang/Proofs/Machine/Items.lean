import PushLang.Proofs.Builtin.Items
import PushLang.Proofs.Machine.Budget
import PushLang.Proofs.Machine.Standard

namespace PushLang

variable {χ : Type}

theorem Program.length_le_points (p : Program) : p.length ≤ points p := by
  induction p with
  | nil => exact Nat.zero_le _
  | cons a p ih =>
    rw [List.length_cons, points_cons]
    omega

namespace Machine

variable {m m' m₀ : Machine χ} {a : Atom} {bound : Nat}

theorem items_next? (h : m.next? = some (a, m')) : m'.items + 1 = m.items := by
  obtain ⟨E, hdown, rfl⟩ := exists_of_next? h
  exact m.items_drop hdown

variable [Host χ]

/-- Carrying out an atom adds the children of a program, all inputs, or one item. -/
theorem Carries.items_le (hm : m.OwnsPusher) (h : m.Carries a m') (hbound : 1 ≤ bound)
    (ha : a.Within bound) : m'.items ≤ m.items + max bound (m.stack .input).size := by
  cases h with
  | program p =>
    have hitems := m.items_setStack .exec ⟨p ++ (m.stack .exec).down⟩
    have hlength := p.length_le_points
    have hpoints : Program.points p ≤ bound := ha p (Atom.mem_programs_program.mpr (.inl rfl))
    simp only [Stack.size, List.length_append] at hitems
    omega
  | @builtin _ b _ => exact (b.items_run_le hm).trans (by omega)
  | input _ => exact (items_pushInput_le hm _).trans (by omega)
  | literal _ _ => exact (m.items_push _ _).le.trans (by omega)
  | bound _ => exact (m.items_push _ _).le.trans (by omega)
  | dangling _ => exact Nat.le_add_right _ _

/-- The machine has the setup of `m₀`, and the code in it is within the bound. -/
structure Bounded (bound : Nat) (m₀ m : Machine χ) : Prop where
  setup : m.InSetupOf m₀
  ready : m.Ready fun a => a.Within bound ∧ m₀.Knows a

theorem Bounded.dispatch_next (hbound : 1 ≤ bound) (h : Bounded bound m₀ m)
    (hnext : m.next? = some (a, m')) :
    (dispatch a m').2 = .ok () ∧ Bounded bound m₀ (dispatch a m').1 ∧
      (dispatch a m').1.items ≤ m.items + (max bound (m₀.stack .input).size - 1) := by
  obtain ⟨ha, hready⟩ := h.ready.next hnext
  obtain ⟨hknown, hsetup⟩ := h.setup.next hnext
  obtain ⟨hok, hcarries⟩ := hsetup.standard.carries hknown
  refine ⟨hok, ⟨(hsetup.dispatch hknown).2, (hready.dispatch ha).2⟩, ?_⟩
  have hitems := hcarries.items_le hsetup.standard.pusher hbound ha.1
  rw [input_of_setup hsetup.setup] at hitems
  have htaken := items_next? hnext
  omega

theorem Bounded.step (hbound : 1 ≤ bound) (h : Bounded bound m₀ m) (n : Nat) :
    ∃ k ≤ n, (m.step n).2 = .ok k ∧ Bounded bound m₀ (m.step n).1 ∧
      (m.step n).1.items ≤ m.items + k * (max bound (m₀.stack .input).size - 1) := by
  refine step_induction
    (P := fun k m' => Bounded bound m₀ m' ∧
      m'.items ≤ m.items + k * (max bound (m₀.stack .input).size - 1))
    (fun k _ a _ ⟨h, hitems⟩ hnext => ?_) ⟨h, by omega⟩ n
  obtain ⟨hok, hleft, hstep⟩ := h.dispatch_next hbound hnext
  rw [Nat.succ_mul]
  exact ⟨hok, hleft, by omega⟩

/-- Each further step of a run adds at most a fixed number of items to the stacks, so the run adds
at most that many times the steps it takes. The number is one below the bound on the code at the
start, or below the number of inputs if there are more. Loaded programs count as pending code. -/
theorem items_grow_linearly (m : Machine χ) (h : m.IsStandard) (hinput : m.BindsOnly (· ≠ .input))
    {bound : Nat} (hbound : m.codeBound ≤ bound) (n : Nat) :
    (m.step (n + 1)).1.items ≤
        (m.step n).1.items + (max bound (m.stack .input).size - 1) ∧
      ∃ k ≤ n, (m.step n).2 = .ok k ∧
        (m.step n).1.items ≤ m.items + k * (max bound (m.stack .input).size - 1) := by
  have hlimits := m.limits_le_codeBound.trans hbound
  have hpositive : 1 ≤ bound := by omega
  have hready := h.ready_within hbound
  obtain ⟨k, hk, hok, hend, hitems⟩ := Bounded.step hpositive ⟨⟨h, rfl, hinput⟩, hready⟩ n
  refine ⟨?_, k, hk, hok, hitems⟩
  rcases hrun : m.step n with ⟨m', result⟩
  rw [hrun] at hok hend
  dsimp only at hok hend ⊢
  subst hok
  obtain ⟨l, hl, -, -, hone⟩ := hend.step hpositive 1
  have hmul := Nat.mul_le_mul_right (max bound (m.stack .input).size - 1) hl
  rw [Nat.one_mul] at hmul
  rw [step_add, hrun]
  exact hone.trans (Nat.add_le_add_left hmul _)

/-- Code that hands on both inputs over and over. -/
theorem items_grow_linearly_looping :
    let m : Machine Scripted :=
      { contents :=
          { exec := ⟨[.instruction ⟨0, "exec.y"⟩, .instruction ⟨1, "input.inall"⟩]⟩
            input := ⟨[.integer 1, .boolean true]⟩ }
        operations := #[.builtin (.exec .y), .builtin (.input .inAll)]
        source := .script []
        config := { maxPoints := 6, maxRandomSize := 5 } }
    m.IsStandard ∧ m.BindsOnly (· ≠ .input) ∧ m.codeBound ≤ 6 ∧
      ∃ k ≤ 40, (m.step 40).2 = .ok k ∧ (m.step 40).1.items ≤ 4 + k * 5 := by
  intro m
  have hstd : m.IsStandard := by
    refine refersOnly_of_operations (fun op hop => ?_) fun x => by rintro ⟨⟩
    have hop : op = .builtin (.exec .y) ∨ op = .builtin (.input .inAll) := by
      simpa [m] using hop
    rcases hop with rfl | rfl <;> trivial
  have hinput : m.BindsOnly (· ≠ .input) := fun s c hc => absurd hc (getElem?_empty_ne_some s c)
  have hbound : m.codeBound ≤ 6 := by decide
  exact ⟨hstd, hinput, hbound, (items_grow_linearly m hstd hinput hbound 40).2⟩

end Machine

end PushLang
