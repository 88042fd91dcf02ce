import PushLang.Proofs.Random.Draw

namespace PushLang

namespace Random

/-- A nested program made of atoms with the property `Q` has it too, up to a number of points. -/
def Nests (Q : Atom → Prop) (bound : Nat) : Prop :=
  ∀ p : Program, p ≠ [] → (∀ a ∈ p, Q a) → Program.points p ≤ bound → Q (.program p)

variable {generators : List Generator} {config : Config} {Q : Atom → Prop}

theorem Generator.points_generate (g : Generator) (s : Source) :
    (g.generate config s).1.points = 0 := by
  cases g <;> simp [generate, Atom.points]

theorem atom_ok (hne : generators ≠ []) (hQ : ∀ g ∈ generators, ∀ s, Q (g.generate config s).1)
    (s : Source) : ∃ a s', atom generators config s = (.ok a, s') ∧ a.points = 0 ∧ Q a := by
  have hpos : 0 < generators.length := List.length_pos_iff.mpr hne
  have hi := Source.draw_lt hpos s
  let drawn := s.draw generators.length
  let made := (generators.get ⟨drawn.1, hi⟩).generate config drawn.2
  refine ⟨made.1, made.2, ?_, Generator.points_generate _ _, hQ _ (List.get_mem _ _) _⟩
  rw [atom, if_neg (by simpa using hne)]
  simp only [List.getElem?_eq_getElem hi]
  rfl

theorem children_ok {child : Nat → Source → Except Failure Atom × Source} {P : Nat → Atom → Prop}
    {sizes : List Nat}
    (h : ∀ size ∈ sizes, ∀ s, ∃ a s', child size s = (.ok a, s') ∧ P size a) (s : Source) :
    ∃ p s', children child sizes s = (.ok p, s') ∧ List.Forall₂ P sizes p := by
  induction sizes generalizing s with
  | nil => exact ⟨[], s, rfl, .nil⟩
  | cons size sizes ih =>
    obtain ⟨a, s₁, ha, hPa⟩ := h size List.mem_cons_self s
    obtain ⟨p, s₂, hp, hPp⟩ := ih (fun n hn => h n (List.mem_cons_of_mem _ hn)) s₁
    refine ⟨a :: p, s₂, ?_, .cons hPa hPp⟩
    simp only [children, ha, hp]

theorem points_of_sizes {sizes : List Nat} {p : Program}
    (h : List.Forall₂ (fun size a => 1 + a.points = size ∧ Q a) sizes p) :
    Program.points p = sizes.sum ∧ ∀ a ∈ p, Q a := by
  induction h with
  | nil => exact ⟨by simp, by simp⟩
  | cons ha _ ih =>
    obtain ⟨hpoints, hQ⟩ := ih
    refine ⟨by rw [Program.points_cons, List.sum_cons, hpoints, ha.1], ?_⟩
    intro b hb
    rcases List.mem_cons.mp hb with rfl | hb
    · exact ha.2
    · exact hQ b hb

theorem codeWithin_ok (hne : generators ≠ [])
    (hQ : ∀ g ∈ generators, ∀ s, Q (g.generate config s).1) {bound : Nat} (hN : Nests Q bound)
    (depth size : Nat) (hdepth : size ≤ depth) (hbound : size ≤ bound + 1) (s : Source) :
    ∃ p s', codeWithin generators config depth size s = (.ok p, s') ∧
      Program.points p = size - 1 ∧ ∀ a ∈ p, Q a := by
  -- The depth only carries the recursion: a part is smaller than the whole, so the size stays
  -- within the depth that is left.
  induction depth generalizing size s with
  | zero => exact ⟨[], s, rfl, by simp; omega, by simp⟩
  | succ depth ih =>
    have hsum := distribution_sum (size - 1) s
    have hpos := distribution_positive (size - 1) s
    let child (size : Nat) (s : Source) :=
      if size = 1 then atom generators config s
      else
        let drawn := codeWithin generators config depth size s
        (drawn.1.map Atom.program, drawn.2)
    have hchild : ∀ part ∈ (distribution (size - 1) s).1, ∀ t, ∃ a t',
        child part t = (.ok a, t') ∧ 1 + a.points = part ∧ Q a := by
      intro part hpart t
      have hle := List.le_sum_of_mem hpart
      have hpart := hpos part hpart
      by_cases hone : part = 1
      · obtain ⟨a, t', ha, hpoints, hQa⟩ := atom_ok hne hQ t
        exact ⟨a, t', (if_pos hone).trans ha, by omega, hQa⟩
      · obtain ⟨q, t', hq, hpoints, hQq⟩ := ih part (by omega) (by omega) t
        refine ⟨.program q, t', ?_, by rw [Atom.points_program]; omega, ?_⟩
        · simp only [child, if_neg hone, hq]
          rfl
        · apply hN q _ hQq (by omega)
          -- A part of two or more makes a program with at least one child.
          rintro rfl
          rw [Program.points_nil] at hpoints
          omega
    obtain ⟨p, s', hp, hsizes⟩ := children_ok hchild (distribution (size - 1) s).2
    obtain ⟨hpoints, hall⟩ := points_of_sizes hsizes
    exact ⟨p, s', hp, by omega, hall⟩

theorem code_ok (hne : generators ≠ []) (hQ : ∀ g ∈ generators, ∀ s, Q (g.generate config s).1)
    {bound : Nat} (hN : Nests Q bound) {size : Nat} (hsize : size ≤ bound + 1) (s : Source) :
    ∃ p s', code generators config size s = (.ok p, s') ∧
      Program.points p = size - 1 ∧ ∀ a ∈ p, Q a :=
  codeWithin_ok hne hQ hN size size le_rfl hsize s

theorem distribution_zero (s : Source) : (distribution 0 s).1 = [] := by
  simp only [distribution, parts_zero]
  exact (Source.shuffle_perm [] s).eq_nil

theorem children_error {child : Nat → Source → Except Failure Atom × Source} {size : Nat}
    {s : Source} {e : Failure} (h : (child size s).1 = .error e) (sizes : List Nat) :
    (children child (size :: sizes) s).1 = .error e := by
  rw [children]
  rcases hchild : child size s with ⟨e' | a, s'⟩
  · rw [hchild] at h
    exact congrArg Except.error (Except.error.inj h)
  · rw [hchild] at h
    cases h

theorem codeWithin_nil (depth size : Nat) (hdepth : size ≤ depth) (s : Source) :
    (codeWithin [] config depth size s).1 =
      if 2 ≤ size then .error .noActiveInstructions else .ok [] := by
  induction depth generalizing size s with
  | zero => rw [codeWithin, if_neg (by omega)]
  | succ depth ih =>
    by_cases hsize : 2 ≤ size
    · rw [if_pos hsize]
      have hsum := distribution_sum (size - 1) s
      have hpos := distribution_positive (size - 1) s
      simp only [codeWithin]
      rcases hsizes : distribution (size - 1) s with ⟨_ | ⟨part, parts⟩, s'⟩
      · rw [hsizes, List.sum_nil] at hsum
        omega
      · rw [hsizes] at hsum hpos
        rw [List.sum_cons] at hsum
        have hpart := hpos part List.mem_cons_self
        apply children_error
        by_cases hone : part = 1
        · rw [if_pos hone]
          rfl
        · rw [if_neg hone, ih part (by omega), if_pos (by omega)]
          rfl
    · rw [if_neg hsize]
      have hzero : size - 1 = 0 := by omega
      simp only [codeWithin, hzero, distribution_zero, children]

theorem code_nil (config : Config) (size : Nat) (s : Source) :
    (code [] config size s).1 = if 2 ≤ size then .error .noActiveInstructions else .ok [] :=
  codeWithin_nil size size le_rfl s

end Random

end PushLang
