import PushLang.Proofs.Random.Draw

namespace PushLang.Random

theorem toInt_ofIntClamp_of_nonneg {x : Int} (h : 0 ≤ x) :
    (Int64.ofIntClamp x).toInt = min x Int64.maxValue.toInt := by
  have hlow : Int64.minValue.toInt ≤ x := Int.le_trans (by decide) h
  by_cases hhigh : x ≤ Int64.maxValue.toInt
  · rw [Int64.toInt_ofIntClamp hlow hhigh, Int.min_eq_left hhigh]
  · rw [Int64.ofIntClamp, dif_pos hlow, dif_neg hhigh, Int.min_eq_right (by omega)]

namespace IntegerRange

theorem isProper_iff (r : IntegerRange) :
    r.isProper = true ↔ 0 < r.resolution ∧ r.min < r.max := by
  rw [isProper, Bool.and_eq_true, decide_eq_true_iff, decide_eq_true_iff]

variable {r : IntegerRange}

theorem exact_of_isProper (h : r.isProper = true) :
    0 < r.resolution.toInt ∧ r.min.toInt < r.max.toInt := by
  obtain ⟨hresolution, hrange⟩ := (isProper_iff r).mp h
  exact ⟨Int64.lt_iff_toInt_lt.mp hresolution, Int64.lt_iff_toInt_lt.mp hrange⟩

theorem toInt_width (h : r.isProper = true) :
    (Int64.ofIntClamp (r.max.toInt - r.min.toInt)).toInt =
      Min.min (r.max.toInt - r.min.toInt) Int64.maxValue.toInt ∧
    0 ≤ (Int64.ofIntClamp (r.max.toInt - r.min.toInt)).toInt := by
  obtain ⟨-, hrange⟩ := exact_of_isProper h
  have hwidth : 0 ≤ r.max.toInt - r.min.toInt := by omega
  rw [toInt_ofIntClamp_of_nonneg hwidth]
  exact ⟨rfl, Int.le_min.mpr ⟨hwidth, by decide⟩⟩

/-- A positive divisor is neither zero nor the one that takes the least integer out of range. -/
theorem resolution_ne (h : r.isProper = true) : r.resolution ≠ 0 ∧ r.resolution ≠ -1 := by
  obtain ⟨hpos, -⟩ := exact_of_isProper h
  constructor <;> rintro heq <;> rw [heq] at hpos <;> exact absurd hpos (by decide)

theorem toInt_quotient (h : r.isProper = true) :
    (Int64.ofIntClamp (r.max.toInt - r.min.toInt) / r.resolution).toInt = r.steps := by
  obtain ⟨hpos, -⟩ := exact_of_isProper h
  have hwidth := (toInt_width h).2
  rw [Int64.toInt_div_of_ne_right _ _ (resolution_ne h).2, Int.tdiv_eq_ediv_of_nonneg hwidth, steps,
    Int.toNat_of_nonneg (Int.ediv_nonneg hwidth (Int.le_of_lt hpos))]

/-- As many steps may be drawn as lead neither beyond the largest value of the range nor, taken
together, beyond the largest integer. -/
theorem le_steps_iff (h : r.isProper = true) (k : Nat) :
    k ≤ r.steps ↔ r.min.toInt + k * r.resolution.toInt ≤ r.max.toInt ∧
      k * r.resolution.toInt ≤ Int64.maxValue.toInt := by
  obtain ⟨hpos, -⟩ := exact_of_isProper h
  obtain ⟨hwidth, hnonneg⟩ := toInt_width h
  rw [steps, Int.le_toNat (Int.ediv_nonneg hnonneg (Int.le_of_lt hpos)),
    Int.le_ediv_iff_mul_le hpos, hwidth, Int.le_min]
  refine and_congr_left fun _ => ?_
  constructor <;> intro hle <;> omega

/-- Neither of the two operations is cut off at the bounds of the integers. -/
theorem toInt_value (h : r.isProper = true) {k : Nat} (hk : k ≤ r.steps) :
    (Int64.ofIntClamp (k * r.resolution.toInt)).toInt = k * r.resolution.toInt ∧
      (r.value k).toInt = r.min.toInt + k * r.resolution.toInt := by
  obtain ⟨hpos, -⟩ := exact_of_isProper h
  obtain ⟨hmax, hlargest⟩ := (le_steps_iff h k).mp hk
  have hnonneg : 0 ≤ k * r.resolution.toInt :=
    Int.mul_nonneg (Int.natCast_nonneg k) (Int.le_of_lt hpos)
  have hproduct : (Int64.ofIntClamp (k * r.resolution.toInt)).toInt = k * r.resolution.toInt := by
    rw [toInt_ofIntClamp_of_nonneg hnonneg, Int.min_eq_left hlargest]
  refine ⟨hproduct, ?_⟩
  have hlow := Int64.minValue_le_toInt r.min
  have hhigh := Int64.toInt_le r.max
  rw [value, hproduct, Int64.toInt_ofIntClamp (by omega) (by omega)]

theorem sample_of_isProper (h : r.isProper = true) (s : Source) : r.sample s =
    (r.value (s.draw (r.steps + 1)).1, (s.draw (r.steps + 1)).2) := by
  rw [sample, if_pos h]

/-- A range without room for a step is its least value and draws nothing. Any other one draws up to
a number of steps that is not negative, and each of them leads to the value that many steps above
the least one, in whole numbers, which is in the range. Neither the product nor the sum is cut
off. -/
theorem sample_on_grid (r : IntegerRange) (s : Source) :
    (r.resolution ≤ 0 ∨ r.max ≤ r.min → r.sample s = (r.min, s)) ∧
      (0 < r.resolution → r.min < r.max →
        (0 ≤ (Int64.ofIntClamp (r.max.toInt - r.min.toInt) / r.resolution).toInt ∧
          (r.steps : Int) =
            (Int64.ofIntClamp (r.max.toInt - r.min.toInt) / r.resolution).toInt) ∧
        (∃ k ≤ r.steps, r.sample s = (r.value k, (s.draw (r.steps + 1)).2) ∧
          k = (s.draw (r.steps + 1)).1) ∧
        ∀ k ≤ r.steps, r.min ≤ r.value k ∧ r.value k ≤ r.max ∧
          (Int64.ofIntClamp (k * r.resolution.toInt)).toInt = k * r.resolution.toInt ∧
          (r.value k).toInt = r.min.toInt + k * r.resolution.toInt) := by
  refine ⟨fun hnone => ?_, fun hresolution hrange => ?_⟩
  · have hproper : ¬ r.isProper = true := by
      rw [isProper_iff, not_and_or, Int64.not_lt, Int64.not_lt]
      exact hnone
    rw [sample, if_neg hproper]
  · have hproper := (isProper_iff r).mpr ⟨hresolution, hrange⟩
    obtain ⟨hpos, -⟩ := exact_of_isProper hproper
    have hquotient := toInt_quotient hproper
    refine ⟨⟨hquotient ▸ Int.natCast_nonneg _, hquotient.symm⟩, ⟨_, ?_,
      sample_of_isProper hproper s, rfl⟩, fun k hk => ?_⟩
    · exact Nat.le_of_lt_succ (Source.draw_lt (Nat.succ_pos _) s)
    · obtain ⟨hproduct, hvalue⟩ := toInt_value hproper hk
      have hmax := ((le_steps_iff hproper k).mp hk).1
      have hnonneg : 0 ≤ k * r.resolution.toInt :=
        Int.mul_nonneg (Int.natCast_nonneg k) (Int.le_of_lt hpos)
      refine ⟨Int64.le_iff_toInt_le.mpr ?_, Int64.le_iff_toInt_le.mpr ?_, hproduct, hvalue⟩
      · omega
      · omega

/-- An empty range, and all integers in steps of three. -/
theorem sample_on_grid_wide :
    (IntegerRange.sample ⟨7, 3, 1⟩ (.script [5]) = (7, .script [5])) ∧
      ∀ k ≤ (⟨Int64.minValue, Int64.maxValue, 3⟩ : IntegerRange).steps,
        (IntegerRange.value ⟨Int64.minValue, Int64.maxValue, 3⟩ k).toInt =
          Int64.minValue.toInt + k * 3 :=
  ⟨(sample_on_grid ⟨7, 3, 1⟩ (.script [5])).1 (by decide),
    fun k hk =>
      (((sample_on_grid ⟨Int64.minValue, Int64.maxValue, 3⟩ (.script [])).2 (by decide)
        (by decide)).2.2 k hk).2.2.2⟩

/-- The whole numbers that a range stands for: the steps from its least value up to its largest. -/
def grid (r : IntegerRange) : Set Int :=
  {v | ∃ j : Nat, v = r.min.toInt + j * r.resolution.toInt ∧ v ≤ r.max.toInt}

theorem value_mem_grid (h : r.isProper = true) {k : Nat} (hk : k ≤ r.steps) :
    (r.value k).toInt ∈ r.grid ∧ (r.value k).toInt - r.min.toInt ≤ Int64.maxValue.toInt := by
  obtain ⟨hmax, hlargest⟩ := (le_steps_iff h k).mp hk
  rw [(toInt_value h hk).2]
  exact ⟨⟨k, rfl, hmax⟩, by omega⟩

theorem value_injOn (h : r.isProper = true) :
    Set.InjOn (fun k => (r.value k).toInt) (Set.Iic r.steps) := by
  obtain ⟨hpos, -⟩ := exact_of_isProper h
  intro j hj k hk heq
  simp only [(toInt_value h hj).2, (toInt_value h hk).2] at heq
  have hproducts : (j : Int) * r.resolution.toInt = k * r.resolution.toInt := by omega
  exact Int.ofNat_inj.mp (Int.eq_of_mul_eq_mul_right (Int.ne_of_gt hpos) hproducts)

/-- The numbers of steps run once through the part of the grid that is not further from its least
value than the largest integer. -/
theorem value_bijOn (h : r.isProper = true) :
    Set.BijOn (fun k => (r.value k).toInt) (Set.Iic r.steps)
      {v ∈ r.grid | v - r.min.toInt ≤ Int64.maxValue.toInt} := by
  refine ⟨fun k hk => value_mem_grid h hk, value_injOn h, ?_⟩
  rintro v ⟨⟨j, rfl, hmax⟩, hlargest⟩
  have hj : j ≤ r.steps := (le_steps_iff h j).mpr ⟨hmax, by omega⟩
  exact ⟨j, hj, (toInt_value h hj).2⟩

theorem steps_lt (h : r.isProper = true) : r.steps < 2 ^ 63 := by
  obtain ⟨hpos, -⟩ := exact_of_isProper h
  have hlargest := ((le_steps_iff h r.steps).mp (Nat.le_refl _)).2
  have hself : (r.steps : Int) ≤ r.steps * r.resolution.toInt :=
    le_mul_of_one_le_right (Int.natCast_nonneg _) hpos
  have hmax : Int64.maxValue.toInt < 2 ^ 63 := by decide
  omega

theorem exists_sample (h : r.isProper = true) {k : Nat} (hk : k ≤ r.steps) :
    ∃ s : Source, (s.draw (r.steps + 1)).1 = k ∧ (r.sample s).1 = r.value k := by
  have hsteps := steps_lt h
  obtain ⟨s, hs⟩ := Source.exists_draw (Nat.lt_succ_of_le hk) (by omega)
  exact ⟨s, hs, by rw [sample_of_isProper h, hs]⟩

/-- What can be drawn at all is what the numbers of steps lead to. -/
theorem exists_sample_iff (h : r.isProper = true) (v : Int) :
    (∃ s, (r.sample s).1.toInt = v) ↔
      v ∈ r.grid ∧ v - r.min.toInt ≤ Int64.maxValue.toInt := by
  constructor
  · rintro ⟨s, rfl⟩
    rw [sample_of_isProper h]
    exact value_mem_grid h (Nat.le_of_lt_succ (Source.draw_lt (Nat.succ_pos _) s))
  · intro hv
    obtain ⟨k, hk, rfl⟩ := (value_bijOn h).surjOn hv
    obtain ⟨s, -, hs⟩ := exists_sample h hk
    exact ⟨s, congrArg Int64.toInt hs⟩

theorem grid_within_iff (h : r.isProper = true) (bound : Int) :
    (∀ v ∈ r.grid, v - r.min.toInt ≤ bound) ↔
      (r.max.toInt - r.min.toInt) / r.resolution.toInt * r.resolution.toInt ≤ bound := by
  obtain ⟨hpos, hrange⟩ := exact_of_isProper h
  constructor
  · intro hall
    obtain ⟨j, hj⟩ := Int.eq_ofNat_of_zero_le
      (Int.ediv_nonneg (show 0 ≤ r.max.toInt - r.min.toInt by omega) (Int.le_of_lt hpos))
    have hle := Int.ediv_mul_le (r.max.toInt - r.min.toInt) (Int.ne_of_gt hpos)
    rw [hj] at hle ⊢
    have hlast := hall (r.min.toInt + j * r.resolution.toInt) ⟨j, rfl, by omega⟩
    omega
  · rintro hlast v ⟨j, rfl, hmax⟩
    have hj : (j : Int) ≤ (r.max.toInt - r.min.toInt) / r.resolution.toInt :=
      (Int.le_ediv_iff_mul_le hpos).mpr (by omega)
    have hle := Int.mul_le_mul_of_nonneg_right hj (Int.le_of_lt hpos)
    omega

/-- Each number of steps is drawn from some source, and different ones lead to different values of
the grid. They lead to every value of it exactly if its last one is not further from the least value
than the largest integer. -/
theorem covers_grid_iff (r : IntegerRange) (hresolution : 0 < r.resolution)
    (hrange : r.min < r.max) :
    (∀ k ≤ r.steps, ∃ s : Source,
      (s.draw (r.steps + 1)).1 = k ∧ (r.sample s).1 = r.value k) ∧
    Set.BijOn (fun k => (r.value k).toInt) (Set.Iic r.steps)
      {v ∈ r.grid | v - r.min.toInt ≤ Int64.maxValue.toInt} ∧
    ((∀ v ∈ r.grid, ∃ s, (r.sample s).1.toInt = v) ↔
      (r.max.toInt - r.min.toInt) / r.resolution.toInt * r.resolution.toInt ≤
        Int64.maxValue.toInt) := by
  have hproper := (isProper_iff r).mpr ⟨hresolution, hrange⟩
  refine ⟨fun k hk => exists_sample hproper hk, value_bijOn hproper, ?_⟩
  rw [← grid_within_iff hproper]
  refine forall₂_congr fun v hv => ?_
  rw [exists_sample_iff hproper, and_iff_right hv]

/-- From one end of the integers to the other in steps of the largest one, the third value of the
grid is never drawn. A narrow range is covered. -/
theorem covers_grid_iff_wide :
    (9223372036854775806 ∈ grid ⟨Int64.minValue, Int64.maxValue, Int64.maxValue⟩ ∧
      ¬ ∀ v ∈ grid ⟨Int64.minValue, Int64.maxValue, Int64.maxValue⟩, ∃ s,
        (IntegerRange.sample ⟨Int64.minValue, Int64.maxValue, Int64.maxValue⟩ s).1.toInt = v) ∧
    ∀ v ∈ grid ⟨-100, 100, 1⟩, ∃ s, (IntegerRange.sample ⟨-100, 100, 1⟩ s).1.toInt = v :=
  ⟨⟨⟨2, by decide, by decide⟩, fun hall =>
      absurd ((covers_grid_iff ⟨Int64.minValue, Int64.maxValue, Int64.maxValue⟩ (by decide)
        (by decide)).2.2.mp hall) (by decide)⟩,
    (covers_grid_iff ⟨-100, 100, 1⟩ (by decide) (by decide)).2.2.mpr (by decide)⟩

end IntegerRange

end PushLang.Random
