import PushLang.Proofs.Guarded.Stack

namespace PushLang.Stack

variable {α : Type} {s : Stack α}

theorem toNat_position (s : Stack α) (n : Int64) :
    (min (max n.toInt 0) (s.size - 1)).toNat = s.clamp n := by
  rw [clamp]
  omega

theorem yank_perm (s : Stack α) (n : Int64) : (s.yank n).down.Perm s.down := by
  by_cases hs : s.size = 0
  · rw [eq_empty_of_size hs]
    exact .refl _
  · exact (moves_yank hs n).perm

theorem shoveTop_perm (s : Stack α) (n : Int64) : (s.shoveTop n).down.Perm s.down := by
  by_cases hs : s.size = 0
  · rw [eq_empty_of_size hs]
    exact .refl _
  · exact (moves_shoveTop hs n).perm

theorem shoveTop_yank (s : Stack α) (n : Int64) : (s.yank n).shoveTop n = s := by
  by_cases hs : s.size = 0
  · rw [eq_empty_of_size hs]
    rfl
  · have hsize : (s.yank n).size = s.size := (s.yank_perm n).length_eq
    have hback := moves_shoveTop (s := s.yank n) (hsize ▸ hs) n
    rw [clamp_congr hsize] at hback
    exact hback.unique (moves_yank hs n).symm

theorem yank_shoveTop (s : Stack α) (n : Int64) : (s.shoveTop n).yank n = s := by
  by_cases hs : s.size = 0
  · rw [eq_empty_of_size hs]
    rfl
  · have hsize : (s.shoveTop n).size = s.size := (s.shoveTop_perm n).length_eq
    have hback := moves_yank (s := s.shoveTop n) (hsize ▸ hs) n
    rw [clamp_congr hsize] at hback
    exact hback.unique (moves_shoveTop hs n).symm

/-- A single item is at every position. -/
theorem swap_eq_yank (s : Stack α) : s.swap = s.yank 1 := by
  by_cases hs : 2 ≤ s.size
  · have hone : s.clamp 1 = 1 := Nat.min_eq_left (show 1 ≤ s.size - 1 by omega)
    have hyank := moves_yank (s := s) (by omega) 1
    rw [hone] at hyank
    exact (moves_swap hs).unique hyank
  · obtain ⟨_ | ⟨a, _ | ⟨b, rest⟩⟩⟩ := s
    · rfl
    · rfl
    · exact absurd (Nat.le_add_left 2 rest.length) hs

theorem rot_eq_yank (hs : 3 ≤ s.size) : s.rot = s.yank 2 := by
  have htwo : s.clamp 2 = 2 := Nat.min_eq_left (show 2 ≤ s.size - 1 by omega)
  have hyank := moves_yank (s := s) (by omega) 2
  rw [htwo] at hyank
  exact (moves_rot hs).unique hyank

theorem rot_eq_self (hs : s.size < 3) : s.rot = s := by
  obtain ⟨_ | ⟨a, _ | ⟨b, _ | ⟨c, rest⟩⟩⟩⟩ := s
  · rfl
  · rfl
  · rfl
  · exact absurd hs (Nat.not_lt.mpr (Nat.le_add_left 3 rest.length))

theorem rot_perm (s : Stack α) : s.rot.down.Perm s.down := by
  by_cases hs : 3 ≤ s.size
  · exact (moves_rot hs).perm
  · rw [rot_eq_self (Nat.lt_of_not_le hs)]

theorem shove_of_empty (hs : s.size = 0) (a : α) (n : Int64) : s.shove a n = s.push a := by
  have hle := s.clamp_le n
  have hclamp : s.clamp n = 0 := by omega
  exact (hclamp ▸ s.inserts_shove a n).unique (s.inserts_push a)

theorem yankDup_of_peek? {n : Int64} {a : α} (h : s.peek? n = some a) :
    s.yankDup n = s.push a := by
  rw [yankDup, h]

/-- Every integer stands for a depth of a stack that is not empty, the nearest one there is. The
items looked up are those at that depth and at that height, an item is moved from that depth to the
top or from the top to that depth, and put in there above the bottom item. Moving there and back
changes nothing; the fixed rearrangements are moves to the top from the depths one and two. An empty
stack stays as it is, save that an item can be put in. No position used on the way is outside the
items. -/
theorem positions_are_depths (s : Stack α) (n : Int64) :
    let c := (min (max n.toInt 0) (s.size - 1)).toNat
    (s.size ≠ 0 → ∃ a b,
      (s.toList[s.size - 1 - c]? = some a ∧ s.peek? n = some a) ∧
      (s.toList[c]? = some b ∧ s.deepPeek? n = some b) ∧
      (s.size - 1 - c < 2 ^ 63 → s.deepPeek? (.ofNat (s.size - 1 - c)) = some a) ∧
      (s.Moves c 0 (s.yank n) ∧ (s.yank n).top? = some a) ∧
      (s.Moves 0 c (s.shoveTop n) ∧ (s.shoveTop n).down[c]? = s.top?) ∧
      s.yankDup n = s.push a ∧
      ∀ v, s.Inserts c v (s.shove v n) ∧ (s.shove v n).toList.head? = s.toList.head?) ∧
    ((s.yank n).down.Perm s.down ∧ (s.shoveTop n).down.Perm s.down) ∧
    ((s.yank n).shoveTop n = s ∧ (s.shoveTop n).yank n = s) ∧
    (s.swap = s.yank 1 ∧ s.rot = if 3 ≤ s.size then s.yank 2 else s) ∧
    (s.size = 0 → s.peek? n = none ∧ s.deepPeek? n = none ∧ s.yank n = s ∧ s.shoveTop n = s ∧
      s.yankDup n = s ∧ s.swap = s ∧ s.rot = s ∧ ∀ v, s.shove v n = s.push v) ∧
    Guarded.peek? s n = some (s.peek? n) ∧
    Guarded.deepPeek? s n = some (s.deepPeek? n) ∧
    (∀ v, Guarded.shove? s v n = some (s.shove v n)) ∧
    (∀ op : IndexOp, Guarded.applyIndex? op s n = some (op.apply s n)) ∧
    ∀ op : StackOp, Guarded.applyStack? op s = some (op.apply s) := by
  intro c
  refine ⟨fun hs => ?_, ⟨s.yank_perm n, s.shoveTop_perm n⟩,
    ⟨s.shoveTop_yank n, s.yank_shoveTop n⟩, ⟨s.swap_eq_yank, ?_⟩, fun hs => ?_,
    Guarded.peek?_eq s n, Guarded.deepPeek?_eq s n, fun v => Guarded.shove?_eq s v n,
    fun op => Guarded.applyIndex?_eq op s n, fun op => Guarded.applyStack?_eq op s⟩
  · have hc : c = s.clamp n := s.toNat_position n
    obtain ⟨a, ha⟩ := exists_peek? hs n
    obtain ⟨b, hb⟩ := exists_deepPeek? hs n
    have hyank := moves_yank hs n
    have hshove := moves_shoveTop hs n
    rw [hc]
    refine ⟨a, b, ⟨s.peek?_eq n ▸ ha, ha⟩, ⟨s.deepPeek?_eq n ▸ hb, hb⟩,
      fun h => (s.deepPeek?_ofNat h).trans ha, ⟨hyank, ?_⟩, ⟨hshove, ?_⟩,
      yankDup_of_peek? ha, fun v => ?_⟩
    · exact List.head?_eq_getElem?.trans (hyank.getElem?.trans ha)
    · exact hshove.getElem?.trans List.head?_eq_getElem?.symm
    · exact ⟨s.inserts_shove v n, (s.inserts_shove v n).head?_toList (clamp_lt hs n)⟩
  · split
    · rename_i hs
      exact rot_eq_yank hs
    · rename_i hs
      exact rot_eq_self (Nat.lt_of_not_le hs)
  · rw [eq_empty_of_size hs]
    exact ⟨rfl, rfl, rfl, rfl, rfl, rfl, rfl, fun v => shove_of_empty rfl v n⟩

/-- Three items and a position beyond the bottom one, which stands for the depth two. -/
theorem positions_are_depths_three :
    let s : Stack String := .ofList ["a", "b", "c"]
    s.size ≠ 0 ∧ (∃ a, s.toList[0]? = some a ∧ s.peek? 9 = some a) ∧
      (s.Moves 2 0 (s.yank 9) ∧ s.Moves 0 2 (s.shoveTop 9)) ∧
      (s.shove "d" 9).toList.head? = some "a" ∧ (s.yank 9).shoveTop 9 = s ∧ s.rot = s.yank 2 := by
  intro s
  have hsize : s.size ≠ 0 := by decide
  obtain ⟨hitems, -, ⟨hback, -⟩, ⟨-, hrot⟩, -⟩ := positions_are_depths s 9
  obtain ⟨a, b, hpeek, -, -, ⟨hyank, -⟩, ⟨hbury, -⟩, -, hshove⟩ := hitems hsize
  exact ⟨hsize, ⟨a, hpeek⟩, ⟨hyank, hbury⟩, (hshove "d").2, hback, hrot⟩

end PushLang.Stack
