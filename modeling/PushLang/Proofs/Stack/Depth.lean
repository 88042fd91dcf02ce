import Mathlib.Data.List.Basic
import PushLang.Stack.Basic

namespace PushLang.Stack

variable {α : Type} {s t u r : Stack α} {i j : Nat} {a b : α}

theorem isEmpty_iff : s.isEmpty = true ↔ s.size = 0 := List.isEmpty_iff_length_eq_zero

theorem eq_empty_of_size (hs : s.size = 0) : s = empty := by
  cases s
  exact congrArg mk (List.eq_nil_of_length_eq_zero hs)

theorem toList_ofList (items : List α) : (ofList items).toList = items :=
  List.reverse_reverse items

theorem ofList_toList (s : Stack α) : ofList s.toList = s := by
  rw [ofList, toList, List.reverse_reverse]

theorem toList_push (s : Stack α) (a : α) : (s.push a).toList = s.toList ++ [a] :=
  List.reverse_cons

theorem length_toList (s : Stack α) : s.toList.length = s.size := List.length_reverse

theorem toList_inj : s.toList = t.toList ↔ s = t := by
  refine ⟨fun h => ?_, congrArg toList⟩
  rw [← ofList_toList s, h, ofList_toList]

theorem clamp_le (s : Stack α) (n : Int64) : s.clamp n ≤ s.size - 1 := Nat.min_le_right _ _

theorem clamp_lt (hs : s.size ≠ 0) (n : Int64) : s.clamp n < s.size := by
  have hle := s.clamp_le n
  omega

theorem clamp_congr (h : s.size = t.size) (n : Int64) : s.clamp n = t.clamp n := by
  rw [clamp, clamp, h]

theorem clamp_ofNat (s : Stack α) {k : Nat} (hk : k < 2 ^ 63) :
    s.clamp (.ofNat k) = min k (s.size - 1) := by
  rw [clamp, Int64.toInt_ofNat_of_lt hk, Int.toNat_natCast]

theorem exists_peek? (hs : s.size ≠ 0) (n : Int64) : ∃ a, s.peek? n = some a :=
  ⟨_, List.getElem?_eq_getElem (clamp_lt hs n)⟩

theorem peek?_eq (s : Stack α) (n : Int64) : s.peek? n = s.toList[s.reverseIndex n]? := by
  by_cases hs : s.size = 0
  · rw [eq_empty_of_size hs]
    rfl
  · have hlt := clamp_lt hs n
    rw [toList, peek?, List.getElem?_reverse' (j := s.clamp n)]
    unfold reverseIndex size at *
    omega

theorem deepPeek?_eq (s : Stack α) (n : Int64) : s.deepPeek? n = s.toList[s.clamp n]? := by
  by_cases hs : s.size = 0
  · rw [eq_empty_of_size hs]
    rfl
  · rw [toList, deepPeek?, List.getElem?_reverse (clamp_lt hs n)]
    rfl

theorem exists_deepPeek? (hs : s.size ≠ 0) (n : Int64) : ∃ a, s.deepPeek? n = some a := by
  have hlt : s.clamp n < s.toList.length := s.length_toList ▸ clamp_lt hs n
  exact ⟨_, (s.deepPeek?_eq n).trans (List.getElem?_eq_getElem hlt)⟩

/-- The item at a depth is the one at the height that is left. -/
theorem deepPeek?_ofNat (s : Stack α) {n : Int64} (h : s.reverseIndex n < 2 ^ 63) :
    s.deepPeek? (.ofNat (s.reverseIndex n)) = s.peek? n := by
  have hclamp : s.clamp (.ofNat (s.reverseIndex n)) = s.reverseIndex n := by
    rw [clamp_ofNat s h, reverseIndex]
    omega
  rw [deepPeek?_eq, hclamp, peek?_eq]

/-- The stack `t` is `s` with `a` put in at depth `i`. -/
def Inserts (s : Stack α) (i : Nat) (a : α) (t : Stack α) : Prop :=
  ∃ above below, above.length = i ∧ s.down = above ++ below ∧ t.down = above ++ a :: below

theorem inserts_push (s : Stack α) (a : α) : s.Inserts 0 a (s.push a) :=
  ⟨[], s.down, rfl, rfl, rfl⟩

theorem inserts_insertIdx (h : i ≤ s.size) (a : α) : s.Inserts i a ⟨s.down.insertIdx i a⟩ := by
  obtain ⟨above, below, hdown, hlength, hinsert⟩ := List.exists_of_modifyTailIdx (List.cons a) h
  exact ⟨above, below, hlength, hdown, hinsert⟩

theorem inserts_of_getElem? (h : s.down[i]? = some a) : Inserts ⟨s.down.eraseIdx i⟩ i a s := by
  obtain ⟨hlt, rfl⟩ := List.getElem?_eq_some_iff.mp h
  refine ⟨s.down.take i, s.down.drop (i + 1), List.length_take_of_le (Nat.le_of_lt hlt),
    List.eraseIdx_eq_take_drop_succ _ _, ?_⟩
  rw [← List.drop_eq_getElem_cons hlt, List.take_append_drop]

namespace Inserts

theorem getElem? (h : s.Inserts i a t) : t.down[i]? = some a := by
  obtain ⟨above, below, rfl, -, ht⟩ := h
  rw [ht, List.getElem?_append_right (Nat.le_refl _), Nat.sub_self]
  rfl

theorem perm (h : s.Inserts i a t) : t.down.Perm (a :: s.down) := by
  obtain ⟨above, below, -, hs, ht⟩ := h
  rw [hs, ht]
  exact List.perm_middle

theorem unique (h : s.Inserts i a t) (h' : s.Inserts i a u) : t = u := by
  obtain ⟨above, below, hlength, hs, ht⟩ := h
  obtain ⟨above', below', hlength', hs', hu⟩ := h'
  obtain ⟨rfl, rfl⟩ := List.append_inj (hs.symm.trans hs') (hlength.trans hlength'.symm)
  cases t
  cases u
  exact congrArg mk (ht.trans hu.symm)

theorem source_unique (h : s.Inserts i a u) (h' : t.Inserts i b u) : s = t ∧ a = b := by
  obtain ⟨above, below, hlength, hs, hu⟩ := h
  obtain ⟨above', below', hlength', ht, hu'⟩ := h'
  obtain ⟨rfl, hrest⟩ := List.append_inj (hu.symm.trans hu') (hlength.trans hlength'.symm)
  obtain ⟨rfl, rfl⟩ := List.cons.inj hrest
  cases s
  cases t
  exact ⟨congrArg mk (hs.trans ht.symm), rfl⟩

theorem head?_toList (h : s.Inserts i a t) (hi : i < s.size) :
    t.toList.head? = s.toList.head? := by
  obtain ⟨above, below, hlength, hs, ht⟩ := h
  have hbelow : below ≠ [] := by
    rintro rfl
    rw [size, hs, List.append_nil, hlength] at hi
    exact Nat.lt_irrefl i hi
  rw [toList, toList, hs, ht, List.head?_reverse, List.head?_reverse,
    List.getLast?_append_of_ne_nil _ hbelow, List.getLast?_append_of_ne_nil _ (List.cons_ne_nil _ _),
    List.getLast?_cons_of_ne_nil hbelow]

end Inserts

/-- The item at depth `i` of `s` is at depth `j` of `t`, and all others have kept their order. -/
def Moves (s : Stack α) (i j : Nat) (t : Stack α) : Prop :=
  ∃ r a, Inserts r i a s ∧ Inserts r j a t

namespace Moves

theorem symm (h : s.Moves i j t) : t.Moves j i s := by
  obtain ⟨r, a, hs, ht⟩ := h
  exact ⟨r, a, ht, hs⟩

theorem unique (h : s.Moves i j t) (h' : s.Moves i j u) : t = u := by
  obtain ⟨r, a, hs, ht⟩ := h
  obtain ⟨r', b, hs', hu⟩ := h'
  obtain ⟨rfl, rfl⟩ := hs.source_unique hs'
  exact ht.unique hu

theorem perm (h : s.Moves i j t) : t.down.Perm s.down := by
  obtain ⟨r, a, hs, ht⟩ := h
  exact ht.perm.trans hs.perm.symm

theorem getElem? (h : s.Moves i j t) : t.down[j]? = s.down[i]? := by
  obtain ⟨r, a, hs, ht⟩ := h
  rw [hs.getElem?, ht.getElem?]

end Moves

theorem moves_yank (hs : s.size ≠ 0) (n : Int64) : s.Moves (s.clamp n) 0 (s.yank n) := by
  obtain ⟨a, ha⟩ := exists_peek? hs n
  refine ⟨⟨s.down.eraseIdx (s.clamp n)⟩, a, inserts_of_getElem? ha, ?_⟩
  rw [yank, ha]
  exact inserts_push _ a

theorem moves_shoveTop (hs : s.size ≠ 0) (n : Int64) : s.Moves 0 (s.clamp n) (s.shoveTop n) := by
  have hle := s.clamp_le n
  obtain ⟨down⟩ := s
  obtain ⟨a, rest, rfl⟩ := List.exists_cons_of_ne_nil fun h => hs (congrArg List.length h)
  exact ⟨⟨rest⟩, a, inserts_push ⟨rest⟩ a, inserts_insertIdx (s := ⟨rest⟩) hle a⟩

theorem moves_swap (hs : 2 ≤ s.size) : s.Moves 1 0 s.swap := by
  obtain ⟨down⟩ := s
  match down, hs with
  | a :: b :: rest, _ => exact ⟨⟨a :: rest⟩, b, ⟨[a], rest, rfl, rfl, rfl⟩, inserts_push _ b⟩

theorem moves_rot (hs : 3 ≤ s.size) : s.Moves 2 0 s.rot := by
  obtain ⟨down⟩ := s
  match down, hs with
  | a :: b :: c :: rest, _ =>
    exact ⟨⟨a :: b :: rest⟩, c, ⟨[a, b], rest, rfl, rfl, rfl⟩, inserts_push _ c⟩

theorem inserts_shove (s : Stack α) (a : α) (n : Int64) :
    s.Inserts (s.clamp n) a (s.shove a n) :=
  inserts_insertIdx (Nat.le_trans (s.clamp_le n) (Nat.sub_le _ _)) a

end PushLang.Stack
