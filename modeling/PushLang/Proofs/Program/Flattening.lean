import PushLang.Proofs.Program.Replacement

namespace PushLang

theorem Program.eq_take_append_of_getElem? {s : Program} {k : Nat} {a : Atom} (h : s[k]? = some a) :
    s = s.take k ++ a :: s.drop (k + 1) := by
  obtain ⟨hk, hget⟩ := List.getElem?_eq_some_iff.mp h
  rw [← hget, List.getElem_cons_drop, List.take_append_drop]

namespace Atom

theorem weight_program (p : Program) : (program p).weight = 1 + Program.points p := by
  rw [weight, points_program]

/-- The size of the tree changes as the size at the position does. -/
theorem weight_setAt (v : Atom) {a b : Atom} {q : List Nat} (h : a.at? q = some b) :
    (a.setAt v q).weight + b.weight = a.weight + v.weight := by
  induction q generalizing a with
  | nil =>
    cases h
    rw [setAt_nil, Nat.add_comm]
  | cons k q ih =>
    obtain ⟨p, c, rfl, hc, hrest⟩ := eq_program_of_at?_cons h
    have hchild := ih hrest
    have houter := Program.points_set hc (c.setAt v q)
    rw [setAt_cons, modify_eq_set hc, weight_program, weight_program]
    omega

/-- The leaves of the tree stay if those at the position do. -/
theorem leaves_setAt {v a b : Atom} {q : List Nat} (h : a.at? q = some b)
    (hleaves : v.leaves = b.leaves) : (a.setAt v q).leaves = a.leaves := by
  induction q generalizing a with
  | nil =>
    cases h
    rw [setAt_nil, hleaves]
  | cons k q ih =>
    obtain ⟨p, c, rfl, hc, hrest⟩ := eq_program_of_at?_cons h
    have hk : k < p.length := (List.getElem?_eq_some_iff.mp hc).1
    rw [setAt_cons, modify_eq_set hc, List.set_eq_take_append_cons_drop, if_pos hk, leaves_program,
      leaves_program, Program.leaves_append, Program.leaves_cons, ih hrest, ← Program.leaves_cons,
      ← Program.leaves_append, ← Program.eq_take_append_of_getElem? hc]

end Atom

namespace Program

section

variable {s c : Program} {k : Nat}

theorem splice_program (h : s[k]? = some (.program c)) :
    splice s k = s.take k ++ c ++ s.drop (k + 1) := by
  rw [splice, h]

theorem splice_of_ne (h : ∀ c, s[k]? ≠ some (.program c)) : splice s k = s := by
  rw [splice]
  split
  · rename_i c hc
    exact absurd hc (h c)
  · rfl

theorem points_splice (h : s[k]? = some (.program c)) : points (splice s k) + 1 = points s := by
  have hsplit := congrArg points (eq_take_append_of_getElem? h)
  rw [points_append, points_cons, Atom.points_program] at hsplit
  rw [splice_program h, points_append, points_append]
  omega

theorem leaves_splice (h : s[k]? = some (.program c)) : leaves (splice s k) = leaves s := by
  have hsplit := congrArg leaves (eq_take_append_of_getElem? h)
  rw [leaves_append, leaves_cons, Atom.leaves_program] at hsplit
  rw [splice_program h, leaves_append, leaves_append, List.append_assoc, hsplit]

end

section

variable {p : Program} {i : Nat}

/-- The siblings of a node, at the position of their parent, and its place among them. -/
theorem exists_siblings {a : Atom} (h : p.subtree? i = some a) :
    ∃ q k s, path p i = q ++ [k] ∧ p.at? q = some (.program s) ∧ s[k]? = some a ∧
      .program (p.flatten i) = (Atom.program p).setAt (.program (splice s k)) q := by
  induction p, i using walk_induction with
  | here p i hi =>
    rw [subtree?_here hi] at h
    refine ⟨[], i, p, path_here hi, rfl, h, ?_⟩
    rw [flatten, edit_here splice hi, Atom.setAt_nil]
  | below p i o hi ho ih =>
    rw [subtree?_below hi ho] at h
    obtain ⟨q, k, s, hpath, hsiblings, hplace, hflatten⟩ := ih h
    have hchild := child_of_owner? ho
    refine ⟨o.place :: q, k, s, ?_, ?_, hplace, ?_⟩
    · rw [path_below hi ho, hpath, List.cons_append]
    · rw [at?_cons_of_child hchild, hsiblings]
    · rw [Atom.setAt_cons, Atom.modify_eq_set hchild, ← hflatten, flatten, edit_below splice hi ho,
        flatten]
  | nowhere p i hi ho =>
    rw [subtree?_eq_none_iff.mpr ((owner?_eq_none_iff hi).mp ho)] at h
    cases h

theorem flatten_of_ne (h : ∀ c, p.subtree? i ≠ some (.program c)) : p.flatten i = p := by
  rcases ha : p.subtree? i with _ | a
  · have hle := subtree?_eq_none_iff.mp ha
    have hlength : p.length ≤ i := by
      rw [points_eq] at hle
      omega
    exact edit_nowhere splice hlength ((owner?_eq_none_iff hlength).mpr hle)
  · obtain ⟨q, k, s, -, hsiblings, hplace, hflatten⟩ := exists_siblings ha
    have hne : ∀ c, s[k]? ≠ some (.program c) := by
      intro c hc
      rw [hplace] at hc
      exact h c (ha.trans hc)
    rw [splice_of_ne hne, Atom.setAt_self hsiblings] at hflatten
    exact Atom.program.inj hflatten

end

/-- Flattening at the number of a nested program puts its children in its place among its siblings
and changes nothing else, so that the tree has one node less and the same leaves in the same order.
At any other number it changes nothing. -/
theorem flatten_removes_one_level (p : Program) (i : Nat) :
    Guarded.flatten? p i = some (p.flatten i) ∧
      (∀ c, p.subtree? i = some (.program c) →
        (∃ q k s, path p i = q ++ [k] ∧ p.at? q = some (.program s) ∧ s[k]? = some (.program c) ∧
          .program (p.flatten i) =
            (Atom.program p).setAt (.program (s.take k ++ c ++ s.drop (k + 1))) q) ∧
          points (p.flatten i) + 1 = points p ∧
          leaves (p.flatten i) = leaves p) ∧
      ((∀ c, p.subtree? i ≠ some (.program c)) → p.flatten i = p) := by
  refine ⟨Guarded.flatten?_eq p i, fun c hc => ?_, flatten_of_ne⟩
  obtain ⟨q, k, s, hpath, hsiblings, hplace, hflatten⟩ := exists_siblings hc
  refine ⟨⟨q, k, s, hpath, hsiblings, hplace, ?_⟩, ?_, ?_⟩
  · rw [hflatten, splice_program hplace]
  · have hweight := Atom.weight_setAt (.program (splice s k)) hsiblings
    have hsplice := points_splice hplace
    rw [← hflatten] at hweight
    simp only [Atom.weight_program] at hweight
    omega
  · have hleaves : (Atom.program (splice s k)).leaves = (Atom.program s).leaves := by
      rw [Atom.leaves_program, Atom.leaves_program, leaves_splice hplace]
    have htree := Atom.leaves_setAt hsiblings hleaves
    rwa [← hflatten, Atom.leaves_program, Atom.leaves_program] at htree

end Program

end PushLang
