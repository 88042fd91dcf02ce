import Mathlib.Data.List.Basic
import PushLang.Proofs.Program.Position

namespace PushLang

/-- Puts `v` at the end of a way; nothing changes where the way leads nowhere. -/
def Atom.setAt (a v : Atom) : List Nat → Atom
  | [] => v
  | k :: q =>
    match a with
    | .program p => .program (p.modify k fun c => c.setAt v q)
    | leaf => leaf

def Atom.weight (a : Atom) : Nat := 1 + a.points

namespace Atom

theorem setAt_nil (a v : Atom) : a.setAt v [] = v := rfl

theorem setAt_cons (v : Atom) (p : Program) (k : Nat) (q : List Nat) :
    (program p).setAt v (k :: q) = .program (p.modify k fun c => c.setAt v q) := rfl

theorem setAt_leaf (v : Atom) {a : Atom} (h : a.isProgram = false) (k : Nat) (q : List Nat) :
    a.setAt v (k :: q) = a := by
  cases a with
  | program p => cases h
  | integer n | float x | boolean b | name s | instruction g => rfl

theorem eq_program_of_at?_cons {a b : Atom} {k : Nat} {q : List Nat}
    (h : a.at? (k :: q) = some b) :
    ∃ p c, a = .program p ∧ p[k]? = some c ∧ c.at? q = some b := by
  obtain ⟨c, hc, hrest⟩ := Option.bind_eq_some_iff.mp h
  cases a with
  | program p => exact ⟨p, c, rfl, hc, hrest⟩
  | integer n | float x | boolean b | name s | instruction g => cases hc

/-- At and below the position there is the new atom. -/
theorem at?_setAt_append (v : Atom) {a b : Atom} {q : List Nat} (h : a.at? q = some b)
    (r : List Nat) : (a.setAt v q).at? (q ++ r) = v.at? r := by
  induction q generalizing a with
  | nil => rw [setAt_nil, List.nil_append]
  | cons k q ih =>
    obtain ⟨p, c, rfl, hc, hrest⟩ := eq_program_of_at?_cons h
    rw [setAt_cons, List.cons_append, at?_cons, children, List.getElem?_modify_eq, hc]
    exact ih hrest

/-- Neither on the way to the position nor below it anything changes. -/
theorem at?_setAt_of_not_prefix (v a : Atom) {q r : List Nat} (hway : ¬ r <+: q)
    (hbelow : ¬ q <+: r) : (a.setAt v q).at? r = a.at? r := by
  induction q generalizing a r with
  | nil => exact absurd List.nil_prefix hbelow
  | cons k q ih =>
    rcases r with _ | ⟨l, r⟩
    · exact absurd List.nil_prefix hway
    · cases ha : a.isProgram with
      | false => rw [setAt_leaf v ha]
      | true =>
        cases a with
        | integer n | float x | boolean b | name s | instruction g => cases ha
        | program p =>
          rw [setAt_cons, at?_cons, at?_cons, children, children]
          by_cases hl : k = l
          · subst hl
            rw [List.getElem?_modify_eq]
            rcases p[k]? with _ | c
            · rfl
            · exact ih c (fun h => hway ((List.prefix_cons_inj k).mpr h))
                fun h => hbelow ((List.prefix_cons_inj k).mpr h)
          · rw [List.getElem?_modify_ne _ _ hl]

theorem modify_eq_set {p : Program} {k : Nat} {c : Atom} (h : p[k]? = some c) (f : Atom → Atom) :
    p.modify k f = p.set k (f c) := by
  rw [List.modify_eq_set_getElem?, h]
  rfl

theorem setAt_self {a b : Atom} {q : List Nat} (h : a.at? q = some b) : a.setAt b q = a := by
  induction q generalizing a with
  | nil =>
    cases h
    rfl
  | cons k q ih =>
    obtain ⟨p, c, rfl, hc, hrest⟩ := eq_program_of_at?_cons h
    obtain ⟨hk, rfl⟩ := List.getElem?_eq_some_iff.mp hc
    rw [setAt_cons, modify_eq_set hc, ih hrest, List.set_getElem_self hk]

theorem setAt_setAt (a u v : Atom) (q : List Nat) : (a.setAt v q).setAt u q = a.setAt u q := by
  induction q generalizing a with
  | nil => rw [setAt_nil, setAt_nil]
  | cons k q ih =>
    cases ha : a.isProgram with
    | false => rw [setAt_leaf v ha]
    | true =>
      cases a with
      | integer n | float x | boolean b | name s | instruction g => cases ha
      | program p =>
        rw [setAt_cons, setAt_cons, setAt_cons, List.modify_modify_eq]
        congr 2
        funext c
        exact ih c

end Atom

namespace Program

theorem points_set {p : Program} {k : Nat} {old : Atom} (h : p[k]? = some old) (v : Atom) :
    points (p.set k v) + old.weight = points p + v.weight := by
  induction p generalizing k with
  | nil => cases h
  | cons a p ih =>
    rcases k with _ | k
    · cases h
      rw [List.set_cons_zero, points_cons, points_cons, Atom.weight, Atom.weight]
      omega
    · have hrest := ih h
      rw [List.set_cons_succ, points_cons, points_cons]
      omega

/-- Putting another program in the place of the owner keeps it the owner, if it is large enough. -/
theorem owner?_set {p c : Program} {i : Nat} {o : Owner} (hi : p.length ≤ i)
    (ho : owner? p i = some o) (hc : o.index < points c) :
    owner? (p.set o.place (.program c)) i = some { o with child := c } := by
  obtain ⟨hchild, -, hsum⟩ := (owner?_eq_some_iff hi).mp ho
  have hplace : o.place < p.length := (List.getElem?_eq_some_iff.mp hchild).1
  have hlength : (p.set o.place (.program c)).length ≤ i := by rwa [List.length_set]
  rw [owner?_eq_some_iff hlength]
  refine ⟨List.getElem?_set_self hplace, hc, ?_⟩
  rw [List.length_set, List.take_set_of_le (Nat.le_refl _)]
  exact hsum

/-- The program with `v` in the place of the node with number `i`. -/
def put (p : Program) (i : Nat) (v : Atom) : Program :=
  p.edit (fun siblings k => siblings.set k v) i

section

variable {p : Program} {i : Nat} {o : Owner} (v : Atom)

theorem put_here (hi : i < p.length) : p.put i v = p.set i v := edit_here _ hi

theorem put_below (hi : p.length ≤ i) (ho : owner? p i = some o) :
    p.put i v = p.set o.place (.program (o.child.put o.index v)) := edit_below _ hi ho

theorem program_put (h : i < points p) :
    .program (p.put i v) = (Atom.program p).setAt v (path p i) := by
  induction p, i using walk_induction with
  | here p i hi =>
    have hget := List.getElem?_eq_getElem hi
    rw [put_here v hi, path_here hi, Atom.setAt_cons, Atom.modify_eq_set hget, Atom.setAt_nil]
  | below p i o hi ho ih =>
    have hchild := child_of_owner? ho
    rw [put_below v hi ho, path_below hi ho, Atom.setAt_cons, Atom.modify_eq_set hchild,
      ih (index_lt_of_owner? ho)]
  | nowhere p i hi ho => exact absurd h (Nat.not_lt.mpr ((owner?_eq_none_iff hi).mp ho))

/-- Whatever size the new node has, its number leads to where the old one was. -/
theorem path_put (h : i < points p) : path (p.put i v) i = path p i := by
  induction p, i using walk_induction with
  | here p i hi =>
    rw [put_here v hi, path_here hi, path_here (by rwa [List.length_set])]
  | below p i o hi ho ih =>
    have hchild := ih (index_lt_of_owner? ho)
    -- The way goes on below the owner, so the new owner has a node of that number.
    have hindex : o.index < points (o.child.put o.index v) := by
      refine Nat.not_le.mp fun hle => path_ne_nil (index_lt_of_owner? ho) ?_
      rw [← hchild, path_eq_nil_iff.mpr hle]
    have howner := owner?_set hi ho hindex
    rw [put_below v hi ho, path_below (by rwa [List.length_set]) howner, path_below hi ho, hchild]
  | nowhere p i hi ho => exact absurd h (Nat.not_lt.mpr ((owner?_eq_none_iff hi).mp ho))

theorem lt_points_put (h : i < points p) : i < points (p.put i v) := by
  refine Nat.not_le.mp fun hle => path_ne_nil h ?_
  rw [← path_put v h, path_eq_nil_iff.mpr hle]

theorem points_put {old : Atom} (h : p.subtree? i = some old) :
    points (p.put i v) + old.weight = points p + v.weight := by
  induction p, i using walk_induction with
  | here p i hi =>
    rw [subtree?_here hi] at h
    rw [put_here v hi, points_set h]
  | below p i o hi ho ih =>
    rw [subtree?_below hi ho] at h
    have hchild := ih h
    have houter := points_set (child_of_owner? ho) (.program (o.child.put o.index v))
    rw [Atom.weight, Atom.weight, Atom.points_program, Atom.points_program] at houter
    rw [put_below v hi ho]
    omega
  | nowhere p i hi ho =>
    rw [subtree?_eq_none_iff.mpr ((owner?_eq_none_iff hi).mp ho)] at h
    cases h

theorem lt_points_of_subtree? {old : Atom} (h : p.subtree? i = some old) : i < points p := by
  refine Nat.not_le.mp fun hle => ?_
  rw [subtree?_eq_none_iff.mpr hle] at h
  cases h

/-- What is put is what is found. -/
theorem subtree?_put (h : i < points p) : (p.put i v).subtree? i = some v := by
  obtain ⟨-, a, ha⟩ := path_mem_positions h
  have hput := Atom.at?_setAt_append v ha []
  rw [List.append_nil, Atom.at?_nil] at hput
  rw [← at?_path (lt_points_put v h), path_put v h, at?, program_put v h, hput]

theorem put_subtree? {old : Atom} (h : p.subtree? i = some old) : p.put i old = p := by
  have hi := lt_points_of_subtree? h
  rw [← at?_path hi] at h
  have hsame := (program_put old hi).trans (Atom.setAt_self h)
  exact Atom.program.inj hsame

/-- Of two atoms put in the same place the second stays. -/
theorem put_put (h : i < points p) (u : Atom) : (p.put i v).put i u = p.put i u := by
  apply Atom.program.inj
  rw [program_put u (lt_points_put v h), path_put v h, program_put v h, Atom.setAt_setAt,
    program_put u h]

theorem replace?_of_lt (h : i < points p) : p.replace? i v = some (p.put i v) := by
  have hp : ¬ p.isEmpty = true := by
    intro hempty
    rw [List.isEmpty_iff.mp hempty] at h
    cases h
  rw [replace?, if_neg hp, if_pos h]
  rfl

theorem replace?_of_le (hp : p ≠ []) (h : points p ≤ i) : p.replace? i v = none := by
  rw [replace?, if_neg (by simpa using hp), if_neg (Nat.not_lt.mpr h)]

end

/-- Replacing succeeds at the numbers of nodes and in the empty program, and else changes nothing.
It puts the new node at the position of the number and obeys the laws of getting and putting. The rule
for the empty program is never used for a nested one: it has no result there. -/
theorem replace_at_position (p : Program) (i : Nat) (v : Atom) :
    ∃ done r, Guarded.replace? p i v = some (done, r) ∧
      p.replace? i v = (if done then some r else none) ∧
      (done = true ↔ p = [] ∨ i < points p) ∧
      (done = false → r = p) ∧
      (p = [] → r = [v]) ∧
      (∀ old, p.subtree? i = some old →
        .program r = (Atom.program p).setAt v (path p i) ∧
        (∀ q, r.at? (path p i ++ q) = v.at? q) ∧
        (∀ q, ¬ q <+: path p i → ¬ path p i <+: q → r.at? q = p.at? q) ∧
        points r + old.weight = points p + v.weight ∧
        r.subtree? i = some v ∧
        p.replace? i old = some p) ∧
      (p ≠ [] → ∀ u, r.replace? i u = p.replace? i u) := by
  refine ⟨(p.replace? i v).isSome, (p.replace? i v).getD p, Guarded.replace?_eq p i v, ?_⟩
  by_cases hp : p = []
  · subst hp
    refine ⟨rfl, by simp [replace?], by simp [replace?], fun _ => rfl, fun old hold => ?_,
      fun hne => absurd rfl hne⟩
    cases lt_points_of_subtree? hold
  by_cases hi : i < points p
  · rw [replace?_of_lt v hi]
    refine ⟨rfl, by simp [hi], nofun, fun h => absurd h hp, fun old hold =>
      ⟨program_put v hi, fun q => ?_, fun q hway hbelow => ?_, points_put v hold,
        subtree?_put v hi, ?_⟩, fun _ u => ?_⟩
    · rw [← at?_path hi] at hold
      have hbelow := Atom.at?_setAt_append v hold q
      rwa [← program_put v hi] at hbelow
    · have helse := Atom.at?_setAt_of_not_prefix v (.program p) hway hbelow
      rwa [← program_put v hi] at helse
    · rw [replace?_of_lt old hi, put_subtree? hold]
    · have hagain := replace?_of_lt u (lt_points_put v hi)
      rwa [put_put v hi u, ← replace?_of_lt u hi] at hagain
  · have hle := Nat.not_lt.mp hi
    rw [replace?_of_le v hp hle]
    refine ⟨rfl, by simp [hp, hi], fun _ => rfl, fun h => absurd h hp, fun old hold => ?_,
      fun _ _ => rfl⟩
    exact absurd (lt_points_of_subtree? hold) hi

end Program

end PushLang
