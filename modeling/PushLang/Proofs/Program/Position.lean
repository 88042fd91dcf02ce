import Mathlib.Data.Set.Function
import Mathlib.Order.Interval.Set.Defs
import PushLang.Proofs.Guarded.Program

namespace PushLang

/-- What is found by going to the children at these places one after the other. -/
def Atom.at? (a : Atom) : List Nat → Option Atom
  | [] => some a
  | k :: q => a.children[k]?.bind fun c => c.at? q

@[simp] theorem Atom.at?_nil (a : Atom) : a.at? [] = some a := rfl

@[simp] theorem Atom.at?_cons (a : Atom) (k : Nat) (q : List Nat) :
    a.at? (k :: q) = a.children[k]?.bind fun c => c.at? q := rfl

namespace Program

def at? (p : Program) (q : List Nat) : Option Atom := (Atom.program p).at? q

/-- The positions of the nodes; the program itself is none of its nodes. -/
def positions (p : Program) : Set (List Nat) := {q | q ≠ [] ∧ ∃ a, p.at? q = some a}

/-- The position of the node with number `i`, and no step if there is no such node. -/
def path (p : Program) (i : Nat) : List Nat :=
  if i < p.length then [i]
  else
    match _ho : owner? p i with
    | some o => o.place :: path o.child o.index
    | none => []
termination_by points p
decreasing_by exact points_child_lt _ho

section

variable {p : Program} {i : Nat} {o : Owner}

theorem at?_cons_of_child {k : Nat} {c : Program} (h : p[k]? = some (.program c)) (q : List Nat) :
    p.at? (k :: q) = c.at? q := by
  rw [at?, Atom.at?_cons, Atom.children, h]
  rfl

theorem at?_singleton (p : Program) (k : Nat) : p.at? [k] = p[k]? := by
  rw [at?, Atom.at?_cons, Atom.children]
  exact Option.bind_fun_some p[k]?

theorem path_here (hi : i < p.length) : path p i = [i] := by rw [path, if_pos hi]

theorem path_below (hi : p.length ≤ i) (ho : owner? p i = some o) :
    path p i = o.place :: path o.child o.index := by
  rw [path, if_neg (Nat.not_lt.mpr hi)]
  split <;> simp_all

theorem path_nowhere (hi : p.length ≤ i) (ho : owner? p i = none) : path p i = [] := by
  rw [path, if_neg (Nat.not_lt.mpr hi)]
  split <;> simp_all

theorem path_eq_nil_iff : path p i = [] ↔ points p ≤ i := by
  by_cases hi : i < p.length
  · rw [path_here hi, points_eq]
    simp only [List.cons_ne_nil, false_iff]
    omega
  · have hi := Nat.not_lt.mp hi
    rw [← owner?_eq_none_iff hi]
    rcases ho : owner? p i with _ | o
    · simp only [path_nowhere hi ho]
    · simp only [path_below hi ho, List.cons_ne_nil, reduceCtorEq]

end

theorem path_ne_nil {p : Program} {i : Nat} (h : i < points p) : path p i ≠ [] :=
  fun hnil => Nat.not_le_of_lt h (path_eq_nil_iff.mp hnil)

theorem at?_path {p : Program} {i : Nat} (h : i < points p) : p.at? (path p i) = p.subtree? i := by
  induction p, i using walk_induction with
  | here p i hi => rw [path_here hi, at?_singleton, subtree?_here hi]
  | below p i o hi ho ih =>
    rw [path_below hi ho, at?_cons_of_child (child_of_owner? ho), ih (index_lt_of_owner? ho),
      subtree?_below hi ho]
  | nowhere p i hi ho => exact absurd h (Nat.not_lt.mpr ((owner?_eq_none_iff hi).mp ho))

theorem path_mem_positions {p : Program} {i : Nat} (h : i < points p) : path p i ∈ p.positions := by
  refine ⟨path_ne_nil h, ?_⟩
  rw [at?_path h]
  rcases hnode : p.subtree? i with _ | a
  · exact absurd h (Nat.not_lt.mpr (subtree?_eq_none_iff.mp hnode))
  · exact ⟨a, rfl⟩

theorem lt_length_of_path_eq {p : Program} {i k : Nat} (h : i < points p) (hpath : path p i = [k]) :
    i < p.length ∧ i = k := by
  by_cases hi : i < p.length
  · rw [path_here hi] at hpath
    exact ⟨hi, (List.cons.inj hpath).1⟩
  · obtain ⟨o, ho⟩ := exists_owner? (Nat.not_lt.mp hi) h
    rw [path_below (Nat.not_lt.mp hi) ho] at hpath
    exact absurd (List.cons.inj hpath).2 (path_ne_nil (index_lt_of_owner? ho))

theorem path_injOn {p : Program} {i j : Nat} (hi : i < points p) (hj : j < points p)
    (h : path p i = path p j) : i = j := by
  induction p, i using walk_induction generalizing j with
  | here p i hlt =>
    rw [path_here hlt] at h
    exact (lt_length_of_path_eq hj h.symm).2.symm
  | below p i o hle ho ih =>
    rw [path_below hle ho] at h
    have hle' : p.length ≤ j := by
      refine Nat.not_lt.mp fun hlt => path_ne_nil (index_lt_of_owner? ho) ?_
      rw [path_here hlt] at h
      exact (List.cons.inj h).2
    obtain ⟨o', ho'⟩ := exists_owner? hle' hj
    rw [path_below hle' ho'] at h
    obtain ⟨hplace, hrest⟩ := List.cons.inj h
    -- The same place has the same program, so the rest of the way is in the same program.
    obtain ⟨hchild, hindex, hsum⟩ := (owner?_eq_some_iff hle).mp ho
    obtain ⟨hchild', hindex', hsum'⟩ := (owner?_eq_some_iff hle').mp ho'
    rw [← hplace, hchild, Option.some.injEq, Atom.program.injEq] at hchild'
    rw [← hchild'] at hindex' hrest
    rw [hsum, hsum', hplace, ih hindex hindex' hrest]
  | nowhere p i hle ho => exact absurd hi (Nat.not_lt.mpr ((owner?_eq_none_iff hle).mp ho))

theorem exists_path_eq {p : Program} {q : List Nat} (h : q ∈ p.positions) :
    ∃ i < points p, path p i = q := by
  obtain ⟨hne, a, ha⟩ := h
  induction q generalizing p with
  | nil => exact absurd rfl hne
  | cons k q ih =>
    rcases q with _ | ⟨l, q⟩
    · rw [at?_singleton] at ha
      have hk : k < p.length := (List.getElem?_eq_some_iff.mp ha).1
      refine ⟨k, ?_, path_here hk⟩
      rw [points_eq]
      omega
    · -- A way that goes on leads through a program.
      obtain ⟨c, hc⟩ : ∃ c, p[k]? = some (.program c) := by
        rw [at?, Atom.at?_cons, Atom.children] at ha
        obtain ⟨b, hb, hrest⟩ := Option.bind_eq_some_iff.mp ha
        cases b with
        | program c => exact ⟨c, hb⟩
        | integer n | float x | boolean b | name s | instruction g => cases hrest
      rw [at?_cons_of_child hc] at ha
      obtain ⟨j, hj, hpath⟩ := ih (List.cons_ne_nil l q) ha
      let i := p.length + pointsWithin (p.take k) + j
      have hi : p.length ≤ i := by
        dsimp only [i]
        omega
      have ho : owner? p i = some ⟨k, c, j⟩ := (owner?_eq_some_iff hi).mpr ⟨hc, hj, rfl⟩
      refine ⟨i, lt_points_of_owner? ho, ?_⟩
      rw [path_below hi ho, hpath]

theorem path_bijOn (p : Program) : Set.BijOn (path p) (Set.Iio (points p)) p.positions :=
  ⟨fun _ hi => path_mem_positions hi, fun _ hi _ hj h => path_injOn hi hj h,
    fun _ hq => exists_path_eq hq⟩

/-- The nodes in the order of their numbers are the nodes of the tree, each once. No difference that
is taken on the way to a node is below zero, and both ways to look for an owner find the same. -/
theorem numbers_enumerate_nodes (p : Program) :
    (nodes p).length = points p ∧
      (∀ i, p.subtree? i = (nodes p)[i]?) ∧
      (∀ i, p.subtree? i = none ↔ points p ≤ i) ∧
      Set.BijOn (path p) (Set.Iio (points p)) p.positions ∧
      (∀ i < points p, p.at? (path p i) = p.subtree? i) ∧
      (∀ i, p.length ≤ i →
        ∃ o, Guarded.locate? p i = some o ∧ Guarded.locateInPlace? p i = some o) ∧
      (∀ i, Guarded.subtree? p i = some (p.subtree? i)) ∧
      (∀ i v, Guarded.replace? p i v = some ((p.replace? i v).isSome, (p.replace? i v).getD p)) ∧
      ∀ i, Guarded.flatten? p i = some (p.flatten i) :=
  ⟨length_nodes p, subtree?_eq p, fun _ => subtree?_eq_none_iff, path_bijOn p,
    fun _ hi => at?_path hi,
    fun i hi => ⟨owner? p i, Guarded.locate?_eq hi, Guarded.locateInPlace?_eq hi⟩,
    Guarded.subtree?_eq p, Guarded.replace?_eq p, Guarded.flatten?_eq p⟩

end Program

end PushLang
