import PushLang.Program.Tree
import PushLang.Proofs.Program.Leaves

namespace PushLang

def Atom.children : Atom → Program
  | .program p => p
  | _ => []

theorem Atom.eq_program_of_points_pos {a : Atom} (h : 0 < a.points) : a = .program a.children := by
  cases a with
  | program p => rfl
  | integer n | float x | boolean b | name s | instruction g =>
    rw [points_of_isProgram_eq_false rfl] at h
    cases h

namespace Program

def pointsWithin : List Atom → Nat
  | [] => 0
  | a :: rest => a.points + pointsWithin rest

@[simp] theorem pointsWithin_nil : pointsWithin [] = 0 := rfl

@[simp] theorem pointsWithin_cons (a : Atom) (p : Program) :
    pointsWithin (a :: p) = a.points + pointsWithin p := rfl

theorem points_eq (p : Program) : points p = p.length + pointsWithin p := by
  induction p with
  | nil => rfl
  | cons a p ih => rw [points_cons, pointsWithin_cons, List.length_cons, ih]; omega

theorem points_lt_of_mem {p c : Program} (h : .program c ∈ p) : points c < points p := by
  obtain ⟨s, t, rfl⟩ := List.append_of_mem h
  rw [points_append, points_cons, Atom.points_program]
  omega

theorem length_nodesWithin {p : Program} (h : ∀ a ∈ p, (nodesOf a).length = a.points) :
    (nodesWithin p).length = pointsWithin p := by
  induction p with
  | nil => rw [nodesWithin]; rfl
  | cons a p ih =>
    rw [nodesWithin, List.length_append, h a List.mem_cons_self,
      ih fun b hb => h b (List.mem_cons_of_mem _ hb), pointsWithin_cons]

theorem length_nodesOf (a : Atom) : (nodesOf a).length = a.points := by
  induction a using Atom.tree_induction with
  | leaf a ha =>
    rw [Atom.points_of_isProgram_eq_false ha, nodesOf, List.length_nil]
    rintro p rfl
    cases ha
  | program p ih =>
    rw [nodesOf, List.length_append, length_nodesWithin ih, Atom.points_program, points_eq]

theorem length_nodes (p : Program) : (nodes p).length = points p := by
  rw [nodes, List.length_append, length_nodesWithin fun a _ => length_nodesOf a, points_eq]

theorem nodeWithin?_eq {p : Program} (h : ∀ a ∈ p, ∀ i, nodeOf? a i = (nodesOf a)[i]?) (i : Nat) :
    nodeWithin? p i = (nodesWithin p)[i]? := by
  induction p generalizing i with
  | nil => rw [nodeWithin?, nodesWithin]; rfl
  | cons a p ih =>
    rw [nodeWithin?, nodesWithin, List.getElem?_append, length_nodesOf]
    split
    · exact h a List.mem_cons_self i
    · exact ih (fun b hb => h b (List.mem_cons_of_mem _ hb)) _

theorem nodeOf?_eq (a : Atom) (i : Nat) : nodeOf? a i = (nodesOf a)[i]? := by
  induction a using Atom.tree_induction generalizing i with
  | leaf a ha =>
    have hnone : ∀ p, a ≠ .program p := by
      rintro p rfl
      cases ha
    rw [nodeOf?, nodesOf]
    · rfl
    · exact hnone
    · exact hnone
  | program p ih =>
    rw [nodeOf?, nodesOf, List.getElem?_append, nodeWithin?_eq ih]

theorem subtree?_eq (p : Program) (i : Nat) : p.subtree? i = (nodes p)[i]? := by
  rw [subtree?, nodeOf?_eq, nodesOf, nodes]

theorem subtree?_eq_none_iff {p : Program} {i : Nat} : p.subtree? i = none ↔ points p ≤ i := by
  rw [subtree?_eq, List.getElem?_eq_none_iff, length_nodes]

/-- A program among the children that a node lies in: its place, what it is, and the number that
the node has in it. -/
structure Owner where
  place : Nat
  child : Program
  index : Nat

def Owner.shift (o : Owner) (n : Nat) : Owner := { o with place := o.place + n }

def ownerWithin? : List Atom → Nat → Option Owner
  | [], _ => none
  | a :: rest, i =>
    if i < a.points then some ⟨0, a.children, i⟩
    else (ownerWithin? rest (i - a.points)).map fun o => o.shift 1

/-- The owner of the node with number `i`, if that is no child. -/
def owner? (p : Program) (i : Nat) : Option Owner := ownerWithin? p (i - p.length)

theorem ownerWithin?_eq_some_iff {p : Program} {i : Nat} {o : Owner} :
    ownerWithin? p i = some o ↔ p[o.place]? = some (.program o.child) ∧
      o.index < points o.child ∧ i = pointsWithin (p.take o.place) + o.index := by
  induction p generalizing i o with
  | nil => simp [ownerWithin?]
  | cons a p ih =>
    obtain ⟨k, c, j⟩ := o
    rw [ownerWithin?]
    split
    · rename_i hi
      have ha := Atom.eq_program_of_points_pos (Nat.zero_lt_of_lt hi)
      rcases k with _ | k
      · rw [ha] at hi ⊢
        rw [Atom.points_program] at hi
        simp only [Option.some.injEq, Owner.mk.injEq, true_and, List.getElem?_cons_zero,
          Atom.program.injEq, List.take_zero, pointsWithin_nil, Nat.zero_add]
        constructor
        · rintro ⟨rfl, rfl⟩
          exact ⟨rfl, hi, rfl⟩
        · rintro ⟨rfl, -, rfl⟩
          exact ⟨rfl, rfl⟩
      · simp only [Option.some.injEq, Owner.mk.injEq, List.take_succ_cons, pointsWithin_cons]
        constructor
        · rintro ⟨⟨⟩, -⟩
        · rintro ⟨-, -, h⟩
          omega
    · rename_i hi
      rw [Option.map_eq_some_iff]
      rcases k with _ | k
      · simp only [List.getElem?_cons_zero, List.take_zero, pointsWithin_nil, Nat.zero_add]
        constructor
        · rintro ⟨o, -, ho⟩
          cases ho
        · rintro ⟨ha, hj, rfl⟩
          cases ha
          exact absurd hj (by simpa using hi)
      · simp only [List.getElem?_cons_succ, List.take_succ_cons, pointsWithin_cons]
        constructor
        · rintro ⟨o, ho, hshift⟩
          cases hshift
          obtain ⟨hplace, hindex, hsum⟩ := ih.mp ho
          exact ⟨hplace, hindex, by omega⟩
        · rintro ⟨hplace, hindex, hsum⟩
          exact ⟨⟨k, c, j⟩, ih.mpr ⟨hplace, hindex, by dsimp only; omega⟩, rfl⟩

theorem ownerWithin?_eq_none_iff {p : Program} {i : Nat} :
    ownerWithin? p i = none ↔ pointsWithin p ≤ i := by
  induction p generalizing i with
  | nil => simp [ownerWithin?]
  | cons a p ih =>
    rw [ownerWithin?, pointsWithin_cons]
    split
    · simp only [reduceCtorEq, false_iff]
      omega
    · rw [Option.map_eq_none_iff, ih]
      omega

theorem owner?_eq_some_iff {p : Program} {i : Nat} (hi : p.length ≤ i) {o : Owner} :
    owner? p i = some o ↔ p[o.place]? = some (.program o.child) ∧
      o.index < points o.child ∧ i = p.length + pointsWithin (p.take o.place) + o.index := by
  rw [owner?, ownerWithin?_eq_some_iff]
  refine and_congr_right fun _ => and_congr_right fun _ => ?_
  omega

theorem owner?_eq_none_iff {p : Program} {i : Nat} (hi : p.length ≤ i) :
    owner? p i = none ↔ points p ≤ i := by
  rw [owner?, ownerWithin?_eq_none_iff, points_eq]
  omega

theorem exists_owner? {p : Program} {i : Nat} (hi : p.length ≤ i) (h : i < points p) :
    ∃ o, owner? p i = some o := by
  rcases ho : owner? p i with _ | o
  · exact absurd h (Nat.not_lt.mpr ((owner?_eq_none_iff hi).mp ho))
  · exact ⟨o, rfl⟩

section

variable {p : Program} {i : Nat} {o : Owner}

theorem child_of_owner? (h : owner? p i = some o) : p[o.place]? = some (.program o.child) :=
  (ownerWithin?_eq_some_iff.mp h).1

theorem index_lt_of_owner? (h : owner? p i = some o) : o.index < points o.child :=
  (ownerWithin?_eq_some_iff.mp h).2.1

theorem points_child_lt (h : owner? p i = some o) : points o.child < points p :=
  points_lt_of_mem (List.mem_of_getElem? (child_of_owner? h))

theorem child_ne_nil (h : owner? p i = some o) : o.child ≠ [] := by
  intro hnil
  have hindex := index_lt_of_owner? h
  rw [hnil] at hindex
  cases hindex

theorem lt_points_of_owner? (h : owner? p i = some o) : i < points p := by
  refine Nat.lt_of_not_le fun hle => ?_
  have hlength : p.length ≤ i := by
    have hp := points_eq p
    omega
  rw [(owner?_eq_none_iff hlength).mpr hle] at h
  cases h

end

/-- Induction along the walk to a node: it ends at a child or where there is no owner. -/
theorem walk_induction {motive : Program → Nat → Prop}
    (here : ∀ p i, i < p.length → motive p i)
    (below : ∀ p i o, p.length ≤ i → owner? p i = some o → motive o.child o.index → motive p i)
    (nowhere : ∀ p i, p.length ≤ i → owner? p i = none → motive p i) (p : Program) (i : Nat) :
    motive p i := by
  induction hn : points p using Nat.strongRecOn generalizing p i with
  | ind n ih =>
    subst hn
    by_cases hi : i < p.length
    · exact here p i hi
    · rcases ho : owner? p i with _ | o
      · exact nowhere p i (Nat.not_lt.mp hi) ho
      · exact below p i o (Nat.not_lt.mp hi) ho (ih _ (points_child_lt ho) _ _ rfl)

theorem nodeWithin?_eq_bind (p : Program) (i : Nat) :
    nodeWithin? p i = (ownerWithin? p i).bind fun o => o.child.subtree? o.index := by
  induction p generalizing i with
  | nil => rw [nodeWithin?]; rfl
  | cons a p ih =>
    rw [nodeWithin?, ownerWithin?]
    split
    · rename_i hi
      have ha := Atom.eq_program_of_points_pos (Nat.zero_lt_of_lt hi)
      rw [Option.bind_some, subtree?, ← ha]
    · rw [ih, Option.bind_map]
      rfl

theorem editWithin_eq (f : List Atom → Nat → List Atom) (p : Program) (i : Nat) :
    editWithin f p i = match ownerWithin? p i with
      | some o => p.set o.place (.program (o.child.edit f o.index))
      | none => p := by
  induction p generalizing i with
  | nil => rw [editWithin]; rfl
  | cons a p ih =>
    rw [editWithin, ownerWithin?]
    split
    · rename_i hi
      have ha := Atom.eq_program_of_points_pos (Nat.zero_lt_of_lt hi)
      rw [ha, editAtom]
      rfl
    · rw [ih]
      rcases ownerWithin? p (i - a.points) with _ | o <;> rfl

section

variable {p : Program} {i : Nat} {o : Owner} (f : List Atom → Nat → List Atom)

theorem subtree?_here (hi : i < p.length) : p.subtree? i = p[i]? := by
  rw [subtree?, nodeOf?, if_pos hi]

theorem subtree?_below (hi : p.length ≤ i) (ho : owner? p i = some o) :
    p.subtree? i = o.child.subtree? o.index := by
  rw [subtree?, nodeOf?, if_neg (Nat.not_lt.mpr hi), nodeWithin?_eq_bind, ← owner?, ho,
    Option.bind_some]

theorem edit_here (hi : i < p.length) : p.edit f i = f p i := if_pos hi

theorem edit_below (hi : p.length ≤ i) (ho : owner? p i = some o) :
    p.edit f i = p.set o.place (.program (o.child.edit f o.index)) := by
  rw [edit, if_neg (Nat.not_lt.mpr hi), editWithin_eq, ← owner?, ho]

theorem edit_nowhere (hi : p.length ≤ i) (ho : owner? p i = none) : p.edit f i = p := by
  rw [edit, if_neg (Nat.not_lt.mpr hi), editWithin_eq, ← owner?, ho]

end

end Program

end PushLang
