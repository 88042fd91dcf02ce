import PushLang.Proofs.Guarded.Stack
import PushLang.Proofs.Program.Addressing

namespace PushLang.Guarded

open Program

def nestedPrograms (place : Nat) (p : Program) : List (Nat × Program) :=
  (p.zipIdx place).filterMap fun
    | (.program c, k) => some (k, c)
    | _ => none

/-- Looks for the owner of node `i` among programs the first of which has its first node at
`offset`. -/
def search? (i offset : Nat) : List (Nat × Program) → Option (Option Owner)
  | [] => some none
  | (k, c) :: rest => do
    let j ← sub? i offset
    if j < points c then some (some ⟨k, c, j⟩) else search? i (offset + points c) rest

def locate? (p : Program) (i : Nat) : Option (Option Owner) :=
  search? i p.length (nestedPrograms 0 p)

def searchInPlace? (i offset place : Nat) : List Atom → Option (Option Owner)
  | [] => some none
  | .program c :: rest => do
    let j ← sub? i offset
    if j < points c then some (some ⟨place, c, j⟩)
    else searchInPlace? i (offset + points c) (place + 1) rest
  | _ :: rest => searchInPlace? i offset (place + 1) rest

def locateInPlace? (p : Program) (i : Nat) : Option (Option Owner) :=
  searchInPlace? i p.length 0 p

theorem nestedPrograms_program (place : Nat) (c p : Program) :
    nestedPrograms place (.program c :: p) = (place, c) :: nestedPrograms (place + 1) p := rfl

theorem nestedPrograms_of_isProgram_eq_false {a : Atom} (h : a.isProgram = false) (place : Nat)
    (p : Program) : nestedPrograms place (a :: p) = nestedPrograms (place + 1) p := by
  cases a with
  | program c => cases h
  | integer n | float x | boolean b | name s | instruction g => rfl

theorem searchInPlace?_of_isProgram_eq_false {a : Atom} (h : a.isProgram = false)
    (i offset place : Nat) (p : Program) :
    searchInPlace? i offset place (a :: p) = searchInPlace? i offset (place + 1) p := by
  cases a with
  | program c => cases h
  | integer n | float x | boolean b | name s | instruction g =>
    rw [searchInPlace?]
    rintro c ⟨⟩

theorem ownerWithin?_of_isProgram_eq_false {a : Atom} (h : a.isProgram = false) (p : Program)
    (i : Nat) : ownerWithin? (a :: p) i = (ownerWithin? p i).map fun o => o.shift 1 := by
  rw [ownerWithin?, Atom.points_of_isProgram_eq_false h, if_neg (Nat.not_lt_zero i), Nat.sub_zero]

theorem map_shift_succ (o : Option Owner) (place : Nat) :
    (o.map fun o => o.shift 1).map (fun o => o.shift place) =
      o.map fun o => o.shift (place + 1) := by
  rcases o with _ | ⟨k, c, j⟩
  · rfl
  · simp only [Option.map_some, Owner.shift, Nat.add_assoc, Nat.add_comm 1 place]

/-- Where the number is not below the offset no later difference is below zero. -/
theorem search?_eq {i offset : Nat} (h : offset ≤ i) (place : Nat) (p : Program) :
    search? i offset (nestedPrograms place p) =
      some ((ownerWithin? p (i - offset)).map fun o => o.shift place) := by
  induction p generalizing offset place with
  | nil => rfl
  | cons a p ih =>
    cases ha : a.isProgram with
    | false =>
      rw [nestedPrograms_of_isProgram_eq_false ha, ownerWithin?_of_isProgram_eq_false ha, ih h,
        map_shift_succ]
    | true =>
      obtain ⟨c, rfl⟩ : ∃ c, a = .program c := by
        cases a <;> first | exact ⟨_, rfl⟩ | cases ha
      rw [nestedPrograms_program, search?, sub?_eq h, ownerWithin?, Atom.points_program]
      simp only [Option.bind_eq_bind, Option.bind_some]
      split
      · simp only [Option.map_some, Owner.shift, Nat.zero_add, Atom.children]
      · -- The nodes of the program were all passed, so the next offset is not above the number.
        rw [ih (by omega), map_shift_succ, Nat.sub_add_eq]

theorem searchInPlace?_eq {i offset : Nat} (h : offset ≤ i) (place : Nat) (p : Program) :
    searchInPlace? i offset place p =
      some ((ownerWithin? p (i - offset)).map fun o => o.shift place) := by
  induction p generalizing offset place with
  | nil => rfl
  | cons a p ih =>
    cases ha : a.isProgram with
    | false =>
      rw [searchInPlace?_of_isProgram_eq_false ha, ownerWithin?_of_isProgram_eq_false ha, ih h,
        map_shift_succ]
    | true =>
      obtain ⟨c, rfl⟩ : ∃ c, a = .program c := by
        cases a <;> first | exact ⟨_, rfl⟩ | cases ha
      rw [searchInPlace?, sub?_eq h, ownerWithin?, Atom.points_program]
      simp only [Option.bind_eq_bind, Option.bind_some]
      split
      · simp only [Option.map_some, Owner.shift, Nat.zero_add, Atom.children]
      · rw [ih (by omega), map_shift_succ, Nat.sub_add_eq]

section

variable {p : Program} {i : Nat}

theorem locate?_eq (h : p.length ≤ i) : locate? p i = some (owner? p i) := by
  rw [locate?, search?_eq h, owner?]
  exact congrArg some Option.map_id'

theorem locateInPlace?_eq (h : p.length ≤ i) : locateInPlace? p i = some (owner? p i) := by
  rw [locateInPlace?, searchInPlace?_eq h, owner?]
  exact congrArg some Option.map_id'

theorem points_lt_of_locate? (h : ¬ i < p.length) {o : Owner} (ho : locate? p i = some (some o)) :
    points o.child < points p := by
  rw [locate?_eq (Nat.not_lt.mp h)] at ho
  exact points_child_lt (Option.some.inj ho)

theorem points_lt_of_locateInPlace? (h : ¬ i < p.length) {o : Owner}
    (ho : locateInPlace? p i = some (some o)) : points o.child < points p := by
  rw [locateInPlace?_eq (Nat.not_lt.mp h)] at ho
  exact points_child_lt (Option.some.inj ho)

end

def subtree? (p : Program) (i : Nat) : Option (Option Atom) :=
  if _hi : i < p.length then some p[i]?
  else
    match _ho : locate? p i with
    | none => none
    | some none => some none
    | some (some o) => subtree? o.child o.index
termination_by points p
decreasing_by exact points_lt_of_locate? _hi _ho

/-- Whether the node was there, and the program with `v` in its place; the program must not be
empty. -/
def replaceNested? (v : Atom) (p : Program) (i : Nat) : Option (Bool × Program) :=
  if p.isEmpty then none
  else if _hi : i < p.length then some (true, p.set i v)
  else
    match _ho : locateInPlace? p i with
    | none => none
    | some none => some (false, p)
    | some (some o) =>
      (replaceNested? v o.child o.index).map fun (done, c) => (done, p.set o.place (.program c))
termination_by points p
decreasing_by exact points_lt_of_locateInPlace? _hi _ho

/-- The rule for the empty program is for the outermost one only. -/
def replace? (p : Program) (i : Nat) (v : Atom) : Option (Bool × Program) :=
  if p.isEmpty then some (true, [v]) else replaceNested? v p i

def flatten? (p : Program) (i : Nat) : Option Program :=
  if _hi : i < p.length then some (splice p i)
  else
    match _ho : locateInPlace? p i with
    | none => none
    | some none => some p
    | some (some o) => (flatten? o.child o.index).map fun c => p.set o.place (.program c)
termination_by points p
decreasing_by exact points_lt_of_locateInPlace? _hi _ho

theorem subtree?_eq (p : Program) (i : Nat) : subtree? p i = some (p.subtree? i) := by
  induction p, i using walk_induction with
  | here p i hi => rw [subtree?, dif_pos hi, subtree?_here hi]
  | below p i o hi ho ih =>
    have hlocate := locate?_eq hi
    rw [ho] at hlocate
    rw [subtree?, dif_neg (Nat.not_lt.mpr hi), subtree?_below hi ho, ← ih]
    split <;> simp_all
  | nowhere p i hi ho =>
    have hlocate := locate?_eq hi
    rw [ho] at hlocate
    have hnone := subtree?_eq_none_iff.mpr ((owner?_eq_none_iff hi).mp ho)
    rw [subtree?, dif_neg (Nat.not_lt.mpr hi), hnone]
    split <;> simp_all

/-- The owner of a node is never empty, so the guard of `replaceNested?` holds for it. -/
theorem replaceNested?_eq {p : Program} (hp : p ≠ []) (i : Nat) (v : Atom) :
    replaceNested? v p i =
      some (decide (i < points p), p.edit (fun siblings k => siblings.set k v) i) := by
  induction p, i using walk_induction with
  | here p i hi =>
    have hpoints : i < points p := by
      rw [points_eq]
      omega
    rw [replaceNested?, if_neg (by simpa using hp), dif_pos hi, edit_here _ hi,
      decide_eq_true hpoints]
  | below p i o hi ho ih =>
    have hlocate := locateInPlace?_eq hi
    rw [ho] at hlocate
    have hchild := ih (child_ne_nil ho)
    rw [decide_eq_true (index_lt_of_owner? ho)] at hchild
    rw [replaceNested?, if_neg (by simpa using hp), dif_neg (Nat.not_lt.mpr hi), edit_below _ hi ho,
      decide_eq_true (lt_points_of_owner? ho)]
    split <;> simp_all
  | nowhere p i hi ho =>
    have hlocate := locateInPlace?_eq hi
    rw [ho] at hlocate
    have hpoints : ¬ i < points p := Nat.not_lt.mpr ((owner?_eq_none_iff hi).mp ho)
    rw [replaceNested?, if_neg (by simpa using hp), dif_neg (Nat.not_lt.mpr hi),
      edit_nowhere _ hi ho, decide_eq_false hpoints]
    split <;> simp_all

theorem replace?_eq (p : Program) (i : Nat) (v : Atom) :
    replace? p i v = some ((p.replace? i v).isSome, (p.replace? i v).getD p) := by
  unfold replace? Program.replace?
  split
  · rfl
  · rename_i hp
    rw [replaceNested?_eq (by simpa using hp)]
    by_cases hi : i < points p
    · rw [if_pos hi, decide_eq_true hi]
      rfl
    · have hlength : p.length ≤ i := by
        rw [points_eq] at hi
        omega
      have ho := (owner?_eq_none_iff hlength).mpr (Nat.not_lt.mp hi)
      rw [if_neg hi, decide_eq_false hi, edit_nowhere _ hlength ho]
      rfl

theorem flatten?_eq (p : Program) (i : Nat) : flatten? p i = some (p.flatten i) := by
  unfold Program.flatten
  induction p, i using walk_induction with
  | here p i hi => rw [flatten?, dif_pos hi, edit_here _ hi]
  | below p i o hi ho ih =>
    have hlocate := locateInPlace?_eq hi
    rw [ho] at hlocate
    rw [flatten?, dif_neg (Nat.not_lt.mpr hi), edit_below _ hi ho]
    split <;> simp_all
  | nowhere p i hi ho =>
    have hlocate := locateInPlace?_eq hi
    rw [ho] at hlocate
    rw [flatten?, dif_neg (Nat.not_lt.mpr hi), edit_nowhere _ hi ho]
    split <;> simp_all

end PushLang.Guarded
