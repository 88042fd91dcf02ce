import Mathlib.Data.List.Forall2
import PushLang.Proofs.Binary64.Comparison
import PushLang.Proofs.Program.Leaves

namespace PushLang

/-- Atoms of the same value: doubles by their words, names by their text, instructions by identity
and programs child by child. -/
inductive Atom.Same : Atom → Atom → Prop where
  | integer (n : Int64) : Same (.integer n) (.integer n)
  | float {x y : Double} (h : Binary64.Same x y) : Same (.float x) (.float y)
  | boolean (b : Bool) : Same (.boolean b) (.boolean b)
  | name (s : String) : Same (.name s) (.name s)
  | instruction {g h : Handle} (e : g.serial = h.serial) : Same (.instruction g) (.instruction h)
  | program {p q : Program} (h : List.Forall₂ Same p q) : Same (.program p) (.program q)

theorem Program.equal_iff (p q : Program) :
    equal p q = true ↔ List.Forall₂ (fun a b => a.equal b = true) p q := by
  induction p generalizing q with
  | nil => cases q <;> simp [equal]
  | cons a p ih => cases q <;> simp [equal, ih]

theorem Atom.equal_float_iff (x y : Double) :
    (Atom.float x).equal (.float y) = true ↔ Binary64.Same x y := by
  rw [equal, Binary64.same_iff]

theorem Atom.equal_program_iff (p q : Program) : (Atom.program p).equal (.program q) = true ↔
    List.Forall₂ (fun a b => a.equal b = true) p q := by
  rw [equal, Program.equal_iff]

theorem Atom.same_of_equal_leaf {a b : Atom} (ha : a.isProgram = false) (h : a.equal b = true) :
    Same a b := by
  cases a with
  | integer m =>
    cases b <;> simp [equal] at h
    exact h ▸ .integer m
  | float x =>
    cases b with
    | float y => exact .float ((equal_float_iff x y).mp h)
    | integer n | boolean b | name s | instruction g | program q => simp [equal] at h
  | boolean c =>
    cases b <;> simp [equal] at h
    exact h ▸ .boolean c
  | name s =>
    cases b <;> simp [equal] at h
    exact h ▸ .name s
  | instruction g =>
    cases b <;> simp [equal] at h
    exact .instruction h
  | program p => cases ha

theorem Atom.same_of_equal {a b : Atom} (h : a.equal b = true) : Same a b := by
  induction a using Atom.tree_induction generalizing b with
  | leaf a ha => exact same_of_equal_leaf ha h
  | program p ih =>
    cases b with
    | program q =>
      have hchildren := (List.forall₂_and_left _ _).mpr ⟨ih, (equal_program_iff p q).mp h⟩
      exact .program (hchildren.imp fun a b hab => hab.1 hab.2)
    | integer n | float x | boolean b | name s | instruction g => simp [equal] at h

theorem Atom.Same.equal {a b : Atom} (h : Same a b) : a.equal b = true := by
  induction a using Atom.tree_induction generalizing b with
  | leaf a ha =>
    cases h with
    | float hwords => exact (equal_float_iff _ _).mpr hwords
    | integer n | boolean b | name s => simp [Atom.equal]
    | instruction e => simp [Atom.equal, e]
    | program hchildren => cases ha
  | program p ih =>
    cases h with
    | program hchildren =>
      have hequal := (List.forall₂_and_left _ _).mpr ⟨ih, hchildren⟩
      exact (equal_program_iff p _).mpr (hequal.imp fun a b hab => hab.1 hab.2)

theorem Atom.equal_iff_same (a b : Atom) : a.equal b = true ↔ Same a b :=
  ⟨same_of_equal, Same.equal⟩

theorem Program.digest_eq_of_equal {p q : Program}
    (h : List.Forall₂ (fun a b => a.digest = b.digest) p q) : digest p = digest q := by
  induction h with
  | nil => rfl
  | cons hab _ ih => rw [digest, digest, hab, ih]

theorem Atom.digest_eq_of_equal {a b : Atom} (h : a.equal b = true) : a.digest = b.digest := by
  induction a using Atom.tree_induction generalizing b with
  | leaf a ha =>
    cases same_of_equal h with
    | float hwords => rw [digest, digest, (Binary64.floatBits_eq_iff _ _).mpr hwords]
    | integer n | boolean b | name s => rfl
    | instruction e => rw [digest, digest, e]
    | program hchildren => cases ha
  | program p ih =>
    cases b with
    | program q =>
      have hequal := (equal_program_iff p q).mp h
      have hdigests := ((List.forall₂_and_left _ _).mpr ⟨ih, hequal⟩).imp fun a b hab => hab.1 hab.2
      rw [digest, digest, hequal.length_eq, Program.digest_eq_of_equal hdigests]
    | integer n | float x | boolean b | name s | instruction g => simp [equal] at h

/-- What holds of each child holds of the row of children, as they are equally many. -/
theorem Program.digest_append_inj {p q : Program} {u v : List Datum}
    (child : ∀ a ∈ p, ∀ {b : Atom} {u v : List Datum}, a.digest ++ u = b.digest ++ v →
      a.equal b = true ∧ u = v)
    (hlength : p.length = q.length) (h : digest p ++ u = digest q ++ v) :
    List.Forall₂ (fun a b => a.equal b = true) p q ∧ u = v := by
  induction p generalizing q with
  | nil =>
    obtain rfl := List.eq_nil_of_length_eq_zero hlength.symm
    rw [digest] at h
    exact ⟨.nil, h⟩
  | cons a p ih =>
    obtain ⟨b, q, rfl⟩ := List.exists_cons_of_length_eq_add_one hlength.symm
    rw [digest, digest, List.append_assoc, List.append_assoc] at h
    obtain ⟨hab, hrest⟩ := child a List.mem_cons_self h
    obtain ⟨hpq, huv⟩ :=
      ih (fun a ha => child a (List.mem_cons_of_mem _ ha)) (Nat.succ.inj hlength) hrest
    exact ⟨.cons hab hpq, huv⟩

/-- In front of other values a digest tells its atom, up to equality, and where it ends. -/
theorem Atom.digest_append_inj {a b : Atom} {u v : List Datum}
    (h : a.digest ++ u = b.digest ++ v) : a.equal b = true ∧ u = v := by
  induction a using Atom.tree_induction generalizing b u v with
  | leaf a ha =>
    -- The first value tells the kind of atom and the second one its value.
    cases a with
    | integer m =>
      cases b <;> simp [digest] at h
      exact ⟨by simp [equal, h.1], h.2⟩
    | float x =>
      cases b <;> simp [digest] at h
      exact ⟨(equal_float_iff _ _).mpr ((Binary64.floatBits_eq_iff _ _).mp h.1), h.2⟩
    | boolean c =>
      cases b <;> simp [digest] at h
      exact ⟨by simp [equal, h.1], h.2⟩
    | name s =>
      cases b <;> simp [digest] at h
      exact ⟨by simp [equal, h.1], h.2⟩
    | instruction g =>
      cases b <;> simp [digest] at h
      exact ⟨by simp [equal, h.1], h.2⟩
    | program p => cases ha
  | program p ih =>
    cases b <;> simp [digest] at h
    obtain ⟨hchildren, huv⟩ := Program.digest_append_inj (fun a ha => ih a ha) h.1 h.2
    exact ⟨(equal_program_iff _ _).mpr hchildren, huv⟩

theorem Atom.equal_iff_digest_eq (a b : Atom) : a.equal b = true ↔ a.digest = b.digest := by
  refine ⟨digest_eq_of_equal, fun h => (digest_append_inj (u := []) (v := []) ?_).1⟩
  rw [h]

/-- Equality of atoms is equality of what they feed to a hash function. -/
theorem Atom.equal_equivalence : Equivalence fun a b : Atom => a.equal b = true where
  refl a := (equal_iff_digest_eq a a).mpr rfl
  symm {a b} h := (equal_iff_digest_eq b a).mpr ((equal_iff_digest_eq a b).mp h).symm
  trans {a b c} hab hbc :=
    (equal_iff_digest_eq a c).mpr
      (((equal_iff_digest_eq a b).mp hab).trans ((equal_iff_digest_eq b c).mp hbc))

namespace Program

theorem equal_eq (p q : Program) : equal p q = (Atom.program p).equal (.program q) := by
  rw [Atom.equal]

theorem equal_equivalence : Equivalence fun p q : Program => equal p q = true := by
  simp only [equal_eq]
  exact Atom.equal_equivalence.comap Atom.program

theorem equal_self (p : Program) : equal p p = true := equal_equivalence.refl p

end Program

end PushLang
