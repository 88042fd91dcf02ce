import PushLang.Proofs.Atom.Equality
import PushLang.Stack.Element

namespace PushLang

namespace Element

def IsNaN : (e : Element) → e.Carrier → Prop
  | .float, (x : Double) => x.isNaN = true
  | _, _ => False

theorem equal_symm {e : Element} {a b : e.Carrier} (h : e.equal a b = true) :
    e.equal b a = true := by
  cases e with
  | integer | boolean | name => exact BEq.symm h
  | float => exact Binary64.beq_symm h
  | atom => exact Atom.equal_equivalence.symm h

theorem equal_trans {e : Element} {a b c : e.Carrier} (hab : e.equal a b = true)
    (hbc : e.equal b c = true) : e.equal a c = true := by
  cases e with
  | integer | boolean | name => exact BEq.trans hab hbc
  | float => exact Binary64.beq_trans hab hbc
  | atom => exact Atom.equal_equivalence.trans hab hbc

theorem equal_self_iff {e : Element} (a : e.Carrier) : e.equal a a = true ↔ ¬ e.IsNaN a := by
  cases e with
  | integer | boolean | name => exact iff_of_true BEq.rfl id
  | float => exact (Binary64.beq_self_iff a).trans Bool.eq_false_iff
  | atom => exact iff_of_true (Atom.equal_equivalence.refl a) id

end Element

theorem Stack.equal_iff {α : Type} (eq : α → α → Bool) (s t : Stack α) :
    s.equal eq t = true ↔ List.Forall₂ (fun a b => eq a b = true) s.toList t.toList := by
  rw [toList, toList, List.forall₂_reverse_iff, List.forall₂_iff_zip, Stack.equal, size, size]
  simp

theorem forall₂_trans {α : Type} {R : α → α → Prop} (trans : ∀ {a b c}, R a b → R b c → R a c)
    {l₁ l₂ l₃ : List α} (h₁ : List.Forall₂ R l₁ l₂) (h₂ : List.Forall₂ R l₂ l₃) :
    List.Forall₂ R l₁ l₃ := by
  induction h₁ generalizing l₃ with
  | nil =>
    cases h₂
    exact .nil
  | cons hab _ ih =>
    cases h₂ with
    | cons hbc h₂ => exact .cons (trans hab hbc) (ih h₂)

namespace AnyStack

/-- A stack of doubles with one that is no number. -/
def HoldsNaN (s : AnyStack) : Prop := ∃ a ∈ s.2.toList, s.1.IsNaN a

theorem equal_iff {e : Element} (s t : Stack e.Carrier) : equal ⟨e, s⟩ ⟨e, t⟩ = true ↔
    List.Forall₂ (fun a b => e.equal a b = true) s.toList t.toList := by
  cases e <;> exact Stack.equal_iff _ s t

theorem type_eq {s t : AnyStack} (h : s.equal t = true) : s.1 = t.1 := by
  obtain ⟨e, s⟩ := s
  obtain ⟨f, t⟩ := t
  cases e <;> cases f <;> first | rfl | cases h

theorem equal_symm {s t : AnyStack} (h : s.equal t = true) : t.equal s = true := by
  obtain ⟨e, s⟩ := s
  obtain ⟨f, t⟩ := t
  obtain rfl : e = f := type_eq h
  rw [equal_iff] at h ⊢
  exact (h.imp fun a b hab => Element.equal_symm hab).flip

theorem equal_trans {s t u : AnyStack} (hst : s.equal t = true) (htu : t.equal u = true) :
    s.equal u = true := by
  obtain ⟨e, s⟩ := s
  obtain ⟨f, t⟩ := t
  obtain ⟨g, u⟩ := u
  obtain rfl : e = f := type_eq hst
  obtain rfl : e = g := type_eq htu
  rw [equal_iff] at hst htu ⊢
  exact forall₂_trans Element.equal_trans hst htu

theorem equal_self_iff (s : AnyStack) : s.equal s = true ↔ ¬ s.HoldsNaN := by
  obtain ⟨e, s⟩ := s
  rw [equal_iff, List.forall₂_same, HoldsNaN]
  simp only [Element.equal_self_iff, not_exists, not_and]

end AnyStack

theorem Program.digest_eq_flatMap (p : Program) : digest p = p.flatMap Atom.digest := by
  induction p with
  | nil => rw [digest, List.flatMap_nil]
  | cons a p ih => rw [digest, List.flatMap_cons, ih]

theorem Atom.digest_program (p : Program) :
    (Atom.program p).digest = .tag 5 :: AnyStack.digest ⟨.atom, .ofList p⟩ := by
  rw [digest, AnyStack.digest, Program.digest_eq_flatMap, Stack.size, Stack.toList, Stack.ofList,
    List.length_reverse, List.reverse_reverse]
  rfl

theorem Program.equal_iff_digest_eq (p q : Program) : Program.equal p q = true ↔
    AnyStack.digest ⟨.atom, .ofList p⟩ = AnyStack.digest ⟨.atom, .ofList q⟩ := by
  rw [Program.equal_eq, Atom.equal_iff_digest_eq, Atom.digest_program, Atom.digest_program,
    List.cons.injEq, eq_self, true_and]

/-- Atoms are equal if they are of the same value, and so are programs. Both equalities are
equivalences, under which the same values are fed to a hash function and under no other
circumstances. Equality of stacks of any types is symmetric and transitive and holds for one type of
items only. A stack differs from itself just if it is one of doubles with a NaN, and for stacks of
atoms it is equality of the atoms one by one. -/
theorem equality_agrees_with_digests :
    (Equivalence fun a b : Atom => a.equal b = true) ∧
      (Equivalence fun p q : Program => Program.equal p q = true) ∧
      (∀ a b : Atom, a.equal b = true ↔ a.Same b) ∧
      (∀ a b : Atom, a.equal b = true ↔ a.digest = b.digest) ∧
      (∀ p q : Program, Program.equal p q = true ↔
        AnyStack.digest ⟨.atom, .ofList p⟩ = AnyStack.digest ⟨.atom, .ofList q⟩) ∧
      (∀ s t : AnyStack, s.equal t = true → t.equal s = true) ∧
      (∀ s t u : AnyStack, s.equal t = true → t.equal u = true → s.equal u = true) ∧
      (∀ s t : AnyStack, s.1 ≠ t.1 → s.equal t = false) ∧
      (∀ s : AnyStack, s.equal s = true ↔ ¬ s.HoldsNaN) ∧
      ∀ s t : Stack Atom, AnyStack.equal ⟨.atom, s⟩ ⟨.atom, t⟩ = true ↔
        List.Forall₂ (fun a b => a.equal b = true) s.toList t.toList := by
  refine ⟨Atom.equal_equivalence, Program.equal_equivalence, Atom.equal_iff_same,
    Atom.equal_iff_digest_eq, Program.equal_iff_digest_eq, fun s t => AnyStack.equal_symm,
    fun s t u => AnyStack.equal_trans, ?_, AnyStack.equal_self_iff,
    AnyStack.equal_iff (e := .atom)⟩
  intro s t htypes
  exact Bool.eq_false_iff.mpr fun h => htypes (AnyStack.type_eq h)

/-- Zeros of both signs and NaNs of different payloads, inside of programs and on stacks. -/
theorem equality_agrees_with_digests_zeros :
    let zero : Double := ⟨0⟩
    let minusZero : Double := ⟨0x8000000000000000⟩
    let nan : Double := ⟨0x7ff8000000000000⟩
    let otherNaN : Double := ⟨0xfff0000000000001⟩
    let a : Atom := .program [.float zero, .program [.float nan]]
    let b : Atom := .program [.float minusZero, .program [.float otherNaN]]
    let s : AnyStack := ⟨.float, ⟨[zero]⟩⟩
    let t : AnyStack := ⟨.float, ⟨[minusZero]⟩⟩
    let u : AnyStack := ⟨.float, ⟨[nan]⟩⟩
    let v : AnyStack := ⟨.integer, .empty⟩
    zero ≠ minusZero ∧ nan ≠ otherNaN ∧ a.equal b = true ∧ a.digest = b.digest ∧
      s.equal t = true ∧ t.equal s = true ∧ s.equal s = true ∧ u.HoldsNaN ∧ ¬ u.equal u = true ∧
      v.1 ≠ s.1 ∧ v.equal s = false := by
  intro zero minusZero nan otherNaN a b s t u v
  obtain ⟨-, -, hsame, hdigest, -, hsymm, htrans, htypes, hself, -⟩ := equality_agrees_with_digests
  have hzeros : (Atom.float zero).Same (.float minusZero) := .float (by decide)
  have hnans : (Atom.float nan).Same (.float otherNaN) := .float (by decide)
  have hab : a.equal b = true :=
    (hsame a b).mpr (.program (.cons hzeros (.cons (.program (.cons hnans .nil)) .nil)))
  have hst : s.equal t = true := by decide
  have hnan : u.HoldsNaN := ⟨nan, List.mem_singleton_self nan, Binary64.isNaN_of_lt (by decide)⟩
  have hne : v.1 ≠ s.1 := by decide
  exact ⟨by decide, by decide, hab, (hdigest a b).mp hab, hst, hsymm s t hst,
    htrans s t s hst (hsymm s t hst), hnan, fun h => (hself u).mp h hnan, hne, htypes v s hne⟩

end PushLang
