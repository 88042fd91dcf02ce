import PushLang.Proofs.Binary64.Sign
import PushLang.Proofs.Guarded.Stack
import PushLang.Proofs.Random.Range

namespace PushLang.Guarded

open PushLang.Random Binary64

def draw? (n : Nat) (s : Source) : Option (Nat × Source) := if 0 < n then some (s.draw n) else none

def drawUpTo? (n : Int) (s : Source) : Option (Nat × Source) :=
  if 0 ≤ n then some (s.draw (n.toNat + 1)) else none

def div? (a b : Int64) : Option Int64 :=
  if b = 0 ∨ (a = Int64.minValue ∧ b = -1) then none else some (a / b)

def sampleInteger? (r : IntegerRange) (s : Source) : Option (Int64 × Source) :=
  if r.isProper then do
    let steps ← div? (Int64.ofIntClamp (r.max.toInt - r.min.toInt)) r.resolution
    let (k, s) ← drawUpTo? steps.toInt s
    some (r.value k, s)
  else some (r.min, s)

/-- The largest whole number that is not above a finite double. -/
def floor (x : Double) : Int :=
  if negative x then -((units (magnitude x) + (one - 1)) / one : Nat)
  else (units (magnitude x) / one : Nat)

def sampleFloat? (r : FloatRange) (s : Source) : Option (Double × Source) :=
  let quotient := (r.max - r.min) / r.resolution
  if r.resolution > 0.0 ∧ r.max > r.min ∧ quotient.isFinite ∧ floor quotient < 2 ^ 63 then do
    let (k, s) ← drawUpTo? (floor quotient) s
    some (r.value k, s)
  else some (r.min, s)

def generate? (config : Config) (g : Generator) (s : Source) : Option (Atom × Source) :=
  match g with
  | .integer => (sampleInteger? config.integers s).map fun (n, s) => (.integer n, s)
  | .float => (sampleFloat? config.floats s).map fun (x, s) => (.float x, s)
  | g => some (g.generate config s)

theorem sub?_lt {a b c : Nat} (h : sub? a (b + 1) = some c) : c < a := by
  unfold sub? at h
  split at h
  · cases h
    omega
  · cases h

/-- What remains is never less than nothing. -/
def parts? (count : Nat) (s : Source) : Option (List Nat × Source) :=
  if count = 0 then some ([], s)
  else
    match if count < 2 then some (0, s) else draw? count s with
    | none => none
    | some (extra, s) =>
      match _h : sub? count (extra + 1) with
      | none => none
      | some remaining => (parts? remaining s).map fun (others, s) => ((extra + 1) :: others, s)
termination_by count
decreasing_by exact sub?_lt _h

def distribution? (count : Nat) (s : Source) : Option (List Nat × Source) :=
  (parts? count s).map fun (sizes, s) => s.shuffle sizes

def atom? (generators : List Generator) (config : Config) (s : Source) :
    Option (Except Failure Atom × Source) :=
  if generators.isEmpty then some (.error .noActiveInstructions, s)
  else do
    let (i, s) ← draw? generators.length s
    match generators[i]? with
    | some g => (generate? config g s).map fun (a, s) => (.ok a, s)
    | none => some (.error .noActiveInstructions, s)

def children? (child : Nat → Source → Option (Except Failure Atom × Source)) :
    List Nat → Source → Option (Except Failure Program × Source)
  | [], s => some (.ok [], s)
  | size :: sizes, s => do
    match ← child size s with
    | (.error e, s) => some (.error e, s)
    | (.ok a, s) =>
      match ← children? child sizes s with
      | (.error e, s) => some (.error e, s)
      | (.ok rest, s) => some (.ok (a :: rest), s)

def codeWithin? (generators : List Generator) (config : Config) :
    (depth size : Nat) → Source → Option (Except Failure Program × Source)
  | 0, _, s => some (.ok [], s)
  | depth + 1, size, s => do
    let (sizes, s) ← distribution? (size - 1) s
    let child (size : Nat) (s : Source) :=
      if size = 1 then atom? generators config s
      else (codeWithin? generators config depth size s).map fun (p, s) => (p.map Atom.program, s)
    children? child sizes s

def code? (generators : List Generator) (config : Config) (size : Nat) (s : Source) :
    Option (Except Failure Program × Source) :=
  codeWithin? generators config size size s

theorem draw?_eq {n : Nat} (h : 0 < n) (s : Source) : draw? n s = some (s.draw n) := if_pos h

theorem drawUpTo?_eq (n : Nat) (s : Source) : drawUpTo? n s = some (s.draw (n + 1)) :=
  if_pos (Int.natCast_nonneg n)

theorem div?_eq {a b : Int64} (hb : b ≠ 0) (hneg : b ≠ -1) : div? a b = some (a / b) :=
  if_neg fun h => h.elim hb fun h => hneg h.2

theorem sampleInteger?_eq (r : IntegerRange) (s : Source) :
    sampleInteger? r s = some (r.sample s) := by
  unfold sampleInteger? IntegerRange.sample
  split
  · rename_i hproper
    obtain ⟨hzero, hneg⟩ := IntegerRange.resolution_ne hproper
    rw [div?_eq hzero hneg]
    simp only [Option.bind_eq_bind, Option.bind_some, IntegerRange.toInt_quotient hproper,
      drawUpTo?_eq]
  · rfl

theorem floor_eq {x : Double} (h : negative x = false) : floor x = (units (magnitude x) / one : Nat) := by
  rw [floor, h, if_neg Bool.false_ne_true]

/-- The number of steps has no sign, so the range up to it is not empty. -/
theorem sampleFloat?_eq (r : FloatRange) (s : Source) : sampleFloat? r s = some (r.sample s) := by
  unfold sampleFloat? FloatRange.sample FloatRange.steps?
  dsimp only
  by_cases hproper : r.resolution > 0.0 ∧ r.max > r.min ∧ ((r.max - r.min) / r.resolution).isFinite
  · obtain ⟨hresolution, hrange, hfinite⟩ := hproper
    rw [floor_eq (negative_quotient hresolution hrange hfinite)]
    by_cases hfits : units (magnitude ((r.max - r.min) / r.resolution)) / one < 2 ^ 63
    · rw [if_pos ⟨hresolution, hrange, hfinite, by omega⟩,
        if_pos ⟨hresolution, hrange, hfinite, hfits⟩, drawUpTo?_eq]
      rfl
    · rw [if_neg, if_neg]
      · intro h
        exact hfits h.2.2.2
      · intro h
        omega
  · rw [if_neg fun h => hproper ⟨h.1, h.2.1, h.2.2.1⟩, if_neg fun h => hproper ⟨h.1, h.2.1, h.2.2.1⟩]

theorem generate?_eq (config : Config) (g : Generator) (s : Source) :
    generate? config g s = some (g.generate config s) := by
  cases g with
  | instruction name => rfl
  | boolean => rfl
  | integer => simp only [generate?, sampleInteger?_eq, Option.map_some, Generator.generate]
  | float => simp only [generate?, sampleFloat?_eq, Option.map_some, Generator.generate]

theorem parts?_eq (count : Nat) (s : Source) : parts? count s = some (parts count s) := by
  induction count using Nat.strongRecOn generalizing s with
  | _ count ih =>
    by_cases h : 0 < count
    · have hfirst := first_part_le h s
      have hdrawn : (if count < 2 then some (0, s) else draw? count s) =
          some (if count < 2 then (0, s) else s.draw count) := by
        rw [draw?_eq h]
        split <;> rfl
      rw [parts?, if_neg (by omega), parts_pos h, hdrawn]
      dsimp only
      -- The guard is matched with its proof for termination, so it is split and not rewritten.
      split
      · rename_i hsub
        rw [sub?_eq hfirst] at hsub
        cases hsub
      · rename_i remaining hsub
        rw [sub?_eq hfirst] at hsub
        cases hsub
        rw [ih _ (by omega)]
        rfl
    · obtain rfl : count = 0 := by omega
      rw [parts?, if_pos rfl, parts_zero]

theorem distribution?_eq (count : Nat) (s : Source) :
    distribution? count s = some (distribution count s) := by
  rw [distribution?, parts?_eq]
  rfl

theorem atom?_eq (generators : List Generator) (config : Config) (s : Source) :
    atom? generators config s = some (atom generators config s) := by
  unfold atom? atom
  split
  · rfl
  · rename_i hne
    have hpos : 0 < generators.length :=
      List.length_pos_iff.mpr fun h => hne (List.isEmpty_iff.mpr h)
    rw [draw?_eq hpos]
    simp only [Option.bind_eq_bind, Option.bind_some]
    cases generators[(s.draw generators.length).1]? with
    | none => rfl
    | some g => simp only [generate?_eq, Option.map_some]

theorem children?_eq {child? : Nat → Source → Option (Except Failure Atom × Source)}
    {child : Nat → Source → Except Failure Atom × Source}
    (h : ∀ size s, child? size s = some (child size s)) (sizes : List Nat) (s : Source) :
    children? child? sizes s = some (children child sizes s) := by
  induction sizes generalizing s with
  | nil => rfl
  | cons size sizes ih =>
    simp only [children?, children, h, Option.bind_eq_bind, Option.bind_some]
    rcases child size s with ⟨e | a, s₁⟩
    · rfl
    · simp only [ih, Option.bind_some]
      rcases children child sizes s₁ with ⟨e | p, s₂⟩ <;> rfl

theorem codeWithin?_eq (generators : List Generator) (config : Config) (depth size : Nat)
    (s : Source) :
    codeWithin? generators config depth size s = some (codeWithin generators config depth size s) := by
  induction depth generalizing size s with
  | zero => rfl
  | succ depth ih =>
    simp only [codeWithin?, codeWithin, distribution?_eq, Option.bind_eq_bind, Option.bind_some]
    apply children?_eq
    intro size s
    split
    · exact atom?_eq generators config s
    · rw [ih]
      rfl

theorem code?_eq (generators : List Generator) (config : Config) (size : Nat) (s : Source) :
    code? generators config size s = some (code generators config size s) :=
  codeWithin?_eq generators config size size s

end PushLang.Guarded
