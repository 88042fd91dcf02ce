import PushLang.Builtin.Stacks
import PushLang.Proofs.Stack.Depth

namespace PushLang.Guarded

variable {α : Type}

def sub? (a b : Nat) : Option Nat := if b ≤ a then some (a - b) else none

def insert? (items : List α) (i : Nat) (a : α) : Option (List α) :=
  if i ≤ items.length then some (items.take i ++ a :: items.drop i) else none

def remove? (items : List α) (i : Nat) : Option (α × List α) :=
  items[i]?.map fun a => (a, items.take i ++ items.drop (i + 1))

def exchange? (items : List α) (i j : Nat) : Option (List α) := do
  let a ← items[i]?
  let b ← items[j]?
  some ((items.set i b).set j a)

def split? (items : List α) (i : Nat) : Option (List α × List α) :=
  if i ≤ items.length then some (items.splitAt i) else none

def rotate? (items : List α) (n : Nat) : Option (List α) :=
  if n ≤ items.length then some (items.drop n ++ items.take n) else none

def reverseIndex? (s : Stack α) (n : Int64) : Option Nat :=
  if s.isEmpty then some 0
  else do
    let last ← sub? s.size 1
    sub? last (s.clamp n)

def peek? (s : Stack α) (n : Int64) : Option (Option α) :=
  if s.isEmpty then some none
  else do
    let index ← reverseIndex? s n
    s.toList[index]?.map some

def deepPeek? (s : Stack α) (n : Int64) : Option (Option α) :=
  if s.isEmpty then some none else s.toList[s.clamp n]?.map some

def swap? (s : Stack α) : Option (Stack α) :=
  if 1 < s.size then do
    let i ← sub? s.size 1
    let j ← sub? s.size 2
    let items ← exchange? s.toList i j
    some (.ofList items)
  else some s

def rot? (s : Stack α) : Option (Stack α) :=
  if 2 < s.size then do
    let start ← sub? s.size 3
    let (low, high) ← split? s.toList start
    let rotated ← rotate? high 1
    some (.ofList (low ++ rotated))
  else some s

/-- An item goes right above the one at depth `n`, and on top if that is the top item. -/
def shove? (s : Stack α) (a : α) (n : Int64) : Option (Stack α) := do
  let i ← reverseIndex? s n
  if s.isEmpty then some (s.push a)
  else do
    let last ← sub? s.size 1
    if i = last then some (s.push a) else (insert? s.toList (i + 1) a).map .ofList

def shoveTop? (s : Stack α) (n : Int64) : Option (Stack α) :=
  if s.isEmpty then some s
  else do
    let target ← reverseIndex? s n
    match s.top? with
    | some a => (insert? s.pop.toList target a).map .ofList
    | none => some s

def yank? (s : Stack α) (n : Int64) : Option (Stack α) :=
  if s.isEmpty then some s
  else do
    let index ← reverseIndex? s n
    let (a, rest) ← remove? s.toList index
    some (.ofList (rest ++ [a]))

def yankDup? (s : Stack α) (n : Int64) : Option (Stack α) :=
  if s.isEmpty then some s
  else do
    let index ← reverseIndex? s n
    match s.toList[index]? with
    | some a => some (s.push a)
    | none => some s

theorem sub?_eq {a b : Nat} (h : b ≤ a) : sub? a b = some (a - b) := if_pos h

theorem reverseIndex?_eq (s : Stack α) (n : Int64) :
    reverseIndex? s n = some (s.reverseIndex n) := by
  have hclamp := s.clamp_le n
  unfold reverseIndex?
  split
  · rename_i hempty
    have hsize := Stack.isEmpty_iff.mp hempty
    rw [Stack.reverseIndex, hsize, Nat.zero_sub]
  · rename_i hempty
    have hsize := mt Stack.isEmpty_iff.mpr hempty
    rw [sub?_eq (by omega)]
    exact sub?_eq hclamp

theorem peek?_eq (s : Stack α) (n : Int64) : peek? s n = some (s.peek? n) := by
  unfold peek?
  split
  · rename_i hempty
    rw [Stack.eq_empty_of_size (Stack.isEmpty_iff.mp hempty)]
    rfl
  · rename_i hempty
    obtain ⟨a, ha⟩ := Stack.exists_peek? (mt Stack.isEmpty_iff.mpr hempty) n
    simp only [reverseIndex?_eq, Option.bind_eq_bind, Option.bind_some, ← Stack.peek?_eq, ha,
      Option.map_some]

theorem deepPeek?_eq (s : Stack α) (n : Int64) : deepPeek? s n = some (s.deepPeek? n) := by
  unfold deepPeek?
  split
  · rename_i hempty
    rw [Stack.eq_empty_of_size (Stack.isEmpty_iff.mp hempty)]
    rfl
  · rename_i hempty
    obtain ⟨a, ha⟩ := Stack.exists_deepPeek? (mt Stack.isEmpty_iff.mpr hempty) n
    rw [← Stack.deepPeek?_eq, ha, Option.map_some]

theorem exchange?_last (items : List α) (a b : α) :
    exchange? (items ++ [b, a]) (items.length + 1) items.length = some (items ++ [a, b]) := by
  simp [exchange?]

theorem swap?_eq (s : Stack α) : swap? s = some s.swap := by
  obtain ⟨down⟩ := s
  rcases down with _ | ⟨a, _ | ⟨b, rest⟩⟩
  · rfl
  · rfl
  · -- Seen from the bottom the two items on top are the last ones.
    have hitems : Stack.toList ⟨a :: b :: rest⟩ = rest.reverse ++ [b, a] := by simp [Stack.toList]
    have hsize : Stack.size ⟨a :: b :: rest⟩ = rest.reverse.length + 2 := by simp [Stack.size]
    rw [swap?, if_pos (by omega), hsize, sub?_eq (by omega), sub?_eq (by omega), hitems]
    simp only [Option.bind_eq_bind, Option.bind_some, Nat.add_sub_cancel]
    rw [show rest.reverse.length + 2 - 1 = rest.reverse.length + 1 by omega, exchange?_last]
    simp [Stack.ofList, Stack.swap]

theorem rot?_eq (s : Stack α) : rot? s = some s.rot := by
  obtain ⟨down⟩ := s
  rcases down with _ | ⟨a, _ | ⟨b, _ | ⟨c, rest⟩⟩⟩
  · rfl
  · rfl
  · rfl
  · have hitems : Stack.toList ⟨a :: b :: c :: rest⟩ = rest.reverse ++ [c, b, a] := by
      simp [Stack.toList]
    have hsize : Stack.size ⟨a :: b :: c :: rest⟩ = rest.reverse.length + 3 := by simp [Stack.size]
    have hsplit : split? (rest.reverse ++ [c, b, a]) rest.reverse.length =
        some (rest.reverse, [c, b, a]) := by simp [split?]
    rw [rot?, if_pos (by omega), hsize, sub?_eq (by omega), hitems]
    simp only [Option.bind_eq_bind, Option.bind_some, Nat.add_sub_cancel, hsplit]
    simp [rotate?, Stack.ofList, Stack.rot]

/-- Positions from the top and from the bottom add up. -/
theorem insert?_reverse {l : List α} {c : Nat} (h : c ≤ l.length) (a : α) :
    insert? l.reverse (l.length - c) a = some (l.insertIdx c a).reverse := by
  obtain ⟨above, below, rfl, rfl, hinsert⟩ := List.exists_of_modifyTailIdx (List.cons a) h
  have hindex : (above ++ below).length - above.length = below.reverse.length := by simp
  rw [List.insertIdx, hinsert, hindex, List.reverse_append, insert?, List.take_left, List.drop_left,
    if_pos (by simp)]
  simp

theorem remove?_reverse {l : List α} {c : Nat} (h : c < l.length) :
    remove? l.reverse (l.length - 1 - c) = l[c]?.map fun a => (a, (l.eraseIdx c).reverse) := by
  have hindex : l.length - 1 - (l.length - 1 - c) = c := by omega
  have htake : l.length - (l.length - 1 - c) = c + 1 := by omega
  have hdrop : l.length - (l.length - 1 - c + 1) = c := by omega
  rw [remove?, List.getElem?_reverse (by omega), hindex, List.take_reverse, List.drop_reverse,
    htake, hdrop, List.eraseIdx_eq_take_drop_succ, List.reverse_append]

theorem shove?_eq (s : Stack α) (a : α) (n : Int64) : shove? s a n = some (s.shove a n) := by
  have hclamp := s.clamp_le n
  unfold shove? Stack.shove
  simp only [reverseIndex?_eq, Option.bind_eq_bind, Option.bind_some]
  split
  · rename_i hempty
    obtain rfl := Stack.eq_empty_of_size (Stack.isEmpty_iff.mp hempty)
    rw [Nat.le_zero.mp hclamp]
    rfl
  · rename_i hempty
    have hsize := mt Stack.isEmpty_iff.mpr hempty
    rw [sub?_eq (by omega), Option.bind_some, Stack.reverseIndex]
    split
    · have hzero : s.clamp n = 0 := by omega
      rw [hzero]
      rfl
    · have hindex : s.size - 1 - s.clamp n + 1 = s.down.length - s.clamp n := by
        unfold Stack.size at *
        omega
      have hle : s.clamp n ≤ s.down.length := Nat.le_trans hclamp (Nat.sub_le _ _)
      rw [hindex, Stack.toList, insert?_reverse hle]
      simp [Stack.ofList]

theorem shoveTop?_eq (s : Stack α) (n : Int64) : shoveTop? s n = some (s.shoveTop n) := by
  have hclamp := s.clamp_le n
  unfold shoveTop? Stack.shoveTop
  rw [reverseIndex?_eq]
  obtain ⟨down⟩ := s
  rcases down with _ | ⟨a, rest⟩
  · rfl
  · have hle : Stack.clamp ⟨a :: rest⟩ n ≤ rest.length := hclamp
    have hindex : Stack.reverseIndex ⟨a :: rest⟩ n = rest.length - Stack.clamp ⟨a :: rest⟩ n := rfl
    have hinsert := insert?_reverse hle a
    rw [hindex]
    change (insert? rest.reverse _ a).map Stack.ofList = _
    rw [hinsert]
    simp [Stack.ofList]

theorem yank?_eq (s : Stack α) (n : Int64) : yank? s n = some (s.yank n) := by
  unfold yank? Stack.yank
  rw [reverseIndex?_eq]
  split
  · rename_i hempty
    rw [Stack.eq_empty_of_size (Stack.isEmpty_iff.mp hempty)]
    rfl
  · rename_i hempty
    have hlt := Stack.clamp_lt (mt Stack.isEmpty_iff.mpr hempty) n
    have hremove : remove? s.toList (s.reverseIndex n) = _ := remove?_reverse hlt
    have hpeek : s.peek? n = some (s.down.get ⟨s.clamp n, hlt⟩) := List.getElem?_eq_getElem hlt
    simp only [Option.bind_eq_bind, Option.bind_some, hremove, hpeek]
    rw [List.getElem?_eq_getElem hlt]
    simp only [Option.map_some, Option.bind_some, Stack.ofList, List.reverse_append,
      List.reverse_reverse]
    rfl

theorem yankDup?_eq (s : Stack α) (n : Int64) : yankDup? s n = some (s.yankDup n) := by
  unfold yankDup? Stack.yankDup
  rw [reverseIndex?_eq]
  split
  · rename_i hempty
    rw [Stack.eq_empty_of_size (Stack.isEmpty_iff.mp hempty)]
    rfl
  · rename_i hempty
    simp only [Option.bind_eq_bind, Option.bind_some, ← Stack.peek?_eq]
    cases s.peek? n <;> rfl

def applyStack? : StackOp → Stack α → Option (Stack α)
  | .swap, s => swap? s
  | .rot, s => rot? s
  | op, s => some (op.apply s)

def applyIndex? : IndexOp → Stack α → Int64 → Option (Stack α)
  | .shove, s, n => shoveTop? s n
  | .yank, s, n => yank? s n
  | .yankDup, s, n => yankDup? s n

theorem applyStack?_eq (op : StackOp) (s : Stack α) : applyStack? op s = some (op.apply s) := by
  cases op with
  | swap => exact swap?_eq s
  | rot => exact rot?_eq s
  | pop | dup | flush => rfl

theorem applyIndex?_eq (op : IndexOp) (s : Stack α) (n : Int64) :
    applyIndex? op s n = some (op.apply s n) := by
  cases op with
  | shove => exact shoveTop?_eq s n
  | yank => exact yank?_eq s n
  | yankDup => exact yankDup?_eq s n

end PushLang.Guarded
