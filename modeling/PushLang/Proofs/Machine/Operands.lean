import PushLang.Proofs.Machine.Kept
import PushLang.Scripted

namespace PushLang

variable {χ : Type}

/-- The stacks without the items that operands of these kinds are. -/
def Stacks.without (s : Stacks) (ks : List Kind) : Stacks where
  integer := ⟨s.integer.down.drop (ks.count .integer)⟩
  float := ⟨s.float.down.drop (ks.count .float)⟩
  boolean := ⟨s.boolean.down.drop (ks.count .boolean)⟩
  name := ⟨s.name.down.drop (ks.count .name)⟩
  code := ⟨s.code.down.drop (ks.count .code)⟩
  exec := ⟨s.exec.down.drop (ks.count .exec)⟩
  input := ⟨s.input.down.drop (ks.count .input)⟩

namespace Machine

def without (m : Machine χ) (ks : List Kind) : Machine χ :=
  { m with contents := m.contents.without ks }

/-- Each stack has as many items as there are operands of its kind, or at least one if operands are
only read. -/
def Supplies (m : Machine χ) (peek : Bool) (ks : List Kind) : Prop :=
  ∀ k ∈ ks, (if peek then 1 else ks.count k) ≤ (m.stack k).size

instance (m : Machine χ) (peek : Bool) (ks : List Kind) : Decidable (m.Supplies peek ks) :=
  inferInstanceAs (Decidable (∀ k ∈ ks, _))

/-- The operands are items of the stacks. Above an operand that is taken lie those of its kind that
are named behind it; one that is only read is the top item. -/
def Receives (m : Machine χ) (peek : Bool) : (ks : List Kind) → Operands ks → Prop
  | [], _ => True
  | k :: ks, (v, rest) =>
    (m.stack k).down[if peek then 0 else ks.count k]? = some v ∧ m.Receives peek ks rest

end Machine

/-- How an action ends that did this to the machine: only a failure is an error. -/
def acted {ks : List Kind} (operands : Operands ks) :
    Machine χ × Except Fault Unit → Machine χ × Except Failure Unit
  | (m, .ok ()) => (m, .ok ())
  | (m, .error .noResult) => (m, .ok ())
  | (m, .error .arithmetic) => (m, .ok ())
  | (m, .error (.failed reason)) => (m, .error (.instructionFailed (operands.inspect ks) reason))

/-- How a calculation ends: its result is pushed, or zero for an arithmetic fault where there is a
zero, or nothing. -/
def produced {ks : List Kind} (operands : Operands ks) (out : Kind) :
    Machine χ × Except Fault out.Item → Machine χ × Except Failure Unit
  | (m, .ok v) => (m.push out v, .ok ())
  | (m, .error .noResult) => (m, .ok ())
  | (m, .error .arithmetic) =>
    (match out with
      | .integer => m.push .integer (0 : Int64)
      | .float => m.push .float (0.0 : Double)
      | .boolean => m.push .boolean false
      | _ => m, .ok ())
  | (m, .error (.failed reason)) => (m, .error (.instructionFailed (operands.inspect ks) reason))

namespace Machine

variable {m : Machine χ} {k : Kind} {ks : List Kind}

theorem setStack_of_down {l : List k.Item} (h : (m.stack k).down = l) : m.setStack k ⟨l⟩ = m := by
  rw [← h]
  exact congrArg (fun contents => { m with contents }) (Stacks.set_get_self m.contents k)

theorem setStack_setStack (m : Machine χ) (k : Kind) (s t : Stack k.Item) :
    (m.setStack k s).setStack k t = m.setStack k t :=
  congrArg (fun contents => { m with contents }) (Stacks.set_set_self m.contents k s t)

theorem drop_of_down {v : k.Item} {rest : List k.Item} (h : (m.stack k).down = v :: rest) :
    m.drop k = m.setStack k ⟨rest⟩ := by
  rw [drop, Stack.pop, h, List.tail_cons]

theorem take_of_down {v : k.Item} {rest : List k.Item} (h : (m.stack k).down = v :: rest)
    (peek : Bool) : m.take k peek = (some v, if peek then m else m.setStack k ⟨rest⟩) := by
  rw [take, Stack.top?, h, List.head?_cons, drop_of_down h]

theorem take_of_nil (h : (m.stack k).down = []) (peek : Bool) : m.take k peek = (none, m) := by
  rw [take, Stack.top?, h, List.head?_nil]

theorem stack_without (m : Machine χ) (ks : List Kind) (k : Kind) :
    (m.without ks).stack k = ⟨(m.stack k).down.drop (ks.count k)⟩ := by
  cases k <;> rfl

theorem setStack_without (m : Machine χ) (k : Kind) (ks : List Kind) :
    (m.without ks).setStack k ⟨(m.stack k).down.drop (ks.count k + 1)⟩ = m.without (k :: ks) := by
  have hcontents : (m.contents.without ks).set k ⟨(m.stack k).down.drop (ks.count k + 1)⟩ =
      m.contents.without (k :: ks) := by
    cases k <;> simp [Stacks.without, Stacks.set, Machine.stack, Stacks.get]
  exact congrArg (fun contents => { m with contents }) hcontents

theorem supplies_cons_iff : m.Supplies false (k :: ks) ↔
    m.Supplies false ks ∧ ks.count k < (m.stack k).size := by
  simp only [Supplies, Bool.false_eq_true, ↓reduceIte]
  constructor
  · intro h
    have hk := h k List.mem_cons_self
    rw [List.count_cons_self] at hk
    refine ⟨fun l hl => ?_, hk⟩
    have hle : ks.count l ≤ (k :: ks).count l := List.count_le_count_cons
    exact Nat.le_trans hle (h l (List.mem_cons_of_mem k hl))
  · rintro ⟨h, hk⟩ l hl
    by_cases heq : k = l
    · subst heq
      rw [List.count_cons_self]
      exact hk
    · rw [List.count_cons_of_ne heq]
      exact h l ((List.mem_cons.mp hl).resolve_left fun hlk => heq hlk.symm)

theorem takeAll_of_supplies (h : m.Supplies false ks) :
    ∃ operands, m.Receives false ks operands ∧
      m.takeAll false ks = (some operands, m.without ks) := by
  induction ks with
  | nil => exact ⟨(), trivial, rfl⟩
  | cons k ks ih =>
    obtain ⟨hks, hk⟩ := supplies_cons_iff.mp h
    obtain ⟨rest, hrest, htaken⟩ := ih hks
    have hdown : ((m.without ks).stack k).down =
        (m.stack k).down[ks.count k] :: (m.stack k).down.drop (ks.count k + 1) := by
      rw [stack_without]
      exact List.drop_eq_getElem_cons hk
    refine ⟨((m.stack k).down[ks.count k], rest), ⟨List.getElem?_eq_getElem hk, hrest⟩, ?_⟩
    simp only [takeAll, htaken, take_of_down hdown, setStack_without]
    rfl

theorem takeAll_of_not_supplies (h : ¬ m.Supplies false ks) :
    ∃ before k after, ks = before ++ k :: after ∧ m.Supplies false after ∧
      (m.stack k).size ≤ after.count k ∧ m.takeAll false ks = (none, m.without after) := by
  induction ks with
  | nil => exact absurd (fun k hk => absurd hk List.not_mem_nil) h
  | cons k ks ih =>
    by_cases hks : m.Supplies false ks
    · have hk : (m.stack k).size ≤ ks.count k :=
        Nat.le_of_not_lt fun hk => h (supplies_cons_iff.mpr ⟨hks, hk⟩)
      obtain ⟨rest, -, htaken⟩ := takeAll_of_supplies hks
      have hdown : ((m.without ks).stack k).down = [] := by
        rw [stack_without]
        exact List.drop_eq_nil_of_le hk
      refine ⟨[], k, ks, rfl, hks, hk, ?_⟩
      simp only [takeAll, htaken, take_of_nil hdown]
    · obtain ⟨before, l, after, rfl, hafter, hl, htaken⟩ := ih hks
      refine ⟨k :: before, l, after, rfl, hafter, hl, ?_⟩
      simp only [takeAll, htaken]

theorem supplies_peek_cons_iff : m.Supplies true (k :: ks) ↔
    m.Supplies true ks ∧ 0 < (m.stack k).size := by
  rw [and_comm]
  exact List.forall_mem_cons

theorem takeAll_peek_of_supplies (h : m.Supplies true ks) :
    ∃ operands, m.Receives true ks operands ∧ m.takeAll true ks = (some operands, m) := by
  induction ks with
  | nil => exact ⟨(), trivial, rfl⟩
  | cons k ks ih =>
    obtain ⟨hks, hk⟩ := supplies_peek_cons_iff.mp h
    obtain ⟨rest, hrest, htaken⟩ := ih hks
    obtain ⟨v, below, hdown⟩ := List.exists_cons_of_length_pos hk
    refine ⟨(v, rest), ⟨by rw [hdown]; rfl, hrest⟩, ?_⟩
    simp only [takeAll, htaken, take_of_down hdown]
    rfl

theorem takeAll_peek_of_not_supplies (h : ¬ m.Supplies true ks) :
    m.takeAll true ks = (none, m) := by
  induction ks with
  | nil => exact absurd (fun k hk => absurd hk List.not_mem_nil) h
  | cons k ks ih =>
    by_cases hks : m.Supplies true ks
    · have hnil : (m.stack k).down = [] :=
        List.length_eq_zero_iff.mp
          (Nat.eq_zero_of_not_pos fun hk => h (supplies_peek_cons_iff.mpr ⟨hks, hk⟩))
      obtain ⟨rest, -, htaken⟩ := takeAll_peek_of_supplies hks
      simp only [takeAll, htaken, take_of_nil hnil]
    · simp only [takeAll, ih hks]

end Machine

section

variable {m m' : Machine χ} {peek : Bool} {ks : List Kind}

theorem action_of_some {operands : Operands ks} (h : m.takeAll peek ks = (some operands, m'))
    (f : Callback χ ks Unit) : action ks peek f m = acted operands (f operands m') := by
  simp only [action, h]
  rcases f operands m' with ⟨m'', (_ | _ | reason) | _⟩ <;> rfl

theorem producing_of_some {operands : Operands ks} (h : m.takeAll peek ks = (some operands, m'))
    (out : Kind) (f : Callback χ ks out.Item) :
    producing ks out peek f m = produced operands out (f operands m') := by
  simp only [producing, h]
  rcases f operands m' with ⟨m'', (_ | _ | reason) | v⟩
  · rfl
  · cases out <;> rfl
  · rfl
  · rfl

theorem action_of_none (h : m.takeAll peek ks = (none, m')) (f : Callback χ ks Unit) :
    action ks peek f m = (m', .ok ()) := by
  simp only [action, h]

theorem producing_of_none (h : m.takeAll peek ks = (none, m')) (out : Kind)
    (f : Callback χ ks out.Item) : producing ks out peek f m = (m', .ok ()) := by
  simp only [producing, h]

end

end PushLang
