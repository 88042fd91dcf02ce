import PushLang.Proofs.Builtin.Parts
import PushLang.Proofs.Machine.Run
import PushLang.Proofs.Machine.Steps

namespace PushLang

variable {χ : Type}

/-- The operation is no host instruction, no built-in one with one of the names, and no constant
that is pending code. -/
def Operation.Avoids (names : String → Prop) : Operation χ → Prop
  | .builtin b => ¬ names b.name
  | .input _ => True
  | .constant c => c.kind ≠ .exec
  | .host _ => False

namespace Machine

/-- The operation that an atom stands for. A name stands for what it is bound to, else for the
instruction of that name, else for itself. -/
def meaning? (m : Machine χ) : Atom → Option (Operation χ)
  | .integer n => some (.constant ⟨.integer, n⟩)
  | .float x => some (.constant ⟨.float, x⟩)
  | .boolean b => some (.constant ⟨.boolean, b⟩)
  | .name s =>
    match m.bindings[s]? with
    | some c => some (.constant c)
    | none =>
      match m.instructions[s]? with
      | some h => m.operations[h.serial]?
      | none => some (.constant ⟨.name, s⟩)
  | .instruction h => m.operations[h.serial]?
  | .program _ => none

/-- The handle is that of a built-in instruction with its name, or of an input instruction. -/
def IsGenuine (m : Machine χ) (h : Handle) : Prop :=
  (∃ b : Builtin, m.operations[h.serial]? = some (.builtin b) ∧ b.name = h.name) ∨
    ∃ index, m.operations[h.serial]? = some (.input index)

/-- Built-in instructions are registered under their own names, and besides them only input
instructions. -/
def IsWellNamed (m : Machine χ) : Prop :=
  ∀ (s : String) (h : Handle), m.instructions[s]? = some h → h.name = s ∧ m.IsGenuine h

def BindsNoExec (m : Machine χ) : Prop :=
  ∀ (s : String) (c : Constant), m.bindings[s]? = some c → c.kind ≠ .exec

/-- Names are bound to values of these kinds only. -/
def BindsOnly (m : Machine χ) (kinds : Kind → Prop) : Prop :=
  ∀ (s : String) (c : Constant), m.bindings[s]? = some c → kinds c.kind

/-- The atom is none of the names, and no handle of an instruction with one of them. -/
def Avoids (m : Machine χ) (names : String → Prop) : Atom → Prop
  | .name s => ¬ names s
  | .instruction h => ¬ names h.name ∧ m.IsGenuine h
  | _ => True

variable {m m' : Machine χ} {names : String → Prop}

theorem dispatch_of_meaning? [Host χ] {l : Atom} {op : Operation χ} (h : m.meaning? l = some op) :
    dispatch l m = op.run m := by
  have hinvoke : ∀ g : Handle, m.operations[g.serial]? = some op → invoke g m = op.run m := by
    intro g hg
    simp only [invoke, hg]
  cases l with
  | integer n | float x | boolean b =>
    cases h
    rfl
  | name s =>
    simp only [meaning?] at h
    simp only [dispatch, resolve]
    rcases hbound : m.bindings[s]? with _ | c
    · rcases hname : m.instructions[s]? with _ | g
      · simp only [hbound, hname] at h ⊢
        cases h
        rfl
      · simp only [hbound, hname] at h ⊢
        exact hinvoke g h
    · simp only [hbound] at h ⊢
      cases h
      rfl
  | instruction g => exact hinvoke g h
  | program p => cases h

/-- An atom without a meaning is a program, or a handle that refers to nothing or a name for one. -/
theorem dispatch_of_meaning?_none [Host χ] {a : Atom} (h : m.meaning? a = none) :
    (∃ p, a = .program p) ∨ dispatch a m = (m, .ok ()) := by
  cases a with
  | program p => exact .inl ⟨p, rfl⟩
  | integer n | float x | boolean b => cases h
  | instruction g =>
    have hnone : m.operations[g.serial]? = none := h
    simp only [dispatch, invoke, hnone, or_true]
  | name s =>
    simp only [meaning?] at h
    simp only [dispatch, resolve]
    rcases hbound : m.bindings[s]? with _ | c
    · rcases hname : m.instructions[s]? with _ | g
      · simp only [hbound, hname, reduceCtorEq] at h
      · simp only [hbound, hname] at h
        simp only [invoke, h, or_true]
    · simp only [hbound, reduceCtorEq] at h

theorem IsGenuine.avoids {h : Handle} (hgenuine : m.IsGenuine h) (hname : ¬ names h.name) :
    ∃ op, m.operations[h.serial]? = some op ∧ op.Avoids names := by
  rcases hgenuine with ⟨b, hop, hb⟩ | ⟨index, hop⟩
  · exact ⟨.builtin b, hop, show ¬ names b.name from hb ▸ hname⟩
  · exact ⟨.input index, hop, trivial⟩

theorem exists_meaning? (hnamed : m.IsWellNamed) (hbound : m.BindsNoExec) {l : Atom}
    (hleaf : l.isProgram = false) (hl : m.Avoids names l) :
    ∃ op, m.meaning? l = some op ∧ op.Avoids names := by
  cases l with
  | integer n => exact ⟨_, rfl, show Kind.integer ≠ .exec by decide⟩
  | float x => exact ⟨_, rfl, show Kind.float ≠ .exec by decide⟩
  | boolean b => exact ⟨_, rfl, show Kind.boolean ≠ .exec by decide⟩
  | name s =>
    simp only [meaning?]
    split
    · rename_i c hc
      exact ⟨_, rfl, hbound s c hc⟩
    · split
      · rename_i h hh
        obtain ⟨rfl, hgenuine⟩ := hnamed s h hh
        exact hgenuine.avoids hl
      · exact ⟨_, rfl, show Kind.name ≠ .exec by decide⟩
  | instruction h => exact hl.2.avoids hl.1
  | program p => cases hleaf

theorem IsGenuine.congr {h : Handle} (hgenuine : m.IsGenuine h)
    (hoperations : m'.operations = m.operations) : m'.IsGenuine h := by
  rwa [IsGenuine, hoperations]

theorem Avoids.congr {l : Atom} (hl : m.Avoids names l)
    (hoperations : m'.operations = m.operations) : m'.Avoids names l := by
  cases l with
  | instruction h => exact ⟨hl.1, hl.2.congr hoperations⟩
  | integer n | float x | boolean b | name s | program p => exact hl

theorem IsWellNamed.congr (hnamed : m.IsWellNamed) (hoperations : m'.operations = m.operations)
    (hinstructions : m'.instructions = m.instructions) : m'.IsWellNamed := by
  intro s h hh
  rw [hinstructions] at hh
  obtain ⟨hname, hgenuine⟩ := hnamed s h hh
  exact ⟨hname, hgenuine.congr hoperations⟩

end Machine

theorem Operation.run_registry [Host χ] {op : Operation χ} {P : List Part}
    (hP : op.parts? = some P) {m : Machine χ} (hm : m.OwnsPusher) :
    (op.run m).2 = .ok () ∧ (op.run m).1.operations = m.operations ∧
      (op.run m).1.instructions = m.instructions ∧ (op.run m).1.pusher = m.pusher := by
  cases op with
  | builtin b =>
    obtain ⟨hok, hsetup⟩ := Builtin.setup_run (b := b) fun _ _ => hm
    exact ⟨hok, Machine.operations_of_setup hsetup, Machine.instructions_of_setup hsetup,
      Machine.pusher_of_setup hsetup⟩
  | input index =>
    have hsetup := Machine.setup_pushInput hm index
    exact ⟨rfl, Machine.operations_of_setup hsetup, Machine.instructions_of_setup hsetup,
      Machine.pusher_of_setup hsetup⟩
  | constant c => exact ⟨rfl, rfl, rfl, rfl⟩
  | host x => cases hP

theorem Builtin.bindings_not_mem_parts {b : Builtin} (h : ∀ k, b ≠ .define k) :
    .bindings ∉ b.parts := by
  cases b with
  | define k => exact absurd rfl (h k)
  | code op => cases op <;> decide
  | exec op => cases op <;> decide
  | integer op | float op | boolean op | input op | nameQuote =>
    simp [parts, Part.arithmetic, Part.inputs]
  | stack k op | index k op | depth k | equal k | branch d | loop d op => simp [parts]

theorem Operation.exists_parts {op : Operation χ} (h : ∀ x, op ≠ .host x) :
    ∃ P, op.parts? = some P := by
  cases op with
  | builtin b | input index | constant c => exact ⟨_, rfl⟩
  | host x => exact absurd rfl (h x)

/-- Only defining instructions work on the bindings. -/
theorem Operation.bindings_not_mem_parts {op : Operation χ} {P : List Part}
    (hP : op.parts? = some P) (h : ∀ k, op ≠ .builtin (.define k)) : .bindings ∉ P := by
  cases op with
  | builtin b =>
    cases hP
    exact Builtin.bindings_not_mem_parts fun k hk => h k (congrArg _ hk)
  | input index =>
    cases hP
    decide
  | constant c =>
    cases hP
    simp
  | host x => cases hP

theorem Machine.bindings_take (m : Machine χ) (k : Kind) (peek : Bool) :
    (m.take k peek).2.bindings = m.bindings := by
  unfold take
  split
  · rfl
  · cases peek <;> rfl

theorem bindsOnly_bindTop {m : Machine χ} {kinds : Kind → Prop} (hbound : m.BindsOnly kinds)
    {k : Kind} (hk : kinds k) : (bindTop k m).1.BindsOnly kinds := by
  refine bindTop_induction (P := fun m => m.BindsOnly kinds) (fun m l h => ?_)
    (fun m name v h s c hc => ?_) hbound
  · rwa [Machine.BindsOnly, m.bindings_take l]
  · rw [Machine.bind, Std.ExtTreeMap.getElem?_insert] at hc
    split at hc
    · cases hc
      exact hk
    · exact h s c hc

theorem Operation.bindsOnly_run [Host χ] {op : Operation χ} {P : List Part}
    (hP : op.parts? = some P) {kinds : Kind → Prop}
    (hdefine : ∀ k, op = .builtin (.define k) → kinds k) {m : Machine χ} (hm : m.OwnsPusher)
    (hbound : m.BindsOnly kinds) : (op.run m).1.BindsOnly kinds := by
  by_cases hbinds : ∃ k, op = .builtin (.define k)
  · obtain ⟨k, rfl⟩ := hbinds
    exact bindsOnly_bindTop hbound (hdefine k rfl)
  · have hnot : .bindings ∉ P := bindings_not_mem_parts hP fun k hk => hbinds ⟨k, hk⟩
    rwa [Machine.BindsOnly, bindings_run hP hm hnot]

theorem Operation.Avoids.exists_parts {names : String → Prop} {op : Operation χ}
    (hop : op.Avoids names) : ∃ P, op.parts? = some P := by
  refine op.exists_parts fun x hx => ?_
  rw [hx] at hop
  exact hop

theorem Operation.Avoids.bindsNoExec [Host χ] {names : String → Prop} {op : Operation χ}
    (hop : op.Avoids names) (hdefine : names "exec.define") {m : Machine χ} (hm : m.OwnsPusher)
    (hbound : m.BindsNoExec) : (op.run m).1.BindsNoExec := by
  obtain ⟨P, hP⟩ := hop.exists_parts
  have hbound : m.BindsOnly (· ≠ .exec) := hbound
  refine bindsOnly_run hP ?_ hm hbound
  rintro k rfl hk
  refine hop ?_
  rwa [Builtin.name, hk]

namespace Machine

theorem getElem?_empty_ne_some {α : Type} (s : String) (a : α) :
    (∅ : NameMap α)[s]? ≠ some a := by
  rw [Std.ExtTreeMap.getElem?_empty]
  exact (Option.some_ne_none a).symm

theorem IsWellNamed.define {m : Machine χ} (hnamed : m.IsWellNamed) (b : Builtin) :
    (m.define b.name (.builtin b)).IsWellNamed := by
  intro s h hh
  rw [show (m.define b.name (.builtin b)).instructions[s]? =
    (m.instructions.insert b.name ⟨m.operations.size, b.name⟩)[s]? from rfl,
    Std.ExtTreeMap.getElem?_insert] at hh
  split at hh
  · rename_i hs
    cases hh
    exact ⟨Std.LawfulEqCmp.eq_of_compare hs, .inl ⟨b, Array.getElem?_push_size, rfl⟩⟩
  · obtain ⟨hname, hgenuine⟩ := hnamed s h hh
    refine ⟨hname, ?_⟩
    rcases hgenuine with ⟨c, hop, hc⟩ | ⟨index, hop⟩
    · exact .inl ⟨c, operations_define hop b.name (.builtin b), hc⟩
    · exact .inr ⟨index, operations_define hop b.name (.builtin b)⟩

theorem isWellNamed_new (config : Config) (fresh : Random.Source) :
    (new config fresh : Machine χ).IsWellNamed := by
  refine new_induction config fresh (fun s h hh => ?_) (fun m b h => h.define b) fun _ _ h => h
  exact absurd hh (getElem?_empty_ne_some s h)

theorem bindsOnly_new (config : Config) (fresh : Random.Source) (kinds : Kind → Prop) :
    (new config fresh : Machine χ).BindsOnly kinds := by
  refine new_induction (P := fun m => m.BindsOnly kinds) config fresh (fun s c hc => ?_)
    (fun _ _ h => h) fun _ _ h => h
  exact absurd hc (getElem?_empty_ne_some s c)

theorem bindsNoExec_new (config : Config) (fresh : Random.Source) :
    (new config fresh : Machine χ).BindsNoExec :=
  bindsOnly_new config fresh (· ≠ .exec)

end Machine

end PushLang
