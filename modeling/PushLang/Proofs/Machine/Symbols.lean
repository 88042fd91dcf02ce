import Mathlib.Data.Set.Basic
import PushLang.Proofs.Machine.Standard
import PushLang.Proofs.Program.Leaves

namespace PushLang

variable {χ : Type}

/-- The names that instructions put into the code they build. -/
def helperNames : List String :=
  ["exec.y", "integer.pop", "code.quote", "code.do*range", "exec.do*range"]

/-- The atom has names and handles from these sets only, at any depth. -/
structure Atom.From (names : Set String) (handles : Set Handle) (a : Atom) : Prop where
  names : ∀ s, .name s ∈ a.leaves → s ∈ names
  handles : ∀ g, .instruction g ∈ a.leaves → g ∈ handles

section

variable {names : Set String} {handles : Set Handle}

theorem Atom.from_of_leaves_eq_self {a : Atom} (ha : a.leaves = [a])
    (hname : ∀ s, a = .name s → s ∈ names) (hhandle : ∀ g, a = .instruction g → g ∈ handles) :
    a.From names handles where
  names s hs := hname s (List.mem_singleton.mp (ha ▸ hs)).symm
  handles g hg := hhandle g (List.mem_singleton.mp (ha ▸ hg)).symm

theorem Atom.from_name {s : String} : (Atom.name s).From names handles ↔ s ∈ names := by
  refine ⟨fun h => h.names s (by simp [leaves]), fun h => ?_⟩
  refine from_of_leaves_eq_self rfl ?_ (by simp)
  rintro t ⟨⟩
  exact h

theorem Atom.from_program {p : Program} :
    (Atom.program p).From names handles ↔ ∀ a ∈ p, a.From names handles := by
  refine ⟨fun h a ha => ⟨fun s hs => ?_, fun g hg => ?_⟩, fun h => ⟨fun s hs => ?_, fun g hg => ?_⟩⟩
  · exact h.names s (mem_leaves_program.mpr ⟨a, ha, hs⟩)
  · exact h.handles g (mem_leaves_program.mpr ⟨a, ha, hg⟩)
  · obtain ⟨a, ha, hs⟩ := mem_leaves_program.mp hs
    exact (h a ha).names s hs
  · obtain ⟨a, ha, hg⟩ := mem_leaves_program.mp hg
    exact (h a ha).handles g hg

end

namespace Machine

/-- The names on the name stack and inside code and inputs and bound values, at any depth. -/
def names (m : Machine χ) : Set String := {s | .name s ∈ Program.leaves m.atoms}

/-- The names in the machine, those of active instructions, and the helpers. -/
def symbols (m : Machine χ) : Set String :=
  {s | s ∈ m.names ∨ .instruction s ∈ m.activeGenerators ∨ s ∈ helperNames}

/-- No name that may come up and no handle in the machine is that of a defining instruction. -/
structure LacksDefine (m : Machine χ) : Prop where
  names : ∀ k : Kind.Bindable, (Builtin.define k).name ∉ m.symbols
  handles : ∀ g ∈ m.handles, ∀ k, m.operations[g.serial]? ≠ some (.builtin (.define k))

theorem from_of_mem_atoms {m : Machine χ} {a : Atom} (ha : a ∈ m.atoms) :
    a.From m.symbols m.handles where
  names _ hs := .inl (Program.mem_leaves.mpr ⟨a, ha, hs⟩)
  handles _ hg := Program.mem_leaves.mpr ⟨a, ha, hg⟩

theorem closed_from (m : Machine χ) (handles : Set Handle) :
    Closed (Atom.From m.symbols handles) m where
  integer _ := Atom.from_of_leaves_eq_self rfl (by simp) (by simp)
  boolean _ := Atom.from_of_leaves_eq_self rfl (by simp) (by simp)
  float _ _ := Atom.from_of_leaves_eq_self rfl (by simp) (by simp)
  sampled _ := Atom.from_of_leaves_eq_self rfl (by simp) (by simp)
  generated _ hs := Atom.from_name.mpr (.inr (.inl hs))
  helper _ hs := Atom.from_name.mpr (.inr (.inr hs))
  child _ hp := Atom.from_program.mp hp
  built _ hp _ := Atom.from_program.mpr hp

variable [Host χ]

/-- The machine `m` has the registry of `m₀`, and what is in it has names and handles from `m₀`. -/
structure ConfinedTo (m₀ m : Machine χ) : Prop where
  standard : m.IsStandard
  ready : m.Ready fun a => a.From m₀.symbols m₀.handles ∧ m₀.Knows a
  operations : m.operations = m₀.operations
  instructions : m.instructions = m₀.instructions
  bound : ∀ s, m.isBound s → m₀.isBound s ∨ s ∈ m₀.symbols

namespace ConfinedTo

variable {m₀ m m' : Machine χ} {a : Atom}

theorem refl (h : m.IsStandard) : m.ConfinedTo m :=
  ⟨h, h.ready (closed_from m m.handles) fun _ ha => from_of_mem_atoms ha, rfl, rfl, fun _ => .inl⟩

theorem names_subset (h : m₀.ConfinedTo m) : m.names ⊆ m₀.symbols := by
  intro s hs
  obtain ⟨a, ha, hs⟩ := Program.mem_leaves.mp hs
  exact (h.ready.of_mem_atoms ha).1.names s hs

theorem handles_subset (h : m₀.ConfinedTo m) : m.handles ⊆ m₀.handles := by
  intro g hg
  obtain ⟨a, ha, hg⟩ := Program.mem_leaves.mp hg
  exact (h.ready.of_mem_atoms ha).1.handles g hg

theorem next (h : m₀.ConfinedTo m) (hnext : m.next? = some (a, m')) :
    (a.From m₀.symbols m₀.handles ∧ m₀.Knows a) ∧ m₀.ConfinedTo m' := by
  obtain ⟨ha, hready⟩ := h.ready.next hnext
  refine ⟨ha, (h.standard.next hnext).2, hready, ?_, ?_, ?_⟩
  · rw [operations_of_setup (setup_next? hnext), h.operations]
  · rw [instructions_of_setup (setup_next? hnext), h.instructions]
  · rw [show m'.isBound = m.isBound by unfold isBound; rw [bindings_next? hnext]]
    exact h.bound

/-- What an atom from the start means is no defining instruction, if there was none. -/
theorem meaning?_ne_define (h : m₀.ConfinedTo m) (ha : a.From m₀.symbols m₀.handles)
    (hnamed : m₀.IsWellNamed) (hlacks : m₀.LacksDefine) (k : Kind.Bindable) :
    m.meaning? a ≠ some (.builtin (.define k)) := by
  cases a with
  | integer n | float x | boolean b | program p => simp [meaning?]
  | instruction g =>
    rw [meaning?, h.operations]
    exact hlacks.handles g (ha.handles g (by simp [Atom.leaves])) k
  | name s =>
    simp only [meaning?, h.operations, h.instructions]
    split
    · simp
    · split
      · rename_i g hg
        obtain ⟨rfl, hgenuine⟩ := hnamed s g hg
        intro hop
        -- The instruction has the name it is registered under, which is not that of this one.
        rcases hgenuine with ⟨b, hb, hname⟩ | ⟨index, hindex⟩
        · rw [hop] at hb
          cases hb
          exact hlacks.names k (hname ▸ Atom.from_name.mp ha)
        · rw [hop] at hindex
          cases hindex
      · simp

theorem dispatch (h : m₀.ConfinedTo m) (ha : a.From m₀.symbols m₀.handles ∧ m₀.Knows a) :
    (dispatch a m).2 = .ok () ∧ m.Carries a (dispatch a m).1 ∧
      m₀.ConfinedTo (dispatch a m).1 := by
  have hknown : m.Knows a := ha.2.congr h.operations
  obtain ⟨hok, hcarries⟩ := h.standard.carries hknown
  refine ⟨hok, hcarries, (h.standard.dispatch hknown).2, (h.ready.dispatch ha).2, ?_, ?_,
    fun s hs => ?_⟩
  · rw [hcarries.operations h.standard hknown, h.operations]
  · rw [hcarries.instructions h.standard hknown, h.instructions]
  · rcases hcarries.isBound h.ready ha hs with hs | hs
    · exact h.bound s hs
    · exact .inr (Atom.from_name.mp hs.1)

theorem step (h : m₀.ConfinedTo m) (n : Nat) : m₀.ConfinedTo (m.step n).1 := by
  obtain ⟨k, -, -, hend⟩ := step_induction (P := fun _ m => m₀.ConfinedTo m)
    (fun _ _ a _ h hnext => by
      obtain ⟨ha, h⟩ := h.next hnext
      obtain ⟨hok, -, h⟩ := h.dispatch ha
      exact ⟨hok, h⟩) h n
  exact hend

theorem bindings_step (hnamed : m₀.IsWellNamed) (hlacks : m₀.LacksDefine)
    (h : m₀.ConfinedTo m) (n : Nat) : (m.step n).1.bindings = m.bindings := by
  obtain ⟨k, -, -, -, hend⟩ := step_induction
    (P := fun _ m' => m₀.ConfinedTo m' ∧ m'.bindings = m.bindings)
    (fun _ _ a m₁ ⟨h, hbindings⟩ hnext => by
      obtain ⟨ha, h⟩ := h.next hnext
      obtain ⟨hok, hcarries, hleft⟩ := h.dispatch ha
      have hkept := hcarries.bindings h.standard.pusher
        (h.meaning?_ne_define ha.1 hnamed hlacks)
      exact ⟨hok, hleft, (hkept.trans (bindings_next? hnext)).trans hbindings⟩) ⟨h, rfl⟩ n
  exact hend

end ConfinedTo

/-- All names that a run brings up are symbols of the machine it starts with, and so are the names
it binds; all handles were there. If none of these is a defining instruction, the run binds
nothing. The programs that are loaded count as pending code. -/
theorem symbols_come_from_start (m : Machine χ) (h : m.IsStandard) (n : Nat) :
    (m.step n).1.names ⊆ m.symbols ∧ (m.step n).1.handles ⊆ m.handles ∧
      (∀ s, (m.step n).1.isBound s → m.isBound s ∨ s ∈ m.symbols) ∧
      (m.IsWellNamed → m.LacksDefine → (m.step n).1.bindings = m.bindings) := by
  have hstart : m.ConfinedTo m := .refl h
  have hend := hstart.step n
  exact ⟨hend.names_subset, hend.handles_subset, hend.bound, fun hnamed hlacks =>
    hstart.bindings_step hnamed hlacks n⟩

/-- A machine that knows one instruction only and has its handle in the pending code. -/
theorem symbols_come_from_start_single :
    let m : Machine Scripted :=
      ({ contents := { exec := ⟨[.instruction ⟨0, "exec.y"⟩, .program [.name "x"]]⟩ }
         source := .script []
         config := {} } : Machine Scripted).define (Builtin.exec .y).name (.builtin (.exec .y))
    m.IsStandard ∧ m.IsWellNamed ∧ m.LacksDefine ∧
      (m.step 20).1.names ⊆ m.symbols ∧ (m.step 20).1.bindings = m.bindings := by
  intro m
  have hstd : m.IsStandard := by
    refine refersOnly_of_operations (fun op hop => ?_) fun x => by rintro ⟨⟩
    have hop : op ∈ #[Operation.builtin (.exec .y)] := hop
    obtain rfl : op = .builtin (.exec .y) := by simpa using hop
    trivial
  have hnamed : m.IsWellNamed := by
    refine IsWellNamed.define (fun s g hg => ?_) (.exec .y)
    exact absurd hg (getElem?_empty_ne_some s g)
  have hatoms : m.atoms = [.instruction ⟨0, "exec.y"⟩, .program [.name "x"]] := rfl
  have hactive : m.activeGenerators = [] := rfl
  have hlacks : m.LacksDefine := by
    refine ⟨fun ⟨k, hk⟩ => ?_, fun g hg k => ?_⟩
    · simp only [symbols, names, hatoms, hactive]
      cases k with
      | input => exact absurd rfl hk.1
      | name => exact absurd rfl hk.2
      | integer | float | boolean | code | exec =>
        simp [Program.leaves, Atom.leaves, Builtin.name, Kind.named, Kind.label, helperNames]
    · have hg : g = ⟨0, "exec.y"⟩ := by
        simpa [handles, hatoms, Program.leaves, Atom.leaves] using hg
      subst hg
      rintro ⟨⟩
  obtain ⟨hnames, -, -, hbindings⟩ := symbols_come_from_start m hstd 20
  exact ⟨hstd, hnamed, hlacks, hnames, hbindings hnamed hlacks⟩

end Machine

end PushLang
