import PushLang.Proofs.Machine.Run
import PushLang.Proofs.Program.Leaves

namespace PushLang

variable {χ : Type}

def Operation.IsStandard : Operation χ → Prop
  | .builtin _ => True
  | .input _ => True
  | .constant _ => False
  | .host _ => False

/-- All handles in the atom, at any depth, have the property. -/
def Atom.HoldsOnly (ok : Handle → Prop) (a : Atom) : Prop := ∀ g, .instruction g ∈ a.leaves → ok g

namespace Atom

variable {ok : Handle → Prop}

theorem holdsOnly_instruction {g : Handle} : (instruction g).HoldsOnly ok ↔ ok g := by
  simp [HoldsOnly, leaves]

theorem holdsOnly_program {p : Program} :
    (program p).HoldsOnly ok ↔ ∀ a ∈ p, a.HoldsOnly ok := by
  simp only [HoldsOnly, leaves_program, Program.mem_leaves]
  exact ⟨fun h a ha g hg => h g ⟨a, ha, hg⟩, fun h g ⟨a, ha, hg⟩ => h a ha g hg⟩

end Atom

theorem closed_holdsOnly (m : Machine χ) (ok : Handle → Prop) : Closed (Atom.HoldsOnly ok) m where
  integer _ := by simp [Atom.HoldsOnly, Atom.leaves]
  boolean _ := by simp [Atom.HoldsOnly, Atom.leaves]
  float _ _ := by simp [Atom.HoldsOnly, Atom.leaves]
  sampled _ := by simp [Atom.HoldsOnly, Atom.leaves]
  generated _ _ := by simp [Atom.HoldsOnly, Atom.leaves]
  helper _ _ := by simp [Atom.HoldsOnly, Atom.leaves]
  child _ hp := Atom.holdsOnly_program.mp hp
  built _ hp _ := Atom.holdsOnly_program.mpr hp

theorem Closed.and {Q R : Atom → Prop} {m : Machine χ} (hQ : Closed Q m) (hR : Closed R m) :
    Closed (fun a => Q a ∧ R a) m where
  integer n := ⟨hQ.integer n, hR.integer n⟩
  boolean b := ⟨hQ.boolean b, hR.boolean b⟩
  float x hx := ⟨hQ.float x hx, hR.float x hx⟩
  sampled s := ⟨hQ.sampled s, hR.sampled s⟩
  generated name h := ⟨hQ.generated name h, hR.generated name h⟩
  helper name h := ⟨hQ.helper name h, hR.helper name h⟩
  child p hp a ha := ⟨hQ.child p hp.1 a ha, hR.child p hp.2 a ha⟩
  built p hp hpoints :=
    ⟨hQ.built p (fun a ha => (hp a ha).1) hpoints, hR.built p (fun a ha => (hp a ha).2) hpoints⟩

namespace Machine

/-- Everything on the stacks and every bound value, as atoms. -/
def atoms (m : Machine χ) : List Atom :=
  Kind.all.flatMap (fun k => (m.stack k).down.map k.element.toAtom) ++
    m.bindings.toList.map fun entry => entry.2.kind.element.toAtom entry.2.value

theorem mem_atoms {m : Machine χ} {a : Atom} :
    a ∈ m.atoms ↔ (∃ k, ∃ v ∈ (m.stack k).down, k.element.toAtom v = a) ∨
      ∃ (name : String) (c : Constant), m.bindings[name]? = some c ∧
        c.kind.element.toAtom c.value = a := by
  have hall : ∀ k : Kind, k ∈ Kind.all := by
    intro k
    cases k <;> decide
  simp only [atoms, List.mem_append, List.mem_flatMap, List.mem_map, hall, true_and,
    Std.ExtTreeMap.mem_toList_iff_getElem?_eq_some, Prod.exists]

theorem mem_atoms_push {m : Machine χ} {k : Kind} {v : k.Item} {a : Atom} :
    a ∈ (m.push k v).atoms ↔ a = k.element.toAtom v ∨ a ∈ m.atoms := by
  simp only [mem_atoms, or_assoc.symm]
  refine or_congr ?_ Iff.rfl
  constructor
  · rintro ⟨l, w, hw, rfl⟩
    by_cases hl : l = k
    · subst hl
      rw [push, stack_setStack_self] at hw
      rcases List.mem_cons.mp hw with rfl | hw
      · exact .inl rfl
      · exact .inr ⟨l, w, hw, rfl⟩
    · rw [push, stack_setStack_of_ne m hl] at hw
      exact .inr ⟨l, w, hw, rfl⟩
  · rintro (rfl | ⟨l, w, hw, rfl⟩)
    · refine ⟨k, v, ?_, rfl⟩
      rw [push, stack_setStack_self]
      exact List.mem_cons_self
    · refine ⟨l, w, ?_, rfl⟩
      by_cases hl : l = k
      · subst hl
        rw [push, stack_setStack_self]
        exact List.mem_cons_of_mem _ hw
      · rwa [push, stack_setStack_of_ne m hl]

/-- The handles on the stacks and in bound values, inside of code as well. -/
def handles (m : Machine χ) : Set Handle := {g | .instruction g ∈ Program.leaves m.atoms}

theorem mem_handles {m : Machine χ} {g : Handle} :
    g ∈ m.handles ↔ ∃ a ∈ m.atoms, .instruction g ∈ a.leaves := Program.mem_leaves

/-- The handle is registered, is in the machine, or is inside of a constant that is referred to. -/
inductive Refers (m : Machine χ) : Handle → Prop where
  | registered {name : String} {g : Handle} (h : m.instructions[name]? = some g) : Refers m g
  | held {g : Handle} (h : g ∈ m.handles) : Refers m g
  | constant {g g' : Handle} {c : Constant} (h : Refers m g)
      (hop : m.operations[g.serial]? = some (.constant c))
      (hg' : .instruction g' ∈ (c.kind.element.toAtom c.value).leaves) : Refers m g'

/-- The operations that the machine refers to are of some sort, and its pusher is its own. Those
that were registered but that neither the registry nor a handle leads to any more do not count. -/
structure RefersOnly (P : Operation χ → Prop) (m : Machine χ) : Prop where
  operations : ∀ g, m.Refers g → m.Denotes P g
  pusher : m.OwnsPusher

/-- The machine refers to built-in and input instructions only. -/
def IsStandard (m : Machine χ) : Prop := m.RefersOnly Operation.IsStandard

theorem Denotes.mono {m : Machine χ} {P P' : Operation χ → Prop} {g : Handle} (h : m.Denotes P g)
    (hP : ∀ op, P op → P' op) : m.Denotes P' g := fun op hop => hP op (h op hop)

variable {m m' : Machine χ} {a : Atom}

theorem refersOnly_of_operations {P : Operation χ → Prop} (h : ∀ op ∈ m.operations, P op)
    (hpusher : m.OwnsPusher) : m.RefersOnly P :=
  ⟨fun _ _ op hop => h op (Array.mem_of_getElem? hop), hpusher⟩

theorem refersOnly_loadProgram {P : Operation χ → Prop} (h : ∀ op ∈ m.operations, P op)
    (hpusher : m.OwnsPusher) (p : Program) : (m.loadProgram p).RefersOnly P :=
  refersOnly_of_operations h hpusher

theorem refersOnly_restocked {P : Operation χ → Prop} (h : ∀ op ∈ m.operations, P op)
    (hpusher : m.OwnsPusher) (contents : Stacks) (p : Program) :
    (({ m with contents } : Machine χ).loadProgram p).RefersOnly P :=
  refersOnly_of_operations h hpusher

/-- All handles in the atom lead to built-in or input instructions. -/
def Knows (m : Machine χ) (a : Atom) : Prop := a.HoldsOnly (m.Denotes Operation.IsStandard)

/-- Without constants all that is referred to is registered or in the machine. -/
theorem isStandard_iff : m.IsStandard ↔
    (∀ (name : String) (g : Handle), m.instructions[name]? = some g →
      m.Denotes Operation.IsStandard g) ∧
    (∀ a ∈ m.atoms, m.Knows a) ∧ m.OwnsPusher := by
  constructor
  · exact fun h => ⟨fun name g hg => h.operations g (.registered hg),
      fun a ha g hg => h.operations g (.held (mem_handles.mpr ⟨a, ha, hg⟩)), h.pusher⟩
  · rintro ⟨hregistered, hatoms, hpusher⟩
    refine ⟨fun g hg => ?_, hpusher⟩
    induction hg with
    | registered h => exact hregistered _ _ h
    | held h =>
      obtain ⟨a, ha, hg⟩ := mem_handles.mp h
      exact hatoms a ha _ hg
    | constant _ hop _ ih => exact (ih _ hop).elim

/-- Where the stacks and bindings bring in nothing new, nothing new is referred to. -/
theorem Refers.of_cleared {g : Handle} (h : m'.Refers g)
    (hsetup : m'.clearStacks.setup = m.clearStacks.setup)
    (hatoms : ∀ a ∈ m'.atoms, a.HoldsOnly m.Refers) : m.Refers g := by
  have hinstructions : m'.clearStacks.instructions = m.clearStacks.instructions :=
    instructions_of_setup hsetup
  have hoperations : m'.clearStacks.operations = m.clearStacks.operations :=
    operations_of_setup hsetup
  induction h with
  | registered h => exact .registered (hinstructions ▸ h)
  | held h =>
    obtain ⟨a, ha, hg⟩ := mem_handles.mp h
    exact hatoms a ha _ hg
  | constant _ hop hg' ih => exact .constant ih (hoperations ▸ hop) hg'

theorem operations_new (config : Config) (fresh : Random.Source) :
    ∀ op ∈ (new config fresh : Machine χ).operations, op.IsStandard := by
  refine new_induction (P := fun m : Machine χ => ∀ op ∈ m.operations, op.IsStandard)
    config fresh ?_ (fun m b h op hop => ?_) fun _ _ h => h
  · exact fun op hop => absurd hop (Array.not_mem_empty op)
  · rcases Array.mem_push.mp hop with hop | rfl
    · exact h op hop
    · exact trivial

theorem ownsPusher_new (config : Config) (fresh : Random.Source) :
    (new config fresh : Machine χ).OwnsPusher := by
  refine new_induction (P := OwnsPusher) config fresh (fun x => ?_) (fun _ _ h => h) fun _ _ h => h
  rintro ⟨⟩

theorem isStandard_new (config : Config) (fresh : Random.Source) :
    (new config fresh : Machine χ).IsStandard :=
  refersOnly_of_operations (operations_new config fresh) (ownsPusher_new config fresh)

theorem isStandard_loaded_new (config : Config) (fresh : Random.Source) (p : Program) :
    ((new config fresh : Machine χ).loadProgram p).IsStandard :=
  refersOnly_loadProgram (operations_new config fresh) (ownsPusher_new config fresh) p

variable [Host χ]

theorem Ready.of_mem_atoms {Q : Atom → Prop} (h : m.Ready Q) (ha : a ∈ m.atoms) : Q a := by
  rcases mem_atoms.mp ha with ⟨k, v, hv, rfl⟩ | ⟨name, c, hc, rfl⟩
  · exact h.stacked k v hv
  · exact h.bound name c hc

/-- As a pusher the host's `x` leaves the setup alone, and refers to nothing new. -/
structure OnlyPushes (x : χ) : Prop where
  setup : ∀ (m : Machine χ) (index : Nat), (Host.input x index m).setup = m.setup
  refers : ∀ (m : Machine χ) (index : Nat) (g : Handle), (Host.input x index m).Refers g → m.Refers g

/-- The machine refers to no host instruction, and its pusher, if not its own, only pushes. -/
structure IsNative (m : Machine χ) : Prop where
  operations : ∀ g, m.Refers g → m.Denotes (fun op => ∀ x, op ≠ .host x) g
  pusher : ∀ x, m.pusher = .host x → OnlyPushes x

theorem IsStandard.isNative (h : m.IsStandard) : m.IsNative where
  operations g hg := by
    refine (h.operations g hg).mono fun op hop x => ?_
    rintro rfl
    exact hop
  pusher x hx := absurd hx (h.pusher x)

/-- What is closed is kept, together with where the handles lead. -/
theorem IsStandard.ready (h : m.IsStandard) {Q : Atom → Prop} (hclosed : Closed Q m)
    (hatoms : ∀ a ∈ m.atoms, Q a) :
    m.Ready fun a => Q a ∧ m.Knows a := by
  obtain ⟨hregistered, hheld, hpusher⟩ := isStandard_iff.mp h
  have hplain : ∀ g, m.Denotes Operation.IsStandard g →
      m.Denotes (Operation.Plain fun a => Q a ∧ m.Knows a) g := by
    refine fun g hg => hg.mono fun op hop => ?_
    cases op with
    | builtin b | input index => exact trivial
    | constant c | host x => exact hop.elim
  exact {
    closed := hclosed.and (closed_holdsOnly m _)
    pusher := hpusher.keeps (hclosed.and (closed_holdsOnly m _))
    registered := fun name g hg => hplain g (hregistered name g hg)
    handled := fun g hg => hplain g (Atom.holdsOnly_instruction.mp hg.2)
    stacked := fun k v hv =>
      have ha := mem_atoms.mpr (.inl ⟨k, v, hv, rfl⟩)
      ⟨hatoms _ ha, hheld _ ha⟩
    bound := fun name c hc =>
      have ha := mem_atoms.mpr (.inr ⟨name, c, hc, rfl⟩)
      ⟨hatoms _ ha, hheld _ ha⟩ }

theorem OnlyPushes.keeps {x : χ} (hx : OnlyPushes x) (hpusher : m.pusher = .host x) :
    m.PusherKeeps (Atom.HoldsOnly m.Refers) := by
  intro m' hsetup hm' index
  have hsame : m'.pusher = .host x := (pusher_of_setup hsetup).trans hpusher
  have hrefers : ∀ a ∈ (m'.pushInput index).atoms, a.HoldsOnly m.Refers := by
    intro a ha g hg
    rw [pushInput, hsame] at ha
    refine (hx.refers m' index g (.held (mem_handles.mpr ⟨a, ha, hg⟩))).of_cleared hsetup ?_
    intro b hb
    rcases mem_atoms.mp hb with ⟨k, v, hv, rfl⟩ | ⟨name, c, hc, rfl⟩
    · exact hm'.stacked k v hv
    · exact hm'.bound name c hc
  exact {
    setup := by
      rw [pushInput, hsame]
      exact hx.setup m' index
    stacked := fun k v hv => hrefers _ (mem_atoms.mpr (.inl ⟨k, v, hv, rfl⟩))
    bound := fun name c hc => hrefers _ (mem_atoms.mpr (.inr ⟨name, c, hc, rfl⟩))
    named := fun name _ => .inr (by simp [Atom.HoldsOnly, Atom.leaves]) }

theorem IsNative.ready (h : m.IsNative) : m.Ready (Atom.HoldsOnly m.Refers) := by
  have hplain : ∀ g, m.Refers g → m.Denotes (Operation.Plain (Atom.HoldsOnly m.Refers)) g := by
    intro g hg op hop
    cases op with
    | builtin b | input index => exact trivial
    | constant c => exact fun g' hg' => .constant hg hop hg'
    | host x => exact h.operations g hg _ hop x rfl
  have hpusher : m.PusherKeeps (Atom.HoldsOnly m.Refers) := by
    by_cases howns : m.OwnsPusher
    · exact howns.keeps (closed_holdsOnly m _)
    · obtain ⟨x, hx⟩ := not_forall_not.mp howns
      exact (h.pusher x hx).keeps hx
  exact {
    closed := closed_holdsOnly m _
    pusher := hpusher
    registered := fun name g hg => hplain g (.registered hg)
    handled := fun g hg => hplain g (Atom.holdsOnly_instruction.mp hg)
    stacked := fun k v hv g hg =>
      .held (mem_handles.mpr ⟨_, mem_atoms.mpr (.inl ⟨k, v, hv, rfl⟩), hg⟩)
    bound := fun name c hc g hg =>
      .held (mem_handles.mpr ⟨_, mem_atoms.mpr (.inr ⟨name, c, hc, rfl⟩), hg⟩) }

end Machine

end PushLang
