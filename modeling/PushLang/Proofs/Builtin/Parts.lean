import PushLang.Proofs.Machine.Frame

namespace PushLang

variable {χ : Type}

def Part.arithmetic : List Part := [.stack .integer, .stack .float, .stack .boolean, .source]

def Part.inputs : List Part :=
  [.stack .input, .stack .integer, .stack .float, .stack .boolean, .stack .name, .stack .code]

def CodeOp.parts : CodeOp → List Part
  | .quote => [.stack .exec, .stack .code]
  | .fromBoolean => [.stack .boolean, .stack .code]
  | .fromInteger => [.stack .integer, .stack .code]
  | .fromFloat => [.stack .float, .stack .code]
  | .noop => []
  | .rand => [.stack .integer, .stack .code, .source]

def ExecOp.parts : ExecOp → List Part
  | .noop => []
  | _ => [.stack .exec]

/-- The parts of a machine that an instruction may read or write. -/
def Builtin.parts : Builtin → List Part
  | .stack k _ => [.stack k]
  | .index k _ => [.stack .integer, .stack k]
  | .depth k => [.stack .integer, .stack k]
  | .equal k => [.stack .boolean, .stack k]
  | .define k => [.stack .name, .stack k, .bindings]
  | .integer _ => Part.arithmetic
  | .float _ => Part.arithmetic
  | .boolean _ => Part.arithmetic
  | .nameQuote => [.stack .exec, .stack .name]
  | .code op => op.parts
  | .exec op => op.parts
  | .branch d => [.stack .boolean, .stack d.kind, .stack .exec]
  | .loop d _ => [.stack .integer, .stack d.kind, .stack .exec]
  | .input _ => Part.inputs

namespace Frame

variable {u : Machine χ → Machine χ} {P : List Part} (hu : Frame P u)
include hu

theorem stackOp {k : Kind} (hk : .stack k ∈ P) (op : StackOp) :
    (op.run k : Effect χ).Commutes u := by
  apply commutes_always
  intro m
  rw [hu.stack k hk, hu.setStack k hk]

theorem indexOp (hinteger : .stack .integer ∈ P) {k : Kind} (hk : .stack k ∈ P) (op : IndexOp) :
    (op.run k : Effect χ).Commutes u := by
  refine hu.action (List.forall_mem_singleton.mpr hinteger) false fun operands m => ?_
  dsimp only
  rw [hu.stack k hk, hu.setStack k hk]

theorem pushDepth (hinteger : .stack .integer ∈ P) {k : Kind} (hk : .stack k ∈ P) :
    (pushDepth k : Effect χ).Commutes u := by
  refine hu.producing (List.forall_mem_nil _) hinteger false fun operands m => ?_
  rw [hu.stack k hk]

theorem compareItems (hboolean : .stack .boolean ∈ P) {k : Kind} (hk : .stack k ∈ P) :
    (compareItems k : Effect χ).Commutes u := hu.calculating (by simpa using hk) hboolean

theorem comparePair (hboolean : .stack .boolean ∈ P) {k : Kind} (hk : .stack k ∈ P) :
    (comparePair k : Effect χ).Commutes u := by
  apply commutes_always
  intro m
  rw [hu.stack k hk]
  split
  · rw [hu.setStack k hk, hu.push hboolean]
  · rfl

theorem compareTop (hboolean : .stack .boolean ∈ P) {k : Kind} (hk : .stack k ∈ P) :
    (compareTop k : Effect χ).Commutes u := by
  cases k with
  | code | exec => exact hu.comparePair hboolean hk
  | integer | float | boolean | name | input => exact hu.compareItems hboolean hk

theorem bindTop (hname : .stack .name ∈ P) (hbind : .bindings ∈ P) {k : Kind} (hk : .stack k ∈ P) :
    (bindTop k : Effect χ).Commutes u := by
  apply commutes_always
  intro m
  rw [hu.take hname]
  rcases m.take .name false with ⟨_ | name, m₁⟩
  · rfl
  · dsimp only
    rw [hu.take hk]
    rcases m₁.take k false with ⟨_ | v, m₂⟩
    · rfl
    · exact hu.bind hbind m₂ name _

end Frame

section

variable {u : Machine χ → Machine χ} (hu : Frame Part.arithmetic u)
include hu

theorem IntegerOp.commutes (op : IntegerOp) : (op.run : Effect χ).Commutes u := by
  cases op with
  | add | sub | mul | div | mod | min | max | abs | neg | less | greater | fromFloat
  | fromBoolean => exact hu.calculating (by decide) (by decide)
  | rand =>
    rw [IntegerOp.run]
    refine hu.producing (List.forall_mem_nil _) (by decide) false fun operands m => ?_
    rw [hu.config, hu.withSource (by decide)]

theorem FloatOp.commutes (op : FloatOp) : (op.run : Effect χ).Commutes u := by
  cases op with
  | add | sub | mul | div | mod | min | max | abs | neg | sin | cos | tan | exp | ln | less
  | greater | fromInteger | fromBoolean => exact hu.calculating (by decide) (by decide)
  | rand =>
    rw [FloatOp.run]
    refine hu.producing (List.forall_mem_nil _) (by decide) false fun operands m => ?_
    rw [hu.config, hu.withSource (by decide)]

theorem BooleanOp.commutes (op : BooleanOp) : (op.run : Effect χ).Commutes u := by
  cases op with
  | literal b => exact commutes_always fun m => hu.push (k := .boolean) (by decide) m b
  | not | and | or | xor | fromInteger | fromFloat => exact hu.calculating (by decide) (by decide)
  | rand =>
    rw [BooleanOp.run]
    refine hu.producing (List.forall_mem_nil _) (by decide) false fun operands m => ?_
    rw [hu.withSource (by decide)]

end

namespace Frame

variable {u : Machine χ → Machine χ} {P : List Part} (hu : Frame P u)
include hu

theorem admits (m : Machine χ) (p : Program) : (u m).admits p = m.admits p := by
  rw [Machine.admits, hu.config, Machine.admits]

theorem body {d : Domain} (hd : .stack d.kind ∈ P) (m : Machine χ) : (u m).body d = m.body d := by
  cases d with
  | code => exact hu.stack .code hd m
  | exec => exact hu.stack .exec hd m

theorem setBody {d : Domain} (hd : .stack d.kind ∈ P) (m : Machine χ) (s : Stack Atom) :
    (u m).setBody s d = u (m.setBody s d) := by
  cases d with
  | code => exact hu.setStack .code hd m s
  | exec => exact hu.setStack .exec hd m s

section

variable (hexec : .stack .exec ∈ P)
include hexec

theorem quoteName (hname : .stack .name ∈ P) (m : Machine χ) :
    quoteName (u m) = u (quoteName m) := by
  unfold PushLang.quoteName
  rw [hu.stack .exec hexec]
  split
  · rw [hu.drop hexec, hu.push hname]
  · rfl

theorem quoteCode (hcode : .stack .code ∈ P) (m : Machine χ) :
    quoteCode (u m) = u (quoteCode m) := by
  unfold PushLang.quoteCode
  rw [hu.stack .exec hexec]
  split
  · rw [hu.drop hexec, hu.push hcode]
  · rfl

theorem chooseBranch (hboolean : .stack .boolean ∈ P) {d : Domain} (hd : .stack d.kind ∈ P)
    (m : Machine χ) : chooseBranch d (u m) = u (chooseBranch d m) := by
  unfold PushLang.chooseBranch
  rw [hu.stack .boolean hboolean, hu.body hd]
  split
  · rw [hu.drop hboolean, hu.setBody hd, hu.push hexec]
  · rfl

theorem execK (m : Machine χ) : execK (u m) = u (execK m) := by
  unfold PushLang.execK
  rw [hu.stack .exec hexec]
  split
  · exact hu.setStack .exec hexec m _
  · rfl

theorem execS (m : Machine χ) : execS (u m) = u (execS m) := by
  unfold PushLang.execS
  rw [hu.stack .exec hexec]
  split
  · rw [hu.admits]
    split
    · exact hu.setStack .exec hexec m _
    · rfl
  · rfl

theorem execY (m : Machine χ) : execY (u m) = u (execY m) := by
  unfold PushLang.execY
  rw [hu.stack .exec hexec]
  split
  · dsimp only
    rw [hu.admits]
    split
    · exact hu.setStack .exec hexec m _
    · rfl
  · rfl

theorem doRange (hinteger : .stack .integer ∈ P) {d : Domain} (hd : .stack d.kind ∈ P)
    (m : Machine χ) : doRange d (u m) = u (doRange d m) := by
  unfold PushLang.doRange
  rw [hu.stack .integer hinteger, hu.body hd]
  split
  · dsimp only
    rw [hu.drop hinteger, hu.setBody hd, hu.admits]
    split
    · exact hu.push hexec _ _
    · generalize rangeProgram d _ _ _ = again
      split
      · rw [hu.push hexec, hu.push hexec]
      · rfl
  · rfl

theorem doCounted (hinteger : .stack .integer ∈ P) {d : Domain} (hd : .stack d.kind ∈ P)
    (wrap : Atom → Atom) (m : Machine χ) : doCounted d wrap (u m) = u (doCounted d wrap m) := by
  unfold PushLang.doCounted
  rw [hu.stack .integer hinteger, hu.body hd]
  split
  · dsimp only
    rw [hu.admits]
    split
    · rw [hu.drop hinteger, hu.setBody hd, hu.push hexec]
    · rfl
  · rfl

theorem loopOp (hinteger : .stack .integer ∈ P) {d : Domain} (hd : .stack d.kind ∈ P)
    (op : LoopOp) (m : Machine χ) : op.apply d (u m) = u (op.apply d m) := by
  cases op with
  | range => exact hu.doRange hexec hinteger hd m
  | count | times => exact hu.doCounted hexec hinteger hd _ m

end

theorem pushRandomCode (hinteger : .stack .integer ∈ P) (hcode : .stack .code ∈ P)
    (hsource : .source ∈ P) (m : Machine χ) :
    pushRandomCode (u m) = (u (pushRandomCode m).1, (pushRandomCode m).2) := by
  unfold PushLang.pushRandomCode
  rw [hu.activeGenerators, hu.take hinteger]
  rcases m.activeGenerators with _ | ⟨g, generators⟩
  · rfl
  · rcases m.take .integer false with ⟨_ | requested, m₁⟩
    · rfl
    · dsimp only
      rw [hu.config]
      generalize min requested.toInt.natAbs m₁.config.maxRandomSize = limit
      -- The size is drawn first, if there is a choice, and then the code.
      have hsize : ∀ f : Random.Source → Nat × Random.Source,
          (if 0 < limit then (u m₁).withSource f else (2, u m₁)) =
            ((if 0 < limit then m₁.withSource f else (2, m₁)).1,
              u (if 0 < limit then m₁.withSource f else (2, m₁)).2) := by
        intro f
        split
        · exact hu.withSource hsource Nat m₁ f
        · rfl
      rw [hsize]
      rcases (if 0 < limit then m₁.withSource fun s => ((s.draw limit).1 + 2, (s.draw limit).2)
        else (2, m₁)) with ⟨size, m₂⟩
      dsimp only
      rw [Machine.randomCode, hu.activeGenerators, hu.config, hu.withSource hsource,
        ← Machine.randomCode]
      rcases m₂.randomCode size with ⟨e | p, m₃⟩
      · rfl
      · exact congrArg (·, _) (hu.push hcode m₃ _)

end Frame

section

variable {u : Machine χ → Machine χ}

theorem CodeOp.commutes {op : CodeOp} (hu : Frame op.parts u) : (op.run : Effect χ).Commutes u := by
  cases op with
  | quote => exact commutes_always (hu.quoteCode (by decide) (by decide))
  | fromBoolean | fromInteger | fromFloat => exact hu.calculating (by decide) (by decide)
  | noop => exact commutes_always fun _ => rfl
  | rand =>
    exact hu.action (List.forall_mem_nil _) false fun _ =>
      hu.pushRandomCode (by decide) (by decide) (by decide)

theorem ExecOp.commutes {op : ExecOp} (hu : Frame op.parts u) (m : Machine χ) :
    op.apply (u m) = u (op.apply m) := by
  cases op with
  | k => exact hu.execK (by decide) m
  | s => exact hu.execS (by decide) m
  | y => exact hu.execY (by decide) m
  | noop => rfl

end

section

variable {u : Machine χ → Machine χ} (hu : Frame Part.inputs u)
include hu

theorem Frame.route (m : Machine χ) (a : Atom) : (u m).route a = u (m.route a) := by
  cases a with
  | integer n => exact hu.push (k := .integer) (by decide) m n
  | float x => exact hu.push (k := .float) (by decide) m x
  | boolean b => exact hu.push (k := .boolean) (by decide) m b
  | name s => exact hu.push (k := .name) (by decide) m s
  | instruction handle => exact hu.push (k := .code) (by decide) m (.instruction handle)
  | program p => exact hu.push (k := .code) (by decide) m (.program p)

theorem Frame.deliver (m : Machine χ) (a : Atom) : (u m).deliver a = u (m.deliver a) := by
  unfold Machine.deliver
  rw [hu.pusher]
  split
  · exact hu.route m _
  · exact hu.push (by decide) m _
  · exact hu.push (k := .code) (by decide) m _
  · rfl

theorem Frame.copyInput (index : Nat) (m : Machine χ) :
    (u m).copyInput index = u (m.copyInput index) := by
  unfold Machine.copyInput
  rw [hu.stack .input (by decide)]
  split
  · exact hu.deliver m _
  · rfl

theorem Frame.ownsPusher {m : Machine χ} (hm : m.OwnsPusher) : (u m).OwnsPusher := by
  rwa [Machine.OwnsPusher, hu.pusher]

variable [Host χ] {m : Machine χ} (hm : m.OwnsPusher)
include hm

theorem Frame.pushInput (index : Nat) : (u m).pushInput index = u (m.pushInput index) := by
  rw [Machine.pushInput_eq (hu.ownsPusher hm), Machine.pushInput_eq hm, hu.copyInput]

theorem Frame.inputsAt (indices : List Nat) : inputsAt indices (u m) = u (inputsAt indices m) := by
  rw [inputsAt_eq (hu.ownsPusher hm), inputsAt_eq hm]
  clear hm
  induction indices generalizing m with
  | nil => rfl
  | cons i rest ih =>
    rw [List.foldl_cons, List.foldl_cons, hu.copyInput]
    exact ih

theorem InputOp.commutes (op : InputOp) : op.apply (u m) = u (op.apply m) := by
  cases op with
  | index =>
    simp only [apply, inputAtIndex]
    rw [hu.stack .input (by decide), hu.take (k := .integer) (by decide)]
    split
    · rfl
    · have htaken : (m.take .integer false).2.OwnsPusher := by
        rwa [Machine.OwnsPusher, m.pusher_take]
      rcases hresult : m.take .integer false with ⟨_ | n, m₁⟩
      · rfl
      · rw [hresult] at htaken
        dsimp only
        rw [hu.stack .input (by decide)]
        exact hu.pushInput htaken _
  | inAll | inAllRev =>
    simp only [apply, hu.stack .input (by decide)]
    exact hu.inputsAt hm _

end

variable [Host χ]

theorem Builtin.commutes {b : Builtin} {u : Machine χ → Machine χ} (hu : Frame b.parts u)
    {m : Machine χ} (hb : b.AsksNoHost m) : b.run (u m) = (u (b.run m).1, (b.run m).2) := by
  cases b with
  | stack k op => exact hu.stackOp List.mem_cons_self op m
  | index k op => exact hu.indexOp List.mem_cons_self (by simp [parts]) op m
  | depth k => exact hu.pushDepth List.mem_cons_self (by simp [parts]) m
  | equal k => exact hu.compareTop List.mem_cons_self (by simp [parts]) m
  | define k => exact hu.bindTop List.mem_cons_self (by simp [parts]) (by simp [parts]) m
  | integer op => exact IntegerOp.commutes hu op m
  | float op => exact FloatOp.commutes hu op m
  | boolean op => exact BooleanOp.commutes hu op m
  | nameQuote => exact commutes_always (hu.quoteName (by decide) (by decide)) m
  | code op => exact CodeOp.commutes hu m
  | exec op => exact commutes_always (ExecOp.commutes hu) m
  | branch d =>
    exact commutes_always
      (hu.chooseBranch (by simp [parts]) (by simp [parts]) (by simp [parts])) m
  | loop d op =>
    exact commutes_always
      (hu.loopOp (by simp [parts]) (by simp [parts]) (by simp [parts]) op) m
  | input op => exact always_eq_of_commutes (InputOp.commutes hu (hb op rfl) op)

/-- The parts that an operation may read or write; nothing is known of host instructions. -/
def Operation.parts? : Operation χ → Option (List Part)
  | .builtin b => some b.parts
  | .input _ => some Part.inputs
  | .constant c => some [.stack c.kind]
  | .host _ => none

namespace Operation

variable {op : Operation χ} {P : List Part} (hP : op.parts? = some P) {m : Machine χ}
  (hm : m.OwnsPusher)
include hP hm

theorem commutes {u : Machine χ → Machine χ} (hu : Frame P u) :
    op.run (u m) = (u (op.run m).1, (op.run m).2) := by
  cases op with
  | builtin b => cases hP; exact Builtin.commutes hu fun _ _ => hm
  | input index =>
    cases hP
    exact always_eq_of_commutes (f := fun m => m.pushInput index) (hu.pushInput hm index)
  | constant c =>
    cases hP
    exact always_eq_of_commutes (f := fun m => m.push c.kind c.value)
      (hu.push List.mem_cons_self m c.value)
  | host x => cases hP

theorem stack_run {k : Kind} (hk : .stack k ∉ P) : (op.run m).1.stack k = m.stack k := by
  have hself : m.setStack k (m.stack k) = m := by
    rw [Machine.setStack, Machine.stack, Stacks.set_get_self]
  have hrun := fixed_of_commutes (commutes hP hm (frame_setStack hk (m.stack k))) hself
  rw [← hrun]
  exact Stacks.get_set_self _ _ _

theorem bindings_run (hbindings : .bindings ∉ P) : (op.run m).1.bindings = m.bindings := by
  have hrun := fixed_of_commutes (commutes hP hm (frame_bindings hbindings m.bindings)) rfl
  exact (congrArg Machine.bindings hrun).symm

theorem evaluations_run : (op.run m).1.evaluations = m.evaluations := by
  have hrun := fixed_of_commutes (commutes hP hm (frame_evaluations m.evaluations)) rfl
  exact (congrArg Machine.evaluations hrun).symm

end Operation

end PushLang
