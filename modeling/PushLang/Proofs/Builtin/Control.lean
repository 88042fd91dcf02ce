import PushLang.Proofs.Builtin.Keeping

namespace PushLang

variable {χ : Type} {Q : Atom → Prop} {m₀ : Machine χ}

namespace Machine.Kept

variable {m : Machine χ}

theorem body (h : m.Kept Q m₀) (d : Domain) : ∀ a ∈ (m.body d).down, Q a := by
  cases d
  · exact h.stacked .code
  · exact h.stacked .exec

theorem setBody (h : m.Kept Q m₀) {s : Stack Atom} (hs : ∀ a ∈ s.down, Q a) (d : Domain) :
    (m.setBody s d).Kept Q m₀ := by
  cases d
  · exact h.setStack (k := .code) (by decide) hs
  · exact h.setStack (k := .exec) (by decide) hs

theorem admitted (hQ : Closed Q m₀) (h : m.Kept Q m₀) {p : Program} (hp : ∀ a ∈ p, Q a)
    (hadmits : m.admits p = true) : Q (.program p) := by
  apply hQ.built p hp
  rw [← config_of_setup h.setup]
  have hle : Program.points p ≤ m.config.maxPoints := of_decide_eq_true hadmits
  omega

end Machine.Kept

theorem Machine.Kept.quoteName {m : Machine χ} (h : m.Kept Q m₀) : (quoteName m).Kept Q m₀ := by
  unfold PushLang.quoteName
  split
  · rename_i s rest hdown
    apply (h.drop (by decide)).push (by decide)
    have hname := h.stacked .exec (.name s)
    rw [hdown] at hname
    exact hname List.mem_cons_self
  · exact h

theorem Machine.Kept.quoteCode {m : Machine χ} (h : m.Kept Q m₀) : (quoteCode m).Kept Q m₀ := by
  unfold PushLang.quoteCode
  split
  · rename_i a rest hdown
    apply (h.drop (by decide)).push (by decide)
    have hatom := h.stacked .exec a
    rw [hdown] at hatom
    exact hatom List.mem_cons_self
  · exact h

theorem Machine.Kept.chooseBranch {m : Machine χ} (h : m.Kept Q m₀) (d : Domain) :
    (chooseBranch d m).Kept Q m₀ := by
  unfold PushLang.chooseBranch
  split
  · rename_i condition _ first second rest _ hbody
    have hall := h.body d
    rw [hbody] at hall
    refine ((h.drop (by decide)).setBody ?_ d).push (by decide) ?_
    · intro a ha
      exact hall a (List.mem_cons_of_mem _ (List.mem_cons_of_mem _ ha))
    · cases condition
      · exact hall second (List.mem_cons_of_mem _ List.mem_cons_self)
      · exact hall first List.mem_cons_self
  · exact h

theorem Machine.Kept.execK {m : Machine χ} (h : m.Kept Q m₀) : (execK m).Kept Q m₀ := by
  unfold PushLang.execK
  split
  · rename_i a b rest hdown
    apply h.setStack (by decide)
    intro c hc
    apply h.stacked .exec c
    rw [hdown]
    simp only [List.mem_cons] at hc ⊢
    tauto
  · exact h

theorem Machine.Kept.execS (hQ : Closed Q m₀) {m : Machine χ} (h : m.Kept Q m₀) :
    (execS m).Kept Q m₀ := by
  unfold PushLang.execS
  split
  · rename_i a b c rest hdown
    have hall := h.stacked .exec
    rw [hdown] at hall
    split
    · rename_i hadmits
      have hpair : ∀ x ∈ [b, c], Q x := by
        intro x hx
        apply hall x
        simp only [List.mem_cons, List.not_mem_nil, or_false] at hx ⊢
        tauto
      have hprogram := h.admitted hQ hpair hadmits
      apply h.setStack (by decide)
      intro x hx
      simp only [List.mem_cons] at hx
      rcases hx with rfl | rfl | rfl | hx
      · exact hall x (by simp)
      · exact hall x (by simp)
      · exact hprogram
      · exact hall x (by simp [hx])
    · exact h
  · exact h

theorem Machine.Kept.execY (hQ : Closed Q m₀) {m : Machine χ} (h : m.Kept Q m₀) :
    (execY m).Kept Q m₀ := by
  unfold PushLang.execY
  split
  · rename_i a rest hdown
    have hall := h.stacked .exec
    rw [hdown] at hall
    dsimp only
    split
    · rename_i hadmits
      have hagain : ∀ x ∈ [.name "exec.y", a], Q x := by
        intro x hx
        simp only [List.mem_cons, List.not_mem_nil, or_false] at hx
        rcases hx with rfl | rfl
        · exact hQ.helper _ (by decide)
        · exact hall x List.mem_cons_self
      have hprogram := h.admitted hQ hagain hadmits
      apply h.setStack (by decide)
      intro x hx
      simp only [List.mem_cons] at hx
      rcases hx with rfl | rfl | hx
      · exact hall x List.mem_cons_self
      · exact hprogram
      · exact hall x (List.mem_cons_of_mem _ hx)
    · exact h
  · exact h

theorem Closed.rangeProgram (hQ : Closed Q m₀) (d : Domain) (start stop : Int64) {code : Atom}
    (hcode : Q code) : ∀ a ∈ rangeProgram d start stop code, Q a := by
  intro a ha
  cases d with
  | code =>
    simp only [PushLang.rangeProgram, List.mem_cons, List.not_mem_nil, or_false] at ha
    rcases ha with rfl | rfl | rfl | rfl | rfl
    · exact hQ.integer start
    · exact hQ.integer stop
    · exact hQ.helper _ (by decide)
    · exact hcode
    · exact hQ.helper _ (by decide)
  | exec =>
    simp only [PushLang.rangeProgram, List.mem_cons, List.not_mem_nil, or_false] at ha
    rcases ha with rfl | rfl | rfl | rfl
    · exact hQ.integer start
    · exact hQ.integer stop
    · exact hQ.helper _ (by decide)
    · exact hcode

theorem Machine.Kept.doRange (hQ : Closed Q m₀) {m : Machine χ} (h : m.Kept Q m₀) (d : Domain) :
    (doRange d m).Kept Q m₀ := by
  unfold PushLang.doRange
  split
  · rename_i code rest stop start _ hbody _
    have hall := h.body d
    rw [hbody] at hall
    have hcode := hall code List.mem_cons_self
    have htaken := (h.drop (k := .integer) (by decide)).setBody (s := ⟨rest⟩)
      (fun a ha => hall a (List.mem_cons_of_mem _ ha)) d
    dsimp only
    split
    · exact htaken.push (by decide) hcode
    · generalize (if start < stop then start + 1 else start - 1) = next
      split
      · rename_i hadmits
        have hagain := h.admitted hQ (hQ.rangeProgram d next stop hcode) hadmits
        exact (htaken.push (k := .exec) (by decide) hagain).push (by decide) hcode
      · exact h
  · exact h

theorem Machine.Kept.doCounted (hQ : Closed Q m₀) {m : Machine χ} (h : m.Kept Q m₀) (d : Domain)
    {wrap : Atom → Atom}
    (hwrap : ∀ code, Q code → (wrap code).points ≤ m.config.maxPoints → Q (wrap code)) :
    (doCounted d wrap m).Kept Q m₀ := by
  unfold PushLang.doCounted
  split
  · rename_i code rest count _ hbody _
    have hall := h.body d
    rw [hbody] at hall
    dsimp only
    split
    · rename_i hcond
      obtain ⟨_, hadmits⟩ := hcond
      have hle : Program.points (PushLang.rangeProgram d 0 (count - 1) (wrap code)) ≤
          m.config.maxPoints := of_decide_eq_true hadmits
      -- The code is part of the loop that was admitted, so it is no larger.
      have hbound : (wrap code).points ≤ m.config.maxPoints := by
        cases d <;>
          simp only [PushLang.rangeProgram, Program.points_cons, Program.points_nil] at hle <;> omega
      have hcode := hwrap code (hall code List.mem_cons_self) hbound
      have hloop := h.admitted hQ (hQ.rangeProgram d 0 (count - 1) hcode) hadmits
      refine ((h.drop (k := .integer) (by decide)).setBody ?_ d).push (by decide) hloop
      intro a ha
      exact hall a (List.mem_cons_of_mem _ ha)
    · exact h
  · exact h

theorem LoopOp.kept (hQ : Closed Q m₀) (op : LoopOp) {m : Machine χ} (h : m.Kept Q m₀)
    (d : Domain) : (op.apply d m).Kept Q m₀ := by
  cases op with
  | range => exact h.doRange hQ d
  | count => exact h.doCounted hQ d fun code hcode _ => hcode
  | times =>
    refine h.doCounted hQ d fun code hcode hle => hQ.built _ ?_ ?_
    · intro a ha
      simp only [List.mem_cons, List.not_mem_nil, or_false] at ha
      rcases ha with rfl | rfl
      · exact hQ.helper _ (by decide)
      · exact hcode
    · rw [Machine.config_of_setup h.setup, Atom.points_program] at hle
      omega

theorem Closed.generate (hQ : Closed Q m₀) {g : Random.Generator} (hg : g ∈ m₀.activeGenerators)
    (s : Random.Source) : Q (g.generate m₀.config s).1 := by
  cases g with
  | instruction name => exact hQ.generated name hg
  | boolean => exact hQ.boolean _
  | integer => exact hQ.integer _
  | float => exact hQ.sampled s

theorem Machine.Kept.randomCode (hQ : Closed Q m₀) {m : Machine χ} (h : m.Kept Q m₀)
    (hactive : m.activeGenerators ≠ []) {size : Nat}
    (hsize : size ≤ max (max m.config.maxPoints m.config.maxRandomSize) 1 + 1) :
    ∃ p s, m.randomCode size = (.ok p, { m with source := s }) ∧ Q (.program p) := by
  have hconfig := config_of_setup h.setup
  have hgenerators := activeGenerators_of_setup h.setup
  rw [hgenerators] at hactive
  rw [hconfig] at hsize
  obtain ⟨p, s, hcode, hpoints, hall⟩ :=
    Random.code_ok hactive (fun g hg s => hQ.generate hg s)
      (fun q _ hq hle => hQ.built q hq hle) hsize m.source
  refine ⟨p, s, ?_, hQ.built p hall (by omega)⟩
  simp only [Machine.randomCode, Machine.withSource, hgenerators, hconfig, hcode]

theorem drawnSize_le (m : Machine χ) (limit : Nat) :
    ∃ size s, (if 0 < limit then m.withSource fun s => ((s.draw limit).1 + 2, (s.draw limit).2)
      else (2, m)) = (size, { m with source := s }) ∧ size ≤ max limit 1 + 1 := by
  by_cases hpos : 0 < limit
  · have hlt := Random.Source.draw_lt hpos m.source
    refine ⟨(m.source.draw limit).1 + 2, (m.source.draw limit).2, ?_, by omega⟩
    rw [if_pos hpos]
    rfl
  · exact ⟨2, m.source, by rw [if_neg hpos], by omega⟩

theorem Machine.Kept.pushRandomCode (hQ : Closed Q m₀) {m : Machine χ} (h : m.Kept Q m₀) :
    (pushRandomCode m).1.Kept Q m₀ ∧ (pushRandomCode m).2 = .ok () := by
  obtain ⟨hkept, _⟩ := h.take (k := .integer) (by decide) false
  have hsetup := hkept.setup.trans h.setup.symm
  unfold PushLang.pushRandomCode
  split
  · exact ⟨h, rfl⟩
  · rename_i m₁ htake _
    rw [htake] at hkept
    exact ⟨hkept, rfl⟩
  · rename_i requested m₁ htake hnone
    rw [htake] at hkept hsetup
    obtain ⟨size, s, hsize, hle⟩ :=
      drawnSize_le m₁ (min requested.toInt.natAbs m₁.config.maxRandomSize)
    -- Neither taking the operand nor drawing the size touches the generators.
    have hdrawn : ({ m₁ with source := s } : Machine χ).Kept Q m₀ :=
      hkept.withSource fun _ => ((), s)
    have hactive : m₁.activeGenerators ≠ [] := by
      rw [activeGenerators_of_setup hsetup]
      exact hnone
    obtain ⟨p, s', hcode, hp⟩ := hdrawn.randomCode hQ hactive (show size ≤ _ by dsimp only; omega)
    simp only [hsize, hcode]
    exact ⟨(hdrawn.withSource fun _ => ((), s')).push (k := .code) (by decide) hp, trivial⟩

theorem Machine.Kept.route {m : Machine χ} (h : m.Kept Q m₀) {a : Atom}
    (ha : Q a) : (m.route a).Kept Q m₀ := by
  cases a with
  | integer n => exact h.push (k := .integer) (by decide) ha
  | float x => exact h.push (k := .float) (by decide) ha
  | boolean b => exact h.push (k := .boolean) (by decide) ha
  | name s => exact h.push (k := .name) (by decide) ha
  | instruction handle => exact h.push (k := .code) (by decide) ha
  | program p => exact h.push (k := .code) (by decide) ha

theorem Machine.Kept.deliver (hQ : Closed Q m₀) {m : Machine χ} (h : m.Kept Q m₀) {a : Atom}
    (ha : Q a) : (m.deliver a).Kept Q m₀ := by
  unfold Machine.deliver
  split
  · exact h.route ha
  · exact h.push (by decide) (hQ.integer _)
  · exact h.push (k := .code) (by decide) ha
  · exact h

theorem Machine.Kept.copyInput (hQ : Closed Q m₀) {m : Machine χ} (h : m.Kept Q m₀)
    (index : Nat) : (m.copyInput index).Kept Q m₀ := by
  unfold Machine.copyInput
  split
  · rename_i a ha
    exact h.deliver hQ (h.stacked .input a (List.mem_of_getElem? ha))
  · exact h

variable [Host χ]

namespace Machine

/-- In a machine that differs from `m₀` in its stacks and bindings only, the pusher keeps the
property `Q`. -/
def PusherKeeps (Q : Atom → Prop) (m₀ : Machine χ) : Prop :=
  ∀ m : Machine χ, m.clearStacks.setup = m₀.clearStacks.setup → m.Kept Q m → ∀ index,
    (m.pushInput index).Kept Q m

theorem OwnsPusher.keeps (h : m₀.OwnsPusher) (hQ : Closed Q m₀) : m₀.PusherKeeps Q := by
  intro m hsetup hm index
  have howns : m.OwnsPusher := fun x hx => h x ((pusher_of_setup hsetup).symm.trans hx)
  have hconfig : m.clearStacks.config = m₀.clearStacks.config := config_of_setup hsetup
  have hactive : m.clearStacks.activeGenerators = m₀.clearStacks.activeGenerators :=
    activeGenerators_of_setup hsetup
  have hclosed : Closed Q m := hQ.congr hconfig hactive
  rw [pushInput_eq howns]
  exact hm.copyInput hclosed index

end Machine

variable (hpusher : m₀.PusherKeeps Q)
include hpusher

theorem Machine.Kept.pushInput {m : Machine χ} (h : m.Kept Q m₀) (index : Nat) :
    (m.pushInput index).Kept Q m₀ :=
  (hpusher m (clearStacks_of_setup h.setup) h.self index).trans h

theorem Machine.Kept.inputsAt {m : Machine χ} (h : m.Kept Q m₀) (indices : List Nat) :
    (inputsAt indices m).Kept Q m₀ := by
  induction indices generalizing m with
  | nil => exact h
  | cons i rest ih => exact ih (h.pushInput hpusher i)

theorem InputOp.kept (op : InputOp) {m : Machine χ} (h : m.Kept Q m₀) :
    (op.apply m).Kept Q m₀ := by
  cases op with
  | index =>
    simp only [apply, inputAtIndex]
    split
    · exact h
    · obtain ⟨hkept, _⟩ := h.take (k := .integer) (by decide) false
      rcases htake : m.take .integer false with ⟨_ | n, m₁⟩
      · rw [htake] at hkept
        exact hkept
      · rw [htake] at hkept
        exact hkept.pushInput hpusher _
  | inAll => exact h.inputsAt hpusher _
  | inAllRev => exact h.inputsAt hpusher _

end PushLang
