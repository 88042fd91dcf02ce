import PushLang.Proofs.Atom.Equality
import PushLang.Proofs.Program.Words

namespace PushLang

open Binary64 Text

/-- The text of a leaf can be told apart from that of its neighbours and is read as a leaf of the
same kind, or as its name. -/
def Atom.IsLegible : Atom → Prop
  | .float x => x.isFinite
  | .name s => IsName s.toList
  | .instruction g => IsName g.name.toList
  | _ => True

mutual

/-- An atom with names in place of booleans and instructions. -/
def Atom.spelled : Atom → Atom
  | .boolean b => .name (renderBool b)
  | .instruction g => .name g.name
  | .program p => .program (Program.spelled p)
  | .integer n => .integer n
  | .float x => .float x
  | .name s => .name s

def Program.spelled : List Atom → Program
  | [] => []
  | a :: rest => a.spelled :: Program.spelled rest

end

namespace Atom

theorem isName_renderBool (b : Bool) : IsName (renderBool b).toList := by
  have htrue : "true".toList = ['t', 'r', 'u', 'e'] := by simp
  have hfalse : "false".toList = ['f', 'a', 'l', 's', 'e'] := by simp
  cases b with
  | false => rw [renderBool, if_neg (by simp), hfalse]; decide
  | true => rw [renderBool, if_pos rfl, htrue]; decide

/-- The text of a legible leaf is a word that is read as the leaf, or as its name. -/
theorem ofWord_render {l : Atom} (hleaf : l.isProgram = false) (h : l.IsLegible) :
    IsWord l.render.toList ∧ ofWord l.render.toList = .ok l.spelled := by
  cases l with
  | program p => cases hleaf
  | integer n =>
    rw [render, spelled]
    refine ⟨⟨Decimal.integer_ne_nil n, fun c hc => ?_⟩, ofWord_integer n⟩
    exact isPlain_of_isNumeral (Decimal.isNumeral_integer hc).1
  | float x =>
    rw [render, spelled]
    refine ⟨⟨?_, fun c hc => ?_⟩, ofWord_pointed h⟩
    · exact List.ne_nil_of_mem (Decimal.point_mem_pointed h)
    · exact isPlain_of_isNumeral (Decimal.isNumeral_pointed h hc)
  | boolean b =>
    have hname := isName_renderBool b
    rw [render, spelled, ofWord_name hname, String.ofList_toList]
    exact ⟨hname.1, rfl⟩
  | name s =>
    have hname : IsName s.toList := h
    rw [render, spelled, ofWord_name hname, String.ofList_toList]
    exact ⟨hname.1, rfl⟩
  | instruction g =>
    have hname : IsName g.name.toList := h
    rw [render, spelled, ofWord_name hname, String.ofList_toList]
    exact ⟨hname.1, rfl⟩

end Atom

namespace Program

theorem reread_of {p : Program} (h : ∀ a ∈ p, a.reread = .ok a.spelled) :
    reread p = .ok (spelled p) := by
  induction p with
  | nil => rfl
  | cons a p ih =>
    have hrest := ih fun b hb => h b (List.mem_cons_of_mem _ hb)
    rw [reread, h a List.mem_cons_self, hrest]
    rfl

theorem spelled_eq_map (p : Program) : spelled p = p.map Atom.spelled := by
  induction p with
  | nil => rfl
  | cons a p ih => rw [spelled, ih, List.map_cons]

theorem renderEach_eq_map (p : Program) : renderEach p = p.map Atom.render := by
  induction p with
  | nil => rfl
  | cons a p ih => rw [renderEach, ih, List.map_cons]

theorem renderEach_spelled {p : Program} (h : ∀ a ∈ p, a.spelled.render = a.render) :
    renderEach (spelled p) = renderEach p := by
  rw [renderEach_eq_map, renderEach_eq_map, spelled_eq_map, List.map_map]
  exact List.map_congr_left h

theorem spelled_of {p : Program} (h : ∀ a ∈ p, a.spelled = a) : spelled p = p := by
  rw [spelled_eq_map, List.map_congr_left h, List.map_id']

end Program

namespace Atom

theorem leaves_subset {p : Program} {a l : Atom} (ha : a ∈ p) (hl : l ∈ a.leaves) :
    l ∈ (Atom.program p).leaves := by
  rw [leaves_program, Program.mem_leaves]
  exact ⟨a, ha, hl⟩

theorem reread_legible (a : Atom) (h : ∀ l ∈ a.leaves, l.IsLegible) : a.reread = .ok a.spelled := by
  induction a using tree_induction with
  | leaf a ha =>
    have hlegible := h a (by simp [leaves_of_isProgram_eq_false ha])
    rw [reread_leaf ha]
    exact (ofWord_render ha hlegible).2
  | program p ih =>
    have hchildren := Program.reread_of fun a ha => ih a ha fun l hl => h l (leaves_subset ha hl)
    rw [reread, spelled, hchildren]
    rfl

theorem render_spelled (a : Atom) : a.spelled.render = a.render := by
  induction a using tree_induction with
  | leaf a ha =>
    cases a with
    | program p => cases ha
    | integer n | float x | name s => rw [spelled]
    | boolean b | instruction g => rw [spelled, render, render]
  | program p ih => rw [spelled, render, render, Program.renderEach_spelled ih]

theorem spelled_self (a : Atom) (hboolean : ∀ b, .boolean b ∉ a.leaves)
    (hinstruction : ∀ g, .instruction g ∉ a.leaves) : a.spelled = a := by
  induction a using tree_induction with
  | leaf a ha =>
    cases a with
    | program p => cases ha
    | integer n | float x | name s => rw [spelled]
    | boolean b => exact absurd (by rw [leaves]; exact List.mem_cons_self) (hboolean b)
    | instruction g => exact absurd (by rw [leaves]; exact List.mem_cons_self) (hinstruction g)
  | program p ih =>
    have hchildren := Program.spelled_of fun a ha => ih a ha
      (fun b hb => hboolean b (leaves_subset ha hb))
      (fun g hg => hinstruction g (leaves_subset ha hg))
    rw [spelled, hchildren]

end Atom

namespace Program

theorem parse_legible {p : Program} (h : ∀ l ∈ leaves p, l.IsLegible) :
    parse p.render = .ok (spelled p) := by
  have hlexical : (Atom.program p).IsLexical := fun l hl =>
    (Atom.ofWord_render (Atom.isProgram_of_mem_leaves hl) (h l (by simpa using hl))).1
  rw [parse_render hlexical]
  exact reread_of fun a ha => a.reread_legible fun l hl => h l (mem_leaves.mpr ⟨a, ha, hl⟩)

theorem render_spelled (p : Program) : (spelled p).render = p.render := by
  rw [render, render, renderEach_spelled fun a _ => a.render_spelled]

theorem spelled_self {p : Program} (hboolean : ∀ b, .boolean b ∉ leaves p)
    (hinstruction : ∀ g, .instruction g ∉ leaves p) : spelled p = p :=
  spelled_of fun a ha => a.spelled_self
    (fun b hb => hboolean b (mem_leaves.mpr ⟨a, ha, hb⟩))
    (fun g hg => hinstruction g (mem_leaves.mpr ⟨a, ha, hg⟩))

/-- A legible program is read back from its text, with names in place of its booleans and
instructions, which have the same text. -/
theorem parse_render_legible {p : Program} (h : ∀ l ∈ leaves p, l.IsLegible) :
    parse p.render = .ok (spelled p) ∧
      ((∀ b, .boolean b ∉ leaves p) → (∀ g, .instruction g ∉ leaves p) →
        spelled p = p ∧ equal (spelled p) p = true) ∧
      (spelled p).render = p.render := by
  refine ⟨parse_legible h, fun hboolean hinstruction => ?_, render_spelled p⟩
  have hself := spelled_self hboolean hinstruction
  refine ⟨hself, ?_⟩
  rw [hself]
  exact equal_self p

theorem parse_render_legible_sample :
    parse (render [.boolean true, .program [.program [], .float 1.5, .instruction ⟨0, "exec.k"⟩]]) =
      .ok [.name "true", .program [.program [], .float 1.5, .name "exec.k"]] := by
  have hfloat : (1.5 : Double).isFinite = true := by decide
  have hname : IsName ['e', 'x', 'e', 'c', '.', 'k'] := by decide
  have hread := (parse_render_legible (p :=
    [.boolean true, .program [.program [], .float 1.5, .instruction ⟨0, "exec.k"⟩]]) (by
      simp [Atom.leaves, Atom.IsLegible, hfloat, hname])).1
  simpa [spelled, Atom.spelled, renderBool] using hread

end Program

/-- The text of the program is read as an equal program with the same text. -/
def Program.Survives (p : Program) : Prop :=
  ∃ q, parse p.render = .ok q ∧ equal q p = true ∧ q.render = p.render

/-- Where an equal atom is read back, every leaf is read back as an equal one. -/
theorem Program.equal_leaf_of {p : Program}
    (h : ∀ a ∈ p, ∀ b, a.reread = .ok b → b.equal a = true → ∀ l ∈ a.leaves,
      ∃ c, Atom.ofWord l.render.toList = .ok c ∧ c.equal l = true)
    {q : Program} (hread : reread p = .ok q) (hequal : equal q p = true) {l : Atom}
    (hl : l ∈ leaves p) : ∃ c, Atom.ofWord l.render.toList = .ok c ∧ c.equal l = true := by
  induction p generalizing q with
  | nil => cases hl
  | cons a p ih =>
    rw [reread] at hread
    split at hread
    · cases hread
    · rename_i b hb
      cases hrest : reread p with
      | error e =>
        rw [hrest] at hread
        cases hread
      | ok r =>
        rw [hrest] at hread
        cases hread
        rw [equal, Bool.and_eq_true] at hequal
        rw [leaves_cons, List.mem_append] at hl
        rcases hl with hl | hl
        · exact h a List.mem_cons_self b hb hequal.1 l hl
        · exact ih (fun c hc => h c (List.mem_cons_of_mem _ hc)) hrest hequal.2 hl

theorem Atom.equal_leaf (a : Atom) : ∀ b, a.reread = .ok b → b.equal a = true → ∀ l ∈ a.leaves,
    ∃ c, ofWord l.render.toList = .ok c ∧ c.equal l = true := by
  induction a using tree_induction with
  | leaf a ha =>
    intro b hb hequal l hl
    rw [leaves_of_isProgram_eq_false ha] at hl
    obtain rfl := List.mem_singleton.mp hl
    rw [reread_leaf ha] at hb
    exact ⟨b, hb, hequal⟩
  | program p ih =>
    intro b hb hequal l hl
    -- A program is read back as a program, so the equality is one of children.
    rw [reread] at hb
    cases hread : Program.reread p with
    | error e =>
      rw [hread] at hb
      cases hb
    | ok q =>
      rw [hread] at hb
      cases hb
      rw [equal] at hequal
      exact Program.equal_leaf_of ih hread hequal (by simpa using hl)

/-- The leaves of what is read are legible but for doubles that are not finite. -/
theorem Program.isLegible_of_parse {text : String} {p : Program} (h : parse text = .ok p)
    {l : Atom} (hl : l ∈ leaves p) :
    l.IsLegible ∧ (∀ b, l ≠ .boolean b) ∧ (∀ g, l ≠ .instruction g) ∨
      ∃ x, l = .float x ∧ ¬ x.isFinite := by
  obtain ⟨w, hw, hread⟩ := leaves_parse h hl
  rcases Atom.ofWord_cases hw hread with ⟨hname, rfl⟩ | ⟨n, rfl⟩ | ⟨x, rfl⟩
  · refine .inl ⟨?_, by simp, by simp⟩
    rwa [Atom.IsLegible, String.toList_ofList]
  · exact .inl ⟨trivial, by simp, by simp⟩
  · by_cases hx : x.isFinite
    · exact .inl ⟨hx, by simp, by simp⟩
    · exact .inr ⟨x, rfl, hx⟩

theorem Program.isLexical_of_parse {text : String} {p : Program} (h : parse text = .ok p) :
    (Atom.program p).IsLexical := by
  intro l hl
  rw [Atom.leaves_program] at hl
  rcases isLegible_of_parse h hl with ⟨hlegible, -⟩ | ⟨x, rfl, hx⟩
  · exact (Atom.ofWord_render (isProgram_of_mem_leaves hl) hlegible).1
  · rw [Atom.render]
    exact (Atom.ofWord_not_isFinite hx).1

/-- A double that is not finite is read as a name or not at all, so it does not come back. -/
theorem Program.isFinite_of_survives {p : Program} (hlexical : (Atom.program p).IsLexical)
    (h : p.Survives) {x : Double} (hx : .float x ∈ leaves p) : x.isFinite := by
  obtain ⟨q, hread, hequal, -⟩ := h
  rw [parse_render hlexical] at hread
  obtain ⟨c, hc, hcx⟩ := equal_leaf_of (fun a _ => a.equal_leaf) hread hequal hx
  by_contra hinfinite
  rw [Atom.render] at hc
  rcases (Atom.ofWord_not_isFinite hinfinite).2 with ⟨e, he⟩ | ⟨s, hs⟩
  · rw [he] at hc
    cases hc
  · rw [hs] at hc
    cases hc
    simp [Atom.equal] at hcx

theorem Program.survives_of_isFinite {text : String} {p : Program} (h : parse text = .ok p)
    (hfinite : ∀ x, .float x ∈ leaves p → x.isFinite = true) : p.Survives := by
  have hlegible : ∀ l ∈ leaves p,
      l.IsLegible ∧ (∀ b, l ≠ .boolean b) ∧ (∀ g, l ≠ .instruction g) := by
    intro l hl
    rcases isLegible_of_parse h hl with hleaf | ⟨x, rfl, hx⟩
    · exact hleaf
    · exact absurd (hfinite x hl) hx
  -- Nothing that was read is a boolean or an instruction, so there is nothing to spell out.
  have hself : spelled p = p := spelled_self (fun b hb => (hlegible _ hb).2.1 b rfl)
    (fun g hg => (hlegible _ hg).2.2 g rfl)
  have hread := parse_legible fun l hl => (hlegible l hl).1
  rw [hself] at hread
  exact ⟨p, hread, equal_self p, rfl⟩

/-- What is read from a text survives printing and reading if and only if all of its doubles are
finite. -/
theorem Program.survives_iff_of_parse {text : String} {p : Program} (h : parse text = .ok p) :
    p.Survives ↔ ∀ x, .float x ∈ leaves p → x.isFinite = true :=
  ⟨fun hsurvives _ hx => isFinite_of_survives (isLexical_of_parse h) hsurvives hx,
    survives_of_isFinite h⟩

theorem Program.survives_iff_of_parse_samples :
    Survives [.integer 0, .program [.name "x", .float (assemble false 0)]] ∧
      ¬ Survives [.float (assemble false infinityBits)] := by
  have hzero : parse "(0 (x 0.0))" =
    .ok [.integer 0, .program [.name "x", .float (assemble false 0)]] := rfl
  have hlarge : parse "(1.0e400)" = .ok [.float (assemble false infinityBits)] := rfl
  constructor
  · refine (survives_iff_of_parse hzero).mpr fun x hx => ?_
    obtain rfl : x = assemble false 0 := by simpa [Atom.leaves] using hx
    exact isFinite_assemble false (by decide)
  · intro hsurvives
    have hfinite := (survives_iff_of_parse hlarge).mp hsurvives (assemble false infinityBits)
      (by simp [Atom.leaves])
    rw [isFinite_iff, magnitude_assemble false (Nat.le_refl _)] at hfinite
    exact Nat.lt_irrefl _ hfinite

end PushLang
