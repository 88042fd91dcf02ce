import PushLang.Proofs.Program.Lexing

namespace PushLang

open Text

mutual

/-- What the text of an atom is read as. -/
def Atom.reread : Atom → Except ParseError Atom
  | .program p => (Program.reread p).map .program
  | a => Atom.ofWord a.render.toList

/-- What the texts of the children are read as, up to the first error. -/
def Program.reread : List Atom → Except ParseError Program
  | [] => .ok []
  | a :: rest =>
    match a.reread with
    | .error e => .error e
    | .ok b => (Program.reread rest).map (b :: ·)

end

theorem Atom.reread_leaf {a : Atom} (h : a.isProgram = false) :
    a.reread = Atom.ofWord a.render.toList := by
  cases a with
  | program p => cases h
  | integer n | float x | boolean b | name s | instruction g => rw [reread]; rintro p ⟨⟩

namespace Program

def resume (read : Except ParseError Program) (current : List Atom) (outer : List (List Atom))
    (tokens : List Token) : Except ParseError Program :=
  match read with
  | .ok p => build (p.reverse ++ current) outer tokens
  | .error e => .error e

theorem build_tokens {p : Program}
    (h : ∀ a ∈ p, ∀ current outer tokens, build current outer (a.tokens ++ tokens) =
      resume (a.reread.map fun b => [b]) current outer tokens)
    (current : List Atom) (outer : List (List Atom)) (more : List Token) :
    build current outer (tokens p ++ more) = resume (reread p) current outer more := by
  induction p generalizing current with
  | nil => rfl
  | cons a p ih =>
    rw [tokens, List.append_assoc, h a List.mem_cons_self, reread]
    rcases a.reread with e | b
    · rfl
    · have hrest := ih (fun c hc => h c (List.mem_cons_of_mem _ hc)) (b :: current)
      refine hrest.trans ?_
      rcases reread p with e | q <;> simp [resume, Except.map]

end Program

theorem Atom.build_tokens (a : Atom) (current : List Atom) (outer : List (List Atom))
    (more : List Token) :
    Program.build current outer (a.tokens ++ more) =
      Program.resume (a.reread.map fun b => [b]) current outer more := by
  -- The open programs are arbitrary: a nested program is read with its parent among them.
  induction a using Atom.tree_induction generalizing current outer more with
  | leaf a ha =>
    rw [tokens_leaf ha, reread_leaf ha, List.singleton_append, Program.build]
    rcases Atom.ofWord a.render.toList with e | b <;> rfl
  | program p ih =>
    rw [tokens, reread, List.cons_append, List.append_assoc, Program.build,
      Program.build_tokens ih]
    rcases Program.reread p with e | q
    · rfl
    · simp [Program.resume, Except.map, Program.build]

/-- A program whose leaves are words is read leaf by leaf. -/
theorem Program.parse_render {p : Program} (h : (Atom.program p).IsLexical) :
    parse p.render = reread p := by
  rw [parse, scan_render h, body, build_tokens fun a _ => a.build_tokens]
  rcases reread p with e | q
  · rfl
  · simp [resume, build]

namespace Token

theorem isWord_of_mem_flush {collected w : List Char} {tokens : List Token}
    (h : ∀ c ∈ collected, IsPlain c) (hw : .word w ∈ flush collected tokens) :
    IsWord w ∨ .word w ∈ tokens := by
  unfold flush at hw
  split at hw
  · exact .inr hw
  · rename_i hne
    rcases List.mem_cons.mp hw with hword | hw
    · cases hword
      refine .inl ⟨by simpa using hne, fun c hc => h c (List.mem_reverse.mp hc)⟩
    · exact .inr hw

theorem isWord_of_mem_scanFrom {collected text w : List Char}
    (h : ∀ c ∈ collected, IsPlain c) (hw : .word w ∈ scanFrom collected text) : IsWord w := by
  induction text generalizing collected with
  | nil =>
    rcases isWord_of_mem_flush h hw with hword | hnone
    · exact hword
    · cases hnone
  | cons c text ih =>
    -- A parenthesis ends the word before it and is no word itself.
    have hpast : ∀ t : Token, .word w ≠ t →
        .word w ∈ flush collected (t :: scanFrom [] text) → IsWord w := by
      intro t ht hmem
      rcases isWord_of_mem_flush h hmem with hword | hmore
      · exact hword
      · exact ih (List.forall_mem_nil _) ((List.mem_cons.mp hmore).resolve_left ht)
    unfold scanFrom at hw
    split at hw
    · exact hpast _ Token.noConfusion hw
    · split at hw
      · exact hpast _ Token.noConfusion hw
      · split at hw
        · rcases isWord_of_mem_flush h hw with hword | hmore
          · exact hword
          · exact ih (List.forall_mem_nil _) hmore
        · rename_i hopening hclosing hblank
          refine ih (fun d hd => ?_) hw
          rcases List.mem_cons.mp hd with rfl | hd
          · exact ⟨by simpa using hblank, hopening, hclosing⟩
          · exact h d hd

end Token

theorem Atom.isProgram_ofWord {w : List Char} {a : Atom} (h : Atom.ofWord w = .ok a) :
    a.isProgram = false := by
  unfold ofWord at h
  dsimp only at h
  split at h
  · cases h
    rfl
  · split at h
    · rename_i number b hnumber
      cases h
      split at hnumber <;> obtain ⟨v, -, rfl⟩ := Option.map_eq_some_iff.mp hnumber <;> rfl
    · cases h

/-- A leaf of what is read was in an open program, or stands for a word that was read. -/
theorem Program.leaves_build {current : List Atom} {outer : List (List Atom)} {tokens : List Token}
    {p : Program} (h : build current outer tokens = .ok p) {l : Atom} (hl : l ∈ leaves p) :
    l ∈ leaves current ∨ (∃ q ∈ outer, l ∈ leaves q) ∨
      ∃ w, .word w ∈ tokens ∧ Atom.ofWord w = .ok l := by
  -- Programs are closed last child first, which does not matter for having a leaf.
  have hreverse : ∀ q : Program, l ∈ leaves q.reverse → l ∈ leaves q := by
    intro q hq
    obtain ⟨a, ha, hl⟩ := mem_leaves.mp hq
    exact mem_leaves.mpr ⟨a, List.mem_reverse.mp ha, hl⟩
  induction tokens generalizing current outer with
  | nil => cases h
  | cons t tokens ih =>
    cases t with
    | opening =>
      rcases ih h with hnil | ⟨q, hq, hl⟩ | ⟨w, hw, hl⟩
      · cases hnil
      · rcases List.mem_cons.mp hq with rfl | hq
        · exact .inl hl
        · exact .inr (.inl ⟨q, hq, hl⟩)
      · exact .inr (.inr ⟨w, List.mem_cons_of_mem _ hw, hl⟩)
    | closing =>
      cases outer with
      | nil =>
        cases h
        exact .inl (hreverse _ hl)
      | cons parent others =>
        rcases ih h with hopen | ⟨q, hq, hl⟩ | ⟨w, hw, hl⟩
        · rw [leaves_cons, Atom.leaves_program, List.mem_append] at hopen
          rcases hopen with hl | hl
          · exact .inl (hreverse _ hl)
          · exact .inr (.inl ⟨parent, List.mem_cons_self, hl⟩)
        · exact .inr (.inl ⟨q, List.mem_cons_of_mem _ hq, hl⟩)
        · exact .inr (.inr ⟨w, List.mem_cons_of_mem _ hw, hl⟩)
    | word v =>
      unfold build at h
      split at h
      · rename_i a ha
        rcases ih h with hopen | ⟨q, hq, hl⟩ | ⟨w, hw, hl⟩
        · rw [leaves_cons, List.mem_append,
            Atom.leaves_of_isProgram_eq_false (Atom.isProgram_ofWord ha)] at hopen
          rcases hopen with hl | hl
          · obtain rfl := List.mem_singleton.mp hl
            exact .inr (.inr ⟨v, List.mem_cons_self, ha⟩)
          · exact .inl hl
        · exact .inr (.inl ⟨q, hq, hl⟩)
        · exact .inr (.inr ⟨w, List.mem_cons_of_mem _ hw, hl⟩)
      · cases h

theorem Program.leaves_parse {text : String} {p : Program} (h : parse text = .ok p) {l : Atom}
    (hl : l ∈ leaves p) : ∃ w, IsWord w ∧ Atom.ofWord w = .ok l := by
  have hbody : ∀ t ∈ body (Token.scan text), t ∈ Token.scan text := by
    intro t ht
    unfold body at ht
    split at ht
    · rename_i rest hscan
      exact hscan ▸ List.mem_cons_of_mem _ ht
    · exact ht
  rcases leaves_build h hl with hnil | ⟨q, hq, _⟩ | ⟨w, hw, hl⟩
  · cases hnil
  · cases hq
  · exact ⟨w, Token.isWord_of_mem_scanFrom (by simp) (hbody _ hw), hl⟩

end PushLang
