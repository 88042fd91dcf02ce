import PushLang.Atom.Text
import PushLang.Program.Parser
import PushLang.Proofs.Program.Leaves

namespace PushLang

namespace Text

def IsPlain (c : Char) : Prop := isBlank c = false ∧ c ≠ '(' ∧ c ≠ ')'

/-- A nonempty row of characters that are neither blank nor parentheses. -/
def IsWord (w : List Char) : Prop := w ≠ [] ∧ ∀ c ∈ w, IsPlain c

instance (c : Char) : Decidable (IsPlain c) := inferInstanceAs (Decidable (_ ∧ _ ∧ _))

instance (w : List Char) : Decidable (IsWord w) :=
  @instDecidableAnd _ _ _ (List.decidableBAll IsPlain w)

/-- Nothing, or a character that ends a word. -/
def EndsWord (text : List Char) : Prop := ∀ c ∈ text.head?, ¬ IsPlain c

theorem endsWord_closing (text : List Char) : EndsWord (')' :: text) := by
  rintro c ⟨⟩ h
  exact h.2.2 rfl

theorem endsWord_space (text : List Char) : EndsWord (' ' :: text) := by
  rintro c ⟨⟩ h
  exact absurd h.1 (by decide)

end Text

open Text

namespace Token

theorem scanFrom_plain {w : List Char} (hw : ∀ c ∈ w, IsPlain c) (collected text : List Char) :
    scanFrom collected (w ++ text) = scanFrom (w.reverse ++ collected) text := by
  induction w generalizing collected with
  | nil => rfl
  | cons c w ih =>
    obtain ⟨hblank, hopening, hclosing⟩ := hw c List.mem_cons_self
    rw [List.cons_append, scanFrom, if_neg hopening, if_neg hclosing, if_neg (by simp [hblank]),
      ih fun d hd => hw d (List.mem_cons_of_mem _ hd)]
    simp

theorem scanFrom_end {text : List Char} (h : EndsWord text) {collected : List Char}
    (hne : collected ≠ []) :
    scanFrom collected text = .word collected.reverse :: scanFrom [] text := by
  have hflush : ∀ tokens, flush collected tokens = .word collected.reverse :: tokens := by
    intro tokens
    rw [flush, if_neg (by simpa using hne)]
  rcases text with _ | ⟨c, text⟩
  · rw [scanFrom, hflush]
    rfl
  · have hc := h c rfl
    unfold scanFrom
    split
    · exact hflush _
    · split
      · exact hflush _
      · split
        · exact hflush _
        · rename_i hopening hclosing hblank
          exact absurd ⟨by simpa using hblank, hopening, hclosing⟩ hc

theorem scanFrom_word {w text : List Char} (hw : IsWord w) (h : EndsWord text) :
    scanFrom [] (w ++ text) = .word w :: scanFrom [] text := by
  obtain ⟨hne, hplain⟩ := hw
  have hreverse : w.reverse ++ [] ≠ [] := by simpa using hne
  rw [scanFrom_plain hplain, scanFrom_end h hreverse]
  simp

@[simp] theorem scanFrom_opening (text : List Char) :
    scanFrom [] ('(' :: text) = .opening :: scanFrom [] text := by
  rw [scanFrom, if_pos rfl]
  rfl

@[simp] theorem scanFrom_closing (text : List Char) :
    scanFrom [] (')' :: text) = .closing :: scanFrom [] text := by
  rw [scanFrom, if_neg (by decide), if_pos rfl]
  rfl

@[simp] theorem scanFrom_space (text : List Char) :
    scanFrom [] (' ' :: text) = scanFrom [] text := by
  rw [scanFrom, if_neg (by decide), if_neg (by decide), if_pos (by decide)]
  rfl

end Token

mutual

def Atom.tokens : Atom → List Token
  | .program p => .opening :: (Program.tokens p ++ [.closing])
  | a => [.word a.render.toList]

def Program.tokens : List Atom → List Token
  | [] => []
  | a :: rest => a.tokens ++ Program.tokens rest

end

theorem Atom.tokens_leaf {a : Atom} (h : a.isProgram = false) :
    a.tokens = [.word a.render.toList] := by
  cases a with
  | program p => cases h
  | integer n | float x | boolean b | name s | instruction g => rw [tokens]; rintro p ⟨⟩

/-- The text of every leaf is a word. -/
def Atom.IsLexical (a : Atom) : Prop := ∀ l ∈ a.leaves, IsWord l.render.toList

theorem Program.toList_renderEach (a b : Atom) (p : Program) :
    (" ".intercalate (renderEach (a :: b :: p))).toList =
      a.render.toList ++ ' ' :: (" ".intercalate (renderEach (b :: p))).toList := by
  simp [renderEach]

theorem Program.scan_renderEach {p : Program}
    (h : ∀ a ∈ p, ∀ text, EndsWord text →
      Token.scanFrom [] (a.render.toList ++ text) = a.tokens ++ Token.scanFrom [] text)
    (text : List Char) :
    Token.scanFrom [] ((" ".intercalate (renderEach p)).toList ++ ')' :: text) =
      tokens p ++ .closing :: Token.scanFrom [] text := by
  induction p with
  | nil => simp [renderEach, tokens]
  | cons a p ih =>
    have ha := h a List.mem_cons_self
    have hp := ih fun b hb => h b (List.mem_cons_of_mem _ hb)
    cases p with
    | nil =>
      have hlast := ha _ (endsWord_closing text)
      simpa [renderEach, tokens] using hlast
    | cons b p =>
      rw [toList_renderEach, List.append_assoc, List.cons_append, ha _ (endsWord_space _),
        Token.scanFrom_space, hp]
      simp [tokens]

theorem Atom.toList_render_program (p : Program) (text : List Char) :
    (Atom.program p).render.toList ++ text =
      '(' :: ((" ".intercalate (Program.renderEach p)).toList ++ ')' :: text) := by
  simp [render]

theorem Atom.scan_render (a : Atom) (h : a.IsLexical) (text : List Char) (htext : EndsWord text) :
    Token.scanFrom [] (a.render.toList ++ text) = a.tokens ++ Token.scanFrom [] text := by
  -- The text behind is arbitrary, since a child is followed by its siblings.
  induction a using Atom.tree_induction generalizing text with
  | leaf a ha =>
    have hword := h a (by simp [leaves_of_isProgram_eq_false ha])
    rw [Token.scanFrom_word hword htext, tokens_leaf ha]
    rfl
  | program p ih =>
    have hchildren := Program.scan_renderEach (p := p) (fun a ha text htext =>
      ih a ha (fun l hl => h l (by simpa using Program.mem_leaves.mpr ⟨a, ha, hl⟩)) text htext) text
    rw [toList_render_program, Token.scanFrom_opening, hchildren]
    simp [tokens]

theorem Program.scan_render {p : Program} (h : (Atom.program p).IsLexical) :
    Token.scan p.render = .opening :: (tokens p ++ [.closing]) := by
  have hscan := Atom.scan_render (.program p) h [] (by rintro c ⟨⟩)
  rw [List.append_nil] at hscan
  have hrender : (Atom.program p).render = p.render := by rw [Atom.render, render]
  rw [Token.scan, ← hrender, hscan]
  simp [Atom.tokens, Token.scanFrom, Token.flush]

end PushLang
