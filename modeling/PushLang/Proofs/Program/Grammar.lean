import Mathlib.Data.List.Infix
import Mathlib.Data.List.TakeWhile
import PushLang.Proofs.Program.Lexing

namespace PushLang

open Text

/-- The text falls into these tokens: single parentheses, and rows of characters that are neither
blank nor parentheses and cannot be made longer. -/
inductive Token.Lexes : List Char → List Token → Prop
  | nil : Lexes [] []
  | blank {c : Char} {text : List Char} {tokens : List Token} (hc : isBlank c = true)
      (h : Lexes text tokens) : Lexes (c :: text) tokens
  | opening {text : List Char} {tokens : List Token} (h : Lexes text tokens) :
      Lexes ('(' :: text) (.opening :: tokens)
  | closing {text : List Char} {tokens : List Token} (h : Lexes text tokens) :
      Lexes (')' :: text) (.closing :: tokens)
  | word {w text : List Char} {tokens : List Token} (hw : IsWord w) (hend : EndsWord text)
      (h : Lexes text tokens) : Lexes (w ++ text) (.word w :: tokens)

theorem Text.exists_word {c : Char} (hc : IsPlain c) (text : List Char) :
    ∃ w rest, c :: text = w ++ rest ∧ IsWord w ∧ EndsWord rest := by
  let plain : Char → Bool := fun d => decide (IsPlain d)
  refine ⟨(c :: text).takeWhile plain, (c :: text).dropWhile plain,
    List.takeWhile_append_dropWhile.symm, ⟨?_, ?_⟩, ?_⟩
  · have hplain : plain c = true := decide_eq_true hc
    rw [List.takeWhile_cons_of_pos hplain]
    exact List.cons_ne_nil _ _
  · intro d hd
    have hplain : plain d = true := List.mem_takeWhile_imp hd
    exact of_decide_eq_true hplain
  · intro d hd hplain
    have hnot := List.head?_dropWhile_not plain (c :: text)
    rw [Option.mem_def.mp hd] at hnot
    exact absurd (decide_eq_true hplain) (by simpa [plain] using hnot)

namespace Token

theorem scanFrom_blank {c : Char} (hc : isBlank c = true) (text : List Char) :
    scanFrom [] (c :: text) = scanFrom [] text := by
  have hopening : c ≠ '(' := by
    rintro rfl
    exact absurd hc (by decide)
  have hclosing : c ≠ ')' := by
    rintro rfl
    exact absurd hc (by decide)
  rw [scanFrom, if_neg hopening, if_neg hclosing, if_pos hc]
  rfl

theorem Lexes.eq_scanFrom {text : List Char} {tokens : List Token} (h : Lexes text tokens) :
    tokens = scanFrom [] text := by
  induction h with
  | nil => rfl
  | blank hc _ ih => rw [scanFrom_blank hc, ih]
  | opening _ ih => rw [scanFrom_opening, ih]
  | closing _ ih => rw [scanFrom_closing, ih]
  | word hw hend _ ih => rw [scanFrom_word hw hend, ih]

theorem lexes_scanFrom (text : List Char) : Lexes text (scanFrom [] text) := by
  -- A word is taken off as a whole, so the induction is on the length of the text.
  induction hn : text.length using Nat.strong_induction_on generalizing text with
  | h n ih =>
    subst hn
    rcases text with _ | ⟨c, text⟩
    · exact .nil
    · have htail := ih text.length (Nat.lt_succ_self _) text rfl
      by_cases hopening : c = '('
      · subst hopening
        rw [scanFrom_opening]
        exact .opening htail
      by_cases hclosing : c = ')'
      · subst hclosing
        rw [scanFrom_closing]
        exact .closing htail
      by_cases hblank : isBlank c = true
      · rw [scanFrom_blank hblank]
        exact .blank hblank htail
      · have hplain : IsPlain c := ⟨by simpa using hblank, hopening, hclosing⟩
        obtain ⟨w, rest, htext, hw, hend⟩ := exists_word hplain text
        have hlength := congrArg List.length htext
        have hpos : 0 < w.length := List.length_pos_iff.mpr hw.1
        rw [List.length_append] at hlength
        rw [htext, scanFrom_word hw hend]
        exact .word hw hend (ih rest.length (by omega) rest rfl)

/-- A text falls into tokens in one way. -/
theorem lexes_iff (text : List Char) (tokens : List Token) :
    Lexes text tokens ↔ tokens = scanFrom [] text := by
  refine ⟨Lexes.eq_scanFrom, ?_⟩
  rintro rfl
  exact lexes_scanFrom text

end Token

namespace Program

/-- The tokens spell the children of a program one after the other. -/
inductive Spells : List Token → Program → Prop
  | nil : Spells [] []
  | word {w : List Char} {a : Atom} {tokens : List Token} {p : Program}
      (ha : Atom.ofWord w = .ok a) (h : Spells tokens p) : Spells (.word w :: tokens) (a :: p)
  | nested {inner tokens : List Token} {q p : Program} (hq : Spells inner q)
      (h : Spells tokens p) :
      Spells (.opening :: (inner ++ .closing :: tokens)) (.program q :: p)

theorem Spells.build {tokens : List Token} {p : Program} (h : Spells tokens p)
    (current : List Atom) (outer : List (List Atom)) (more : List Token) :
    build current outer (tokens ++ more) = build (p.reverse ++ current) outer more := by
  induction h generalizing current outer more with
  | nil => rfl
  | word ha _ ih =>
    rw [List.cons_append, Program.build, ha]
    dsimp only
    rw [ih, List.reverse_cons, List.append_assoc, List.singleton_append]
  | @nested inner tokens q p _ _ ihq ih =>
    rw [List.cons_append, List.append_assoc, List.cons_append, Program.build, ihq, Program.build,
      ih, List.append_nil, List.reverse_reverse, List.reverse_cons, List.append_assoc,
      List.singleton_append]

theorem Spells.build_closing {tokens : List Token} {p : Program} (h : Spells tokens p)
    (rest : List Token) : Program.build [] [] (tokens ++ .closing :: rest) = .ok p := by
  rw [h.build, Program.build, List.append_nil, List.reverse_reverse]

/-- What can be read begins with tokens that spell atoms, and a closing parenthesis. -/
theorem exists_spells_of_build {current : List Atom} {outer : List (List Atom)}
    {tokens : List Token} {r : Program} (h : build current outer tokens = .ok r) :
    ∃ w p rest, tokens = w ++ .closing :: rest ∧ Spells w p := by
  -- Behind a nested program the reading goes on, so the induction is on the number of tokens.
  induction hn : tokens.length using Nat.strong_induction_on
    generalizing tokens current outer with
  | h n ih =>
    subst hn
    rcases tokens with _ | ⟨t, tokens⟩
    · cases h
    · have htail : tokens.length < (t :: tokens).length := Nat.lt_succ_self _
      cases t with
      | closing => exact ⟨[], [], tokens, rfl, .nil⟩
      | word v =>
        rw [build] at h
        split at h
        · rename_i a ha
          obtain ⟨w, p, rest, rfl, hw⟩ := ih _ htail h rfl
          exact ⟨.word v :: w, a :: p, rest, rfl, .word ha hw⟩
        · cases h
      | opening =>
        rw [build] at h
        obtain ⟨inner, q, behind, rfl, hq⟩ := ih _ htail h rfl
        rw [hq.build, build] at h
        have hshort : behind.length < (Token.opening :: (inner ++ .closing :: behind)).length := by
          simp only [List.length_cons, List.length_append]
          omega
        obtain ⟨w, p, rest, rfl, hw⟩ := ih _ hshort h rfl
        refine ⟨.opening :: (inner ++ .closing :: w), .program q :: p, rest, ?_, .nested hq hw⟩
        simp only [List.cons_append, List.append_assoc]

theorem Spells.unique {w w' rest rest' : List Token} {p p' : Program} (h : Spells w p)
    (h' : Spells w' p') (heq : w ++ .closing :: rest = w' ++ .closing :: rest') :
    w = w' ∧ p = p' ∧ rest = rest' := by
  induction h generalizing w' p' rest rest' with
  | nil =>
    cases h' with
    | nil =>
      cases heq
      exact ⟨rfl, rfl, rfl⟩
    | word ha h' | nested hq h' => cases heq
  | word ha _ ih =>
    cases h' with
    | nil | nested hq h' => cases heq
    | word ha' h' =>
      obtain ⟨hhead, htail⟩ := List.cons.inj heq
      cases hhead
      cases ha.symm.trans ha'
      obtain ⟨rfl, rfl, rfl⟩ := ih h' htail
      exact ⟨rfl, rfl, rfl⟩
  | nested _ _ ihq ih =>
    cases h' with
    | nil | word ha h' => cases heq
    | nested hq' h' =>
      simp only [List.append_assoc, List.cons_append, List.cons.injEq, true_and] at heq
      obtain ⟨rfl, rfl, hbehind⟩ := ihq hq' heq
      obtain ⟨rfl, rfl, rfl⟩ := ih h' hbehind
      exact ⟨rfl, rfl, rfl⟩

/-- The tokens begin with the spelling of the program and a closing parenthesis. -/
def Accepted (tokens : List Token) (p : Program) : Prop :=
  ∃ w rest, tokens = w ++ .closing :: rest ∧ Spells w p

theorem build_eq_ok_iff {tokens : List Token} {p : Program} :
    build [] [] tokens = .ok p ↔ Accepted tokens p := by
  constructor
  · intro h
    obtain ⟨w, q, rest, rfl, hw⟩ := exists_spells_of_build h
    cases (hw.build_closing rest).symm.trans h
    exact ⟨w, rest, rfl, hw⟩
  · rintro ⟨w, rest, rfl, hw⟩
    exact hw.build_closing rest

end Program

/-- Nowhere along the tokens have more parentheses been closed than opened, if `depth` of them are
open at the start. -/
def Token.Inside (depth : Nat) (tokens : List Token) : Prop :=
  ∀ start, start <+: tokens → start.count .closing ≤ depth + start.count .opening

namespace Token

theorem inside_nil (depth : Nat) : Inside depth [] := by
  intro start hstart
  rw [List.prefix_nil.mp hstart]
  exact Nat.zero_le _

theorem inside_cons {depth : Nat} {t : Token} {tokens : List Token} :
    Inside depth (t :: tokens) ↔
      ∀ start, start <+: tokens →
        (t :: start).count .closing ≤ depth + (t :: start).count .opening := by
  constructor
  · intro h start hstart
    exact h (t :: start) ((List.prefix_cons_inj t).mpr hstart)
  · intro h start hstart
    rcases List.prefix_cons_iff.mp hstart with rfl | ⟨rest, rfl, hrest⟩
    · exact Nat.zero_le _
    · exact h rest hrest

theorem inside_opening {depth : Nat} {tokens : List Token} :
    Inside depth (.opening :: tokens) ↔ Inside (depth + 1) tokens := by
  rw [inside_cons]
  refine forall₂_congr fun start _ => ?_
  rw [List.count_cons_of_ne (by decide), List.count_cons_self]
  omega

theorem inside_closing {depth : Nat} {tokens : List Token} :
    Inside (depth + 1) (.closing :: tokens) ↔ Inside depth tokens := by
  rw [inside_cons]
  refine forall₂_congr fun start _ => ?_
  rw [List.count_cons_self, List.count_cons_of_ne (by decide)]
  omega

theorem not_inside_closing {tokens : List Token} : ¬ Inside 0 (.closing :: tokens) := by
  intro h
  have hclosed := h [.closing] (List.prefix_append [.closing] tokens)
  exact absurd hclosed (by decide)

theorem inside_word {depth : Nat} {w : List Char} {tokens : List Token} :
    Inside depth (.word w :: tokens) ↔ Inside depth tokens := by
  rw [inside_cons]
  refine forall₂_congr fun start _ => ?_
  rw [List.count_cons_of_ne (by rintro ⟨⟩), List.count_cons_of_ne (by rintro ⟨⟩)]

end Token

namespace Program

/-- The first word that stands for no atom, where `depth` nested programs are open at the start and
the outermost one is not closed before it. -/
def Rejected (depth : Nat) (tokens : List Token) (w : List Char) : Prop :=
  ∃ before after, tokens = before ++ .word w :: after ∧ Token.Inside depth before ∧
    (∀ v, .word v ∈ before → ∃ a, Atom.ofWord v = .ok a) ∧ ∀ a, Atom.ofWord w ≠ .ok a

section

variable {depth : Nat} {tokens : List Token} {v w : List Char}

theorem not_rejected_nil : ¬ Rejected depth [] w := by
  rintro ⟨before, after, htokens, -⟩
  cases before <;> cases htokens

/-- A token that is no rejected word only changes how many programs are open. -/
theorem rejected_cons {depth' : Nat} {t : Token}
    (ht : ∀ v, t = .word v → ∃ a, Atom.ofWord v = .ok a)
    (hinside : ∀ before, Token.Inside depth (t :: before) ↔ Token.Inside depth' before) :
    Rejected depth (t :: tokens) w ↔ Rejected depth' tokens w := by
  constructor
  · rintro ⟨before, after, htokens, hbefore, hread, hw⟩
    rcases before with _ | ⟨u, before⟩
    · cases htokens
      obtain ⟨a, ha⟩ := ht w rfl
      exact absurd ha (hw a)
    · cases htokens
      exact ⟨before, after, rfl, (hinside before).mp hbefore,
        fun v hv => hread v (List.mem_cons_of_mem _ hv), hw⟩
  · rintro ⟨before, after, rfl, hbefore, hread, hw⟩
    refine ⟨t :: before, after, rfl, (hinside before).mpr hbefore, fun v hv => ?_, hw⟩
    rcases List.mem_cons.mp hv with heq | hv
    · exact ht v heq.symm
    · exact hread v hv

theorem rejected_opening :
    Rejected depth (.opening :: tokens) w ↔ Rejected (depth + 1) tokens w :=
  rejected_cons (by rintro v ⟨⟩) fun _ => Token.inside_opening

theorem rejected_closing :
    Rejected (depth + 1) (.closing :: tokens) w ↔ Rejected depth tokens w :=
  rejected_cons (by rintro v ⟨⟩) fun _ => Token.inside_closing

theorem not_rejected_closing : ¬ Rejected 0 (.closing :: tokens) w := by
  rintro ⟨before, after, htokens, hbefore, -⟩
  rcases before with _ | ⟨t, before⟩
  · cases htokens
  · cases htokens
    exact Token.not_inside_closing hbefore

theorem rejected_word {a : Atom} (ha : Atom.ofWord v = .ok a) :
    Rejected depth (.word v :: tokens) w ↔ Rejected depth tokens w :=
  rejected_cons (by rintro u ⟨⟩; exact ⟨a, ha⟩) fun _ => Token.inside_word

theorem rejected_self (hv : ∀ a, Atom.ofWord v ≠ .ok a) :
    Rejected depth (.word v :: tokens) w ↔ w = v := by
  constructor
  · rintro ⟨before, after, htokens, -, hread, -⟩
    rcases before with _ | ⟨t, before⟩
    · cases htokens
      rfl
    · cases htokens
      obtain ⟨a, ha⟩ := hread v List.mem_cons_self
      exact absurd ha (hv a)
  · rintro rfl
    exact ⟨[], tokens, rfl, Token.inside_nil depth, by simp, hv⟩

end

end Program

theorem Atom.ofWord_error {w : List Char} {e : ParseError} (h : Atom.ofWord w = .error e) :
    e = .invalidNumber (String.ofList w) := by
  unfold ofWord at h
  dsimp only at h
  split at h
  · cases h
  · split at h <;> cases h
    rfl

namespace Program

theorem body_of_ne {tokens : List Token} (h : ∀ rest, tokens ≠ .opening :: rest) :
    body tokens = tokens := by
  unfold body
  split
  · exact absurd rfl (h _)
  · rfl

theorem build_eq_invalidNumber_iff {current : List Atom} {outer : List (List Atom)}
    {tokens : List Token} {token : String} :
    build current outer tokens = .error (.invalidNumber token) ↔
      ∃ w, Rejected outer.length tokens w ∧ token = String.ofList w := by
  induction tokens generalizing current outer with
  | nil => simp [build, not_rejected_nil]
  | cons t tokens ih =>
    cases t with
    | opening =>
      rw [build, ih]
      simp only [rejected_opening, List.length_cons]
    | closing =>
      cases outer with
      | nil => simp [build, not_rejected_closing]
      | cons parent others =>
        rw [build, ih]
        simp only [rejected_closing, List.length_cons]
    | word v =>
      rw [build]
      cases hv : Atom.ofWord v with
      | ok a =>
        dsimp only
        rw [ih]
        simp only [rejected_word hv]
      | error e =>
        obtain rfl := Atom.ofWord_error hv
        have hreject : ∀ a, Atom.ofWord v ≠ .ok a := by simp [hv]
        simp only [rejected_self hreject, exists_eq_left, Except.error.injEq,
          ParseError.invalidNumber.injEq]
        exact eq_comm

/-- The reader accepts the texts of its grammar and no others. A parenthesis that opens the text may
be missing. What comes after the closing parenthesis has no influence, and a word that stands for no
atom wins over a missing parenthesis. -/
theorem parse_iff_grammar (text : String) :
    (∀ rest, body (.opening :: rest) = rest) ∧
    (∀ tokens, (∀ rest, tokens ≠ .opening :: rest) → body tokens = tokens) ∧
    ∃ tokens, (∀ others, Token.Lexes text.toList others ↔ others = tokens) ∧
      (∀ p, parse text = .ok p ↔ ∃ w rest, body tokens = w ++ .closing :: rest ∧ Spells w p) ∧
      (∀ w w' rest rest' p p', body tokens = w ++ .closing :: rest → Spells w p →
        body tokens = w' ++ .closing :: rest' → Spells w' p' → w = w' ∧ p = p' ∧ rest = rest') ∧
      (∀ w rest rest' p text' tokens', body tokens = w ++ .closing :: rest → Spells w p →
        Token.Lexes (String.toList text') tokens' → body tokens' = w ++ .closing :: rest' →
          parse text' = parse text) ∧
      (∀ token, parse text = .error (.invalidNumber token) ↔
        ∃ w, Rejected 0 (body tokens) w ∧ token = String.ofList w) ∧
      (parse text = .error .unclosedProgram ↔
        (∀ p, ¬ Accepted (body tokens) p) ∧ ∀ w, ¬ Rejected 0 (body tokens) w) := by
  have hok : ∀ p, parse text = .ok p ↔ Accepted (body (Token.scan text)) p :=
    fun p => build_eq_ok_iff
  have herror : ∀ token, parse text = .error (.invalidNumber token) ↔
      ∃ w, Rejected 0 (body (Token.scan text)) w ∧ token = String.ofList w :=
    fun token => build_eq_invalidNumber_iff
  refine ⟨fun rest => rfl, fun tokens => body_of_ne, Token.scan text, Token.lexes_iff text.toList,
    hok, ?_, ?_, herror, ?_⟩
  · intro w w' rest rest' p p' hbody hw hbody' hw'
    exact hw.unique hw' (hbody.symm.trans hbody')
  · intro w rest rest' p text' tokens' hbody hw htokens hbody'
    obtain rfl := (Token.lexes_iff _ _).mp htokens
    have hparse' : parse text' = .ok p := build_eq_ok_iff.mpr ⟨w, rest', hbody', hw⟩
    rw [hparse', (hok p).mpr ⟨w, rest, hbody, hw⟩]
  · constructor
    · intro h
      refine ⟨fun p hp => ?_, fun w hw => ?_⟩
      · cases h.symm.trans ((hok p).mpr hp)
      · cases h.symm.trans ((herror _).mpr ⟨w, hw, rfl⟩)
    · rintro ⟨hnone, hread⟩
      rcases hparse : parse text with e | p
      · cases e with
        | unclosedProgram => rfl
        | invalidNumber token =>
          obtain ⟨w, hw, -⟩ := (herror token).mp hparse
          exact absurd hw (hread w)
      · exact absurd ((hok p).mp hparse) (hnone p)

/-- A program with more behind it, and a word that stands for no atom where a parenthesis is missing
as well. -/
theorem parse_iff_grammar_samples :
    parse "(1 (2)) + (" = .ok [.integer 1, .program [.integer 2]] ∧
      parse "1 (+" = .error (.invalidNumber "+") := by
  constructor
  · obtain ⟨-, -, tokens, hlexes, hok, -⟩ := parse_iff_grammar "(1 (2)) + ("
    obtain rfl := (hlexes _).mp ((Token.lexes_iff _ _).mpr rfl)
    refine (hok _).mpr ⟨[.word ['1'], .opening, .word ['2'], .closing],
      [.word ['+'], .opening], by decide +kernel, ?_⟩
    exact .word rfl (.nested (.word rfl .nil) .nil)
  · obtain ⟨-, -, tokens, hlexes, -, -, -, herror, -⟩ := parse_iff_grammar "1 (+"
    obtain rfl := (hlexes _).mp ((Token.lexes_iff _ _).mpr rfl)
    have hread : ∀ v, .word v ∈ [Token.word ['1'], .opening] → ∃ a, Atom.ofWord v = .ok a := by
      intro v hv
      obtain rfl : v = ['1'] := by simpa using hv
      exact ⟨.integer 1, rfl⟩
    refine (herror "+").mpr ⟨['+'], ⟨[.word ['1'], .opening], [], by decide +kernel, ?_, hread, ?_⟩,
      rfl⟩
    · exact Token.inside_word.mpr (Token.inside_opening.mpr (Token.inside_nil 1))
    · rintro a ⟨⟩

end Program

end PushLang
