import Polyglot.Lexer.Basic
import Polyglot.Proofs.Lexer.Tiling
import Polyglot.Proofs.Text.Shift

/-!
# `Polyglot.Proofs.Lexer.Places`: where the tokens of a text stand

The token at an index stands behind the values of those before it: its range runs from the
position after these values to the position after these and its own (`range_getElem?_tokenize`).
So the order of tokens by index is their order by offset and by line (`upto_of_le`), and the value
of a token is the text in its range (`spells_of_getElem?`).
-/

set_option autoImplicit false

namespace Polyglot

namespace Position

/-- A position that another one is not in front of, by bytes and by lines. -/
structure Upto (p q : Position) : Prop where
  /-- The offsets are in order. -/
  offset : p.offset ≤ q.offset
  /-- The lines are in order. -/
  line : p.line ≤ q.line

/-- One character moves forward: it adds its bytes, and it never takes the line back, also where the
count of lines has stopped. -/
theorem upto_step (p : Position) (behind : Option Char) (c : Char) :
    p.Upto (p.step behind c) where
  offset := by
    rw [offset_step]
    exact Nat.le_add_right _ _
  line := by
    unfold step
    dsimp only
    split
    · exact Nat.le_refl _
    · split
      · exact le_countUp _
      · exact Nat.le_refl _

/-- Reading on only moves forward. The induction is on the text, for any position to read on from.
-/
theorem upto_pass (p : Position) (behind : Option Char) (text : List Char) :
    p.Upto (p.pass behind text) := by
  induction text generalizing p behind with
  | nil => exact ⟨Nat.le_refl _, Nat.le_refl _⟩
  | cons c rest ih =>
    have hstep := upto_step p behind c
    have hrest := ih (p.step behind c) (some c)
    exact ⟨Nat.le_trans hstep.offset hrest.offset, Nat.le_trans hstep.line hrest.line⟩

/-- The position after a text is not behind the one after more of it. Both positions are counted
from the start, so the second one is the first one read on. -/
theorem upto_after {a b : List Char} (h : a <+: b) : (after a).Upto (after b) := by
  obtain ⟨more, rfl⟩ := h
  rw [after_append]
  exact upto_pass _ _ _

end Position

/-- A range of a source in which a text stands. -/
def Range.Spells (range : Range) (source text : String) : Prop :=
  ∃ front rest, source.toList = front ++ text.toList ++ rest ∧
    range = ⟨Position.after front, Position.after (front ++ text.toList)⟩

/-- The text of tokens. -/
def textOf (tokens : List Token) : List Char := tokens.flatMap (·.value.toList)

/-- The text of a token in front of others. -/
@[simp] theorem textOf_cons (token : Token) (tokens : List Token) :
    textOf (token :: tokens) = token.value.toList ++ textOf tokens := rfl

/-- The text of tokens and of those behind them. -/
@[simp] theorem textOf_append (front back : List Token) :
    textOf (front ++ back) = textOf front ++ textOf back :=
  List.flatMap_append

/-- More tokens have more text, and the text of the first ones stands in front. So an order of
indices turns into an order of texts from the start. -/
theorem textOf_take_of_le {tokens : List Token} {i j : Nat} (h : i ≤ j) :
    textOf (tokens.take i) <+: textOf (tokens.take j) := by
  obtain ⟨more, hmore⟩ := List.take_prefix_take_left h
  rw [← hmore, textOf_append]
  exact List.prefix_append _ _

/-- Where the token at an index stands, if the tokens stand behind a text. -/
def rangeAt (front : List Char) (tokens : List Token) (i : Nat) : Range :=
  ⟨Position.after (front ++ textOf (tokens.take i)),
    Position.after (front ++ textOf (tokens.take (i + 1)))⟩

namespace Lexer

/-- The tokens from an exact cursor on have the text that is left, and stand behind the text that
was read. The induction follows the run of the lexer. Each token takes some characters of what is
left, and the cursor behind it is exact again. -/
theorem tokensFrom_places (lexer : Lexer) (stack : StateStack Nat) (cursor : Cursor)
    (hexact : cursor.Exact) :
    textOf (lexer.tokensFrom stack cursor) = cursor.rest ∧
    ∀ (i : Nat) (token : Token), (lexer.tokensFrom stack cursor)[i]? = some token →
      token.range = rangeAt cursor.before.reverse (lexer.tokensFrom stack cursor) i := by
  fun_induction lexer.tokensFrom stack cursor with
  | case1 stack cursor hend => simp [hend, textOf]
  | case2 stack cursor hrest next ih =>
    obtain ⟨type, category, htoken⟩ := lexer.exists_step_token stack cursor
    change next.1 = tokenAt cursor next.2.1 type category at htoken
    have hnext : (cursor.skip next.2.1).Exact := Cursor.exact_skip _ hexact
    obtain ⟨htext, hplaces⟩ := ih hnext
    have hvalue : next.1.value.toList = cursor.rest.take next.2.1 := by
      rw [htoken]
      exact String.toList_ofList
    constructor
    · rw [textOf_cons, htext, hvalue, Cursor.rest_skip, List.take_append_drop]
    · intro i token hi
      cases i with
      | zero =>
        -- the token runs from the cursor to the cursor behind it, and both are exact
        obtain rfl := Option.some.inj hi
        have hrange : next.1.range = ⟨cursor.position, (cursor.skip next.2.1).position⟩ := by
          rw [htoken]
          rfl
        rw [hrange, hexact, hnext, Cursor.reverse_before_skip]
        simp [rangeAt, textOf, hvalue]
      | succ i =>
        rw [hplaces i token hi]
        simp only [rangeAt, List.take_succ_cons, textOf_cons, hvalue, Cursor.reverse_before_skip,
          List.append_assoc]

/-- The text of the tokens of a text is the text. -/
theorem textOf_tokenize (lexer : Lexer) (source : String) :
    textOf (lexer.tokenize source) = source.toList :=
  (lexer.tokensFrom_places _ _ (Cursor.exact_ofString source)).1

/-- The range of a token runs from the position after the tokens before it to the one after it. With
this, all questions about the order of tokens become questions about beginnings of the text. -/
theorem range_getElem?_tokenize {lexer : Lexer} {source : String} {i : Nat} {token : Token}
    (h : (lexer.tokenize source)[i]? = some token) :
    token.range = rangeAt [] (lexer.tokenize source) i :=
  (lexer.tokensFrom_places _ _ (Cursor.exact_ofString source)).2 i token h

/-- Tokens in the order of their indices start and end in that order. This holds of offsets and of
lines, so also of the lines of symbols and folds. -/
theorem upto_of_le {lexer : Lexer} {source : String} {i j : Nat} {s t : Token}
    (hs : (lexer.tokenize source)[i]? = some s) (ht : (lexer.tokenize source)[j]? = some t)
    (hij : i ≤ j) :
    s.range.start.Upto t.range.start ∧ s.range.start.Upto t.range.stop ∧
      s.range.stop.Upto t.range.stop := by
  rw [range_getElem?_tokenize hs, range_getElem?_tokenize ht]
  refine ⟨?_, ?_, ?_⟩
  · exact Position.upto_after (textOf_take_of_le hij)
  · exact Position.upto_after (textOf_take_of_le (Nat.le_succ_of_le hij))
  · exact Position.upto_after (textOf_take_of_le (Nat.succ_le_succ hij))

/-- A token ends where a later one starts, or in front of that. There is nothing between two tokens
that follow each other. -/
theorem upto_of_lt {lexer : Lexer} {source : String} {i j : Nat} {s t : Token}
    (hs : (lexer.tokenize source)[i]? = some s) (ht : (lexer.tokenize source)[j]? = some t)
    (hij : i < j) : s.range.stop.Upto t.range.start := by
  rw [range_getElem?_tokenize hs, range_getElem?_tokenize ht]
  exact Position.upto_after (textOf_take_of_le hij)

/-- A token has the text in its range. The parts of the text around it are the texts of the tokens
in front of it and behind it. -/
theorem spells_of_getElem? {lexer : Lexer} {source : String} {i : Nat} {token : Token}
    (h : (lexer.tokenize source)[i]? = some token) : token.range.Spells source token.value := by
  have hsucc : textOf ((lexer.tokenize source).take (i + 1)) =
      textOf ((lexer.tokenize source).take i) ++ token.value.toList := by
    rw [List.take_add_one, h, textOf_append]
    simp [textOf]
  refine ⟨textOf ((lexer.tokenize source).take i), textOf ((lexer.tokenize source).drop (i + 1)),
    ?_, ?_⟩
  · rw [← hsucc, ← textOf_append, List.take_append_drop, textOf_tokenize]
  · rw [range_getElem?_tokenize h, rangeAt, hsucc, List.nil_append, List.nil_append]

/-! ### A lexer without rules -/

/-- A lexer without rules, which cuts a text into its characters. All of them are errors, so the
stack never changes, and every place in a text is one between two tokens. -/
def characterLexer : Lexer where
  language := "characters"
  states := #[⟨"default", []⟩]
  initial := 0
  skipTypes := []
  tabWidth := none

/-- A step of the lexer without rules takes one character and leaves the stack as it is. No rule
matches anywhere, and this is what every lexer does then. -/
theorem step_characterLexer (cursor : Cursor) :
    characterLexer.step ⟨0, []⟩ cursor = (tokenAt cursor 1 errorType .error, 1, ⟨0, []⟩) := rfl

end Lexer

end Polyglot
