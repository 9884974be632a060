import Mathlib.Data.List.Forall2
import Polyglot.Proofs.Lexer.Interpreter
import Polyglot.Proofs.Lexer.Places
import Polyglot.Proofs.Text.Shift

/-!
# `Polyglot.Proofs.Lexer.Locality`: lexing can be resumed

`tokenize_resumes`: what a lexer makes of a text `v` depends on what stands in front of it only
through the stack with which it comes to `v` and the one character in front. Let a run over
`u ++ v` and a run over `u' ++ v` come to `v` between two tokens, with the same stack, and let
`u` and `u'` end in the same character. From there on the two runs give the same tokens, one by
one, up to their positions, and these are shifted (`Position.Shifted`). Their lines differ by a
constant only as long as no count of lines comes to its greatest value; behind `2 ^ 32 - 2` line
feeds it does (`tokenize_resumes_many_lines`).

Both runs are followed at once. `Aligned` says that two cursors stand at the same place in `v`.
Then the same rule matches at both with the same length (`step_congr`), and after the step they
stand at the same place again (`Aligned.skip`). `tokensFrom_resumed` is the whole run.

The tokens behind a boundary are those that start at or after its offset (`tokensAfter`); these
are the ones that the run still has to make when it comes there (`tokensAfter_eq_tokensFrom`).
-/

set_option autoImplicit false

namespace Polyglot

namespace Lexer

/-! ### Boundaries -/

/-- The run over a text comes to a byte offset between two tokens, or to the start or the end of
the text, with a stack. -/
def BoundaryAt (lexer : Lexer) (source : String) (offset : Nat) (stack : StateStack Nat) : Prop :=
  ∃ cursor, lexer.Reaches source stack cursor ∧ cursor.offset = offset

/-- The tokens of a text that start at a byte offset or after it. -/
def tokensAfter (lexer : Lexer) (source : String) (offset : Nat) : List Token :=
  (lexer.tokenize source).filter fun token => offset ≤ token.range.start.offset

/-- A run stays in its text, with an exact cursor. The induction is on the steps of the run. Both
hold at the start and are kept by moving on, whatever the rules match. -/
theorem Reaches.exact_text {lexer : Lexer} {source : String} {stack : StateStack Nat}
    {cursor : Cursor} (h : lexer.Reaches source stack cursor) :
    cursor.Exact ∧ cursor.text = source.toList := by
  induction h with
  | start => exact ⟨Cursor.exact_ofString source, rfl⟩
  | step _ _ ih => exact ⟨Cursor.exact_skip _ ih.1, (Cursor.text_skip _ _).trans ih.2⟩

/-- A run that comes to the offset of a part of its text has read the part in front of it. The run
only says at which byte its cursor stands. Since the cursor is exact, that many bytes of the text
were read, and they are the bytes of the first part. -/
theorem Reaches.split {lexer : Lexer} {u v : String} {stack : StateStack Nat} {cursor : Cursor}
    (h : lexer.Reaches (u ++ v) stack cursor) (hoffset : cursor.offset = u.utf8ByteSize) :
    cursor.before.reverse = u.toList ∧ cursor.rest = v.toList := by
  obtain ⟨hexact, htext⟩ := h.exact_text
  rw [String.toList_append] at htext
  -- an exact cursor has read as many bytes as its offset says
  have hsize : byteSize cursor.before.reverse = byteSize u.toList := by
    rw [← Position.offset_after, ← utf8ByteSize_eq_byteSize, ← hoffset, Cursor.offset, hexact]
  exact append_inj_of_byteSize htext hsize

/-- Reading characters that are there moves a cursor on. This is strict, since every character has a
byte. -/
theorem offset_lt_offset_skip {cursor : Cursor} {n : Nat} (hn : 0 < n) (hrest : cursor.rest ≠ []) :
    cursor.offset < (cursor.skip n).offset := by
  have htaken : cursor.rest.take n ≠ [] := by
    intro h
    rcases List.take_eq_nil_iff.mp h with h | h
    · omega
    · exact hrest h
  have hsize : byteSize (cursor.rest.take n) ≠ 0 :=
    fun h => htaken (eq_nil_of_byteSize_eq_zero h)
  have hoffset : (cursor.skip n).offset = cursor.offset + byteSize (cursor.rest.take n) := by
    rw [Cursor.offset, Cursor.position_skip, Position.offset_pass, Cursor.offset]
  omega

/-- The token of a step starts at the cursor. -/
theorem start_step (lexer : Lexer) (stack : StateStack Nat) (cursor : Cursor) :
    (lexer.step stack cursor).1.range.start = cursor.position := by
  unfold step
  split
  · rfl
  · rfl

/-- The tokens from a cursor on start at the cursor or after it. The first one starts at the cursor,
and the run goes on from a cursor that is further behind. -/
theorem offset_le_of_mem_tokensFrom (lexer : Lexer) (stack : StateStack Nat) (cursor : Cursor) :
    ∀ token ∈ lexer.tokensFrom stack cursor, cursor.offset ≤ token.range.start.offset := by
  fun_induction lexer.tokensFrom stack cursor with
  | case1 =>
    intro token htoken
    cases htoken
  | case2 stack cursor hrest next ih =>
    have hmoved := offset_lt_offset_skip (lexer.step_pos stack cursor) hrest
    refine List.forall_mem_cons.mpr ⟨?_, fun token htoken => ?_⟩
    · exact Nat.le_of_eq (congrArg Position.offset (lexer.start_step stack cursor)).symm
    · exact Nat.le_trans (Nat.le_of_lt hmoved) (ih token htoken)

/-- The tokens of a text are those made before the run comes to a cursor, which start in front of
it, and those that are made from there on. The induction is on the steps of the run, and each of
them moves one token from the second part to the first one. -/
theorem Reaches.exists_tokenize_eq {lexer : Lexer} {source : String} {stack : StateStack Nat}
    {cursor : Cursor} (h : lexer.Reaches source stack cursor) :
    ∃ made, lexer.tokenize source = made ++ lexer.tokensFrom stack cursor ∧
      ∀ token ∈ made, token.range.start.offset < cursor.offset := by
  induction h with
  | start => exact ⟨[], rfl, fun _ h => nomatch h⟩
  | @step stack cursor _ hrest ih =>
    obtain ⟨made, htokens, hmade⟩ := ih
    have hmoved := offset_lt_offset_skip (lexer.step_pos stack cursor) hrest
    -- one more token is made, and it starts where the cursor stood before the step
    refine ⟨made ++ [(lexer.step stack cursor).1], ?_, ?_⟩
    · rw [htokens, List.append_assoc, List.singleton_append]
      conv => lhs; rw [tokensFrom, dif_neg hrest]
    · intro token htoken
      rcases List.mem_append.mp htoken with htoken | htoken
      · exact Nat.lt_trans (hmade token htoken) hmoved
      · obtain rfl := List.mem_singleton.mp htoken
        rw [lexer.start_step]
        exact hmoved

/-- The tokens behind a boundary are those that are made from there on. So what the lexer answers
behind an offset can be told from the stack and the cursor alone, and the tokens in front need not
be looked at. -/
theorem Reaches.tokensAfter_eq_tokensFrom {lexer : Lexer} {source : String}
    {stack : StateStack Nat} {cursor : Cursor} (h : lexer.Reaches source stack cursor) :
    lexer.tokensAfter source cursor.offset = lexer.tokensFrom stack cursor := by
  obtain ⟨made, htokens, hmade⟩ := h.exists_tokenize_eq
  have hfront : made.filter (fun token => cursor.offset ≤ token.range.start.offset) = [] := by
    refine List.filter_eq_nil_iff.mpr fun token htoken hle => ?_
    exact Nat.not_lt.mpr (of_decide_eq_true hle) (hmade token htoken)
  have hbehind : (lexer.tokensFrom stack cursor).filter
      (fun token => cursor.offset ≤ token.range.start.offset) =
        lexer.tokensFrom stack cursor :=
    List.filter_eq_self.mpr fun token htoken =>
      decide_eq_true (lexer.offset_le_of_mem_tokensFrom stack cursor token htoken)
  rw [tokensAfter, htokens, List.filter_append, hfront, hbehind, List.nil_append]

/-! ### Two runs -/

/-- Two cursors that stand at the same place in a text `v`, which follows `u` in the one text
and `u'` in the other. `front` is the part of `v` that both have read. -/
structure Aligned (u u' v : String) (front : List Char) (c c' : Cursor) : Prop where
  /-- What the first cursor has read. -/
  before : c.before.reverse = u.toList ++ front
  /-- What the second cursor has read. -/
  before' : c'.before.reverse = u'.toList ++ front
  /-- What is still there. -/
  rest : v.toList = front ++ c.rest
  /-- The same is there for both. -/
  rest_eq : c'.rest = c.rest
  /-- The position of the first cursor is the one after what it has read. -/
  exact : c.Exact
  /-- The position of the second cursor is the one after what it has read. -/
  exact' : c'.Exact

namespace Aligned

variable {u u' v : String} {front : List Char} {c c' : Cursor}

/-- Cursors that read the same number of characters stay at the same place. They read the same
characters too, as the same rest is in front of them. -/
theorem skip (h : Aligned u u' v front c c') (n : Nat) :
    Aligned u u' v (front ++ c.rest.take n) (c.skip n) (c'.skip n) where
  before := by rw [Cursor.reverse_before_skip, h.before, List.append_assoc]
  before' := by rw [Cursor.reverse_before_skip, h.before', h.rest_eq, List.append_assoc]
  rest := by rw [Cursor.rest_skip, List.append_assoc, List.take_append_drop, h.rest]
  rest_eq := by rw [Cursor.rest_skip, Cursor.rest_skip, h.rest_eq]
  exact := Cursor.exact_skip n h.exact
  exact' := Cursor.exact_skip n h.exact'

/-- The same character is in front of both cursors. Matchers for words look at it, so without the
condition on the last characters of `u` and `u'` the first token could differ. -/
theorem behind_eq (h : Aligned u u' v front c c')
    (hlast : u.toList.getLast? = u'.toList.getLast?) : c'.behind? = c.behind? := by
  have hbehind : ∀ r : Cursor, r.behind? = r.before.reverse.getLast? := by
    intro r
    rw [List.getLast?_reverse]
    rfl
  -- it is the last one of `front`, or else the one in which `u` and `u'` end
  rw [hbehind, hbehind, h.before, h.before', List.getLast?_append, List.getLast?_append, hlast]

/-- The positions of the cursors are shifted. -/
theorem shifted (h : Aligned u u' v front c c')
    (hlast : u.toList.getLast? = u'.toList.getLast?) :
    Position.Shifted u u' v c.position c'.position := by
  rw [h.exact, h.exact', h.before, h.before']
  exact Position.shifted_after hlast h.rest

end Aligned

/-- Two tokens that are the same up to where the text around them stands. -/
structure Resumed (u u' v : String) (t t' : Token) : Prop where
  /-- The types are the same. -/
  type : t'.type = t.type
  /-- The texts are the same. -/
  value : t'.value = t.value
  /-- The categories are the same. -/
  category : t'.category = t.category
  /-- The starts are shifted. -/
  start : Position.Shifted u u' v t.range.start t'.range.start
  /-- The ends are shifted. -/
  stop : Position.Shifted u u' v t.range.stop t'.range.stop

/-- A step depends on the stack, the rest of the text and the character in front of it. It does not
depend on anything else that was read. The position only enters into the range of the token. -/
theorem step_congr (lexer : Lexer) (stack : StateStack Nat) {c c' : Cursor}
    (hrest : c'.rest = c.rest) (hbehind : c'.behind? = c.behind?) :
    ∃ n type category next,
      lexer.step stack c = (tokenAt c n type category, n, next) ∧
      lexer.step stack c' = (tokenAt c' n type category, n, next) := by
  have hmatch : firstMatch? (lexer.rulesOf stack.current) c' =
      firstMatch? (lexer.rulesOf stack.current) c := by
    unfold firstMatch?
    rw [hrest, hbehind]
  unfold step
  rw [hmatch]
  split
  · exact ⟨_, _, _, _, rfl, rfl⟩
  · exact ⟨_, _, _, _, rfl, rfl⟩

/-- Runs from the same place with the same stack give the same tokens up to their positions. The
induction follows the first run. By `step_congr` the second one makes the same step, and both
cursors read on by the same number of characters. -/
theorem tokensFrom_resumed (lexer : Lexer) {u u' v : String}
    (hlast : u.toList.getLast? = u'.toList.getLast?) (stack : StateStack Nat) (c c' : Cursor)
    (front : List Char) (h : Aligned u u' v front c c') :
    List.Forall₂ (Resumed u u' v) (lexer.tokensFrom stack c) (lexer.tokensFrom stack c') := by
  fun_induction lexer.tokensFrom stack c generalizing c' front with
  | case1 stack c hend =>
    rw [tokensFrom, dif_pos (h.rest_eq.trans hend)]
    exact .nil
  | case2 stack c hrest next ih =>
    have hrest' : c'.rest ≠ [] := fun h' => hrest (h.rest_eq.symm.trans h')
    obtain ⟨n, type, category, stack', hstep, hstep'⟩ :=
      lexer.step_congr stack h.rest_eq (h.behind_eq hlast)
    -- both runs take `n` characters, so the cursors after the step are at one place again
    have hnext : next = (tokenAt c n type category, n, stack') := hstep
    rw [hnext] at ih ⊢
    rw [tokensFrom.eq_def lexer stack c', dif_neg hrest', hstep']
    refine .cons ?_ (ih _ _ (h.skip n))
    exact {
      type := rfl
      value := by
        show String.ofList (c'.rest.take n) = String.ofList (c.rest.take n)
        rw [h.rest_eq]
      category := rfl
      start := h.shifted hlast
      stop := (h.skip n).shifted hlast }

/-- Two runs that come to the same text with the same stack and behind the same character go on
with the same tokens, and with shifted positions. -/
theorem tokenize_resumes (lexer : Lexer) (u u' v : String) (stack : StateStack Nat)
    (h : lexer.BoundaryAt (u ++ v) u.utf8ByteSize stack)
    (h' : lexer.BoundaryAt (u' ++ v) u'.utf8ByteSize stack)
    (hlast : u.toList.getLast? = u'.toList.getLast?) :
    List.Forall₂ (Resumed u u' v) (lexer.tokensAfter (u ++ v) u.utf8ByteSize)
      (lexer.tokensAfter (u' ++ v) u'.utf8ByteSize) := by
  obtain ⟨c, hreaches, hoffset⟩ := h
  obtain ⟨c', hreaches', hoffset'⟩ := h'
  obtain ⟨hbefore, hrest⟩ := hreaches.split hoffset
  obtain ⟨hbefore', hrest'⟩ := hreaches'.split hoffset'
  have haligned : Aligned u u' v [] c c' := {
    before := by rw [hbefore, List.append_nil]
    before' := by rw [hbefore', List.append_nil]
    rest := by rw [hrest, List.nil_append]
    rest_eq := hrest'.trans hrest.symm
    exact := hreaches.exact_text.1
    exact' := hreaches'.exact_text.1 }
  rw [← hoffset, ← hoffset', hreaches.tokensAfter_eq_tokensFrom,
    hreaches'.tokensAfter_eq_tokensFrom]
  exact lexer.tokensFrom_resumed hlast stack c c' [] haligned

/-- A state that is switched to on a bracket, and a keyword behind line breaks of two texts. The
second text has one line break more, so all tokens behind it are one line further. -/
theorem tokenize_resumes_keyword :
    ∃ lexer : Lexer, lexer = {
        language := "sample"
        states := #[
          ⟨"outer", [⟨.literal [['(']], "open", .punctuation, false, some 1, none⟩]⟩,
          ⟨"inner", [⟨.keywords [['i', 'f']], "keyword", .keyword, false, none, none⟩]⟩]
        initial := 0
        skipTypes := []
        tabWidth := none } ∧
      lexer.BoundaryAt ("(\n" ++ "if\nif") 2 ⟨1, []⟩ ∧
      lexer.BoundaryAt ("x(\n\n" ++ "if\nif") 4 ⟨1, []⟩ ∧
      List.Forall₂ (Resumed "(\n" "x(\n\n" "if\nif")
        (lexer.tokensAfter ("(\n" ++ "if\nif") 2)
        (lexer.tokensAfter ("x(\n\n" ++ "if\nif") 4) ∧
      List.Forall₂ (fun t t' : Token => (t'.range.start.line : Int) - t.range.start.line = 1)
        (lexer.tokensAfter ("(\n" ++ "if\nif") 2)
        (lexer.tokensAfter ("x(\n\n" ++ "if\nif") 4) := by
  refine ⟨_, rfl, ?h, ?h', tokenize_resumes _ "(\n" "x(\n\n" "if\nif" ⟨1, []⟩ ?h ?h' rfl,
    (tokenize_resumes _ "(\n" "x(\n\n" "if\nif" ⟨1, []⟩ ?h ?h' rfl).imp ?lines⟩
  case h => exact ⟨_, .step (.step .start (by decide)) (by decide), rfl⟩
  case h' =>
    exact ⟨_, .step (.step (.step (.step .start (by decide)) (by decide)) (by decide))
      (by decide), rfl⟩
  case lines =>
    intro t t' hresumed
    exact hresumed.start.line (by decide) (by decide)

/-! ### Texts with too many lines -/

/-- The lexer without rules comes to every place of a text with the stack that it started with. The
induction is on the number of characters in front of the place, as it takes one of them in each
step. -/
theorem boundaryAt_characterLexer (u v : String) :
    characterLexer.BoundaryAt (u ++ v) u.utf8ByteSize ⟨0, []⟩ := by
  have hrun : ∀ n, n ≤ u.length → ∃ cursor, characterLexer.Reaches (u ++ v) ⟨0, []⟩ cursor ∧
      cursor.before.reverse = u.toList.take n := by
    intro n
    induction n with
    | zero => exact fun _ => ⟨_, .start, rfl⟩
    | succ n ih =>
      intro hn
      obtain ⟨cursor, hreaches, hbefore⟩ := ih (by omega)
      have hlt : n < u.toList.length := by
        rw [String.length_toList]
        omega
      -- what is left starts with the next character of `u`
      have hrest : cursor.rest = u.toList.drop n ++ v.toList := by
        have htext := hreaches.exact_text.2
        rw [Cursor.text, hbefore, String.toList_append] at htext
        conv at htext => rhs; rw [← List.take_append_drop n u.toList, List.append_assoc]
        exact List.append_cancel_left htext
      have hdrop : u.toList.drop n = u.toList[n] :: u.toList.drop (n + 1) :=
        List.drop_eq_getElem_cons hlt
      rw [hdrop, List.cons_append] at hrest
      refine ⟨_, hreaches.step (by rw [hrest]; exact List.cons_ne_nil _ _), ?_⟩
      rw [step_characterLexer, Cursor.reverse_before_skip, hbefore, hrest]
      exact List.take_concat_get' _ _ hlt
  obtain ⟨cursor, hreaches, hbefore⟩ := hrun u.length (Nat.le_refl _)
  refine ⟨cursor, hreaches, ?_⟩
  rw [← String.length_toList, List.take_length] at hbefore
  rw [Cursor.offset, hreaches.exact_text.1, hbefore, Position.offset_after,
    utf8ByteSize_eq_byteSize]

/-- A line feed behind a text is one token for the lexer without rules. The text may be of any
length: its tokens are not computed, since only the boundary behind them is needed. -/
theorem tokensAfter_characterLexer_feed (u : String) :
    characterLexer.tokensAfter (u ++ "\n") u.utf8ByteSize =
      [⟨errorType, "\n", .error,
        ⟨Position.after u.toList, Position.after (u.toList ++ ['\n'])⟩⟩] := by
  obtain ⟨cursor, hreaches, hoffset⟩ := boundaryAt_characterLexer u "\n"
  obtain ⟨hbefore, hrest⟩ := hreaches.split hoffset
  have hexact := hreaches.exact_text.1
  have hrest : cursor.rest = ['\n'] := hrest
  have hnext : (cursor.skip 1).position = Position.after (u.toList ++ ['\n']) := by
    rw [Cursor.exact_skip 1 hexact, Cursor.reverse_before_skip, hbefore, hrest]
    rfl
  have hend : (cursor.skip 1).rest = [] := by
    rw [Cursor.rest_skip, hrest]
    rfl
  rw [← hoffset, hreaches.tokensAfter_eq_tokensFrom, tokensFrom, dif_neg (by simp [hrest]),
    step_characterLexer]
  dsimp only
  rw [tokensFrom, dif_pos hend, tokenAt, hrest, hnext, hexact, hbefore]
  rfl

/-- Behind `2 ^ 32 - 2` line feeds the count of lines has come to its greatest value, and one more
line feed leaves it there. Behind a single line feed the same text goes on to the next line. So the
lines of the two tokens do not differ like those in front of them. -/
theorem tokenize_resumes_many_lines :
    let u := String.ofList (List.replicate (2 ^ 32 - 2) '\n')
    characterLexer.BoundaryAt (u ++ "\n") u.utf8ByteSize ⟨0, []⟩ ∧
      characterLexer.BoundaryAt ("\n" ++ "\n") "\n".utf8ByteSize ⟨0, []⟩ ∧
      u.toList.getLast? = "\n".toList.getLast? ∧
      ¬ List.Forall₂ (fun t t' : Token => (t'.range.stop.line : Int) - t.range.stop.line =
          (Position.after "\n".toList).line - (Position.after u.toList).line)
        (characterLexer.tokensAfter (u ++ "\n") u.utf8ByteSize)
        (characterLexer.tokensAfter ("\n" ++ "\n") "\n".utf8ByteSize) := by
  intro u
  have hu : u.toList = List.replicate (2 ^ 32 - 2) '\n' := String.toList_ofList
  have hnext : u.toList ++ ['\n'] = List.replicate (2 ^ 32 - 2 + 1) '\n' := by
    rw [hu, List.replicate_succ']
  refine ⟨boundaryAt_characterLexer u _, boundaryAt_characterLexer "\n" _, ?_, ?_⟩
  · rw [hu, List.getLast?_replicate]
    rfl
  · rw [tokensAfter_characterLexer_feed, tokensAfter_characterLexer_feed]
    intro h
    obtain ⟨hlines, -⟩ := List.forall₂_cons.mp h
    have hline : (Position.after u.toList).line = 2 ^ 32 - 1 := by
      -- the count stops here, and the next line feed does not move it
      rw [Position.line_after, hu, Position.line_declared_feeds]
      rfl
    have hline' : (Position.after (u.toList ++ ['\n'])).line = 2 ^ 32 - 1 := by
      rw [Position.line_after, hnext, Position.line_declared_feeds]
      rfl
    have hthree : (Position.after ("\n".toList ++ ['\n'])).line = 3 := rfl
    have htwo : (Position.after "\n".toList).line = 2 := rfl
    dsimp only at hlines
    rw [hline, hline', hthree, htwo] at hlines
    exact absurd hlines (by decide)

end Lexer

end Polyglot
