import Mathlib.Data.List.Chain
import Polyglot.Lexer.Basic
import Polyglot.Proofs.Matcher.Length
import Polyglot.Proofs.Text.Cursor

/-!
# `Polyglot.Proofs.Lexer.Tiling`: tokens tile the text

`tokenize_tiles`: the tokens of a text lie side by side and cover it. Put together, their
values are the text; none of them is empty; the first one starts at the start, every other one
where the one before it ends, and the last one ends at the end of the text.

The run is followed by `tokensFrom_tiles`, which says the same of the tokens from any cursor
on. One step of it is `tiles_cons`: a token in front of a tiling, which starts where the token
ends, gives a tiling again. What a step of a lexer has to deliver for that is in
`exists_step_token` (the token is made of the next characters) and `step_pos` (there is at
least one of them).

A match that ran past the end of the text would be cut off there, and a match that ended
inside a character would be stretched. Neither happens: `Matcher.advanceBytes_byteLength`
says that reading the bytes of a match reads exactly its characters.
-/

set_option autoImplicit false

namespace Polyglot

/-- Reading the bytes that a matcher reports reads the characters of its match: the match ends
inside the text and on the boundary of a character. So the bytes and the characters of a match never
come apart. -/
theorem Matcher.advanceBytes_byteLength (m : Matcher) (r : Cursor) :
    r.advanceBytes (m.byteLength r.behind? r.rest) = r.skip (m.length r.behind? r.rest) :=
  Cursor.advanceBytes_byteSize_take (m.length_le r.behind? r.rest)

namespace Lexer

/-! ### Tilings -/

/-- Tokens that lie side by side from a position on and cover a text. -/
structure Tiles (start : Position) (text : String) (tokens : List Token) : Prop where
  /-- The values in order are the text. -/
  join_values : String.join (tokens.map (·.value)) = text
  /-- No token is empty. -/
  value_ne_empty : ∀ token ∈ tokens, token.value ≠ ""
  /-- The first token starts at the given position. -/
  head_start : ∀ token ∈ tokens.head?, token.range.start = start
  /-- Every other token starts where the one before it ends. -/
  chain : tokens.IsChain fun s t => t.range.start = s.range.stop
  /-- The offsets of a token are as far apart as its value has bytes. -/
  stop_offset : ∀ token ∈ tokens,
    token.range.stop.offset = token.range.start.offset + token.value.utf8ByteSize
  /-- The last token ends where the text ends. -/
  last_offset : ∀ token ∈ tokens.getLast?,
    token.range.stop.offset = start.offset + text.utf8ByteSize

/-- No tokens tile the empty text. -/
theorem tiles_nil (start : Position) : Tiles start "" [] where
  join_values := rfl
  value_ne_empty := fun _ h => nomatch h
  head_start := fun _ h => nomatch h
  chain := .nil
  stop_offset := fun _ h => nomatch h
  last_offset := fun _ h => nomatch h

/-- A token in front of a tiling that starts where the token ends. The tokens behind it tile the
rest of the text from there, and with the token they tile the whole. -/
theorem tiles_cons {token : Token} {tokens : List Token} {text : String}
    (hvalue : token.value ≠ "")
    (hstop : token.range.stop.offset = token.range.start.offset + token.value.utf8ByteSize)
    (h : Tiles token.range.stop text tokens) :
    Tiles token.range.start (token.value ++ text) (token :: tokens) where
  join_values := by
    rw [List.map_cons, String.join_cons, h.join_values]
  value_ne_empty := by
    intro t ht
    rcases List.mem_cons.mp ht with rfl | ht
    · exact hvalue
    · exact h.value_ne_empty t ht
  head_start := by
    intro t ht
    obtain rfl := Option.some.inj ht
    rfl
  chain := by
    cases tokens with
    | nil => exact .singleton token
    | cons next rest =>
      exact List.isChain_cons_cons.mpr ⟨h.head_start next rfl, h.chain⟩
  stop_offset := by
    intro t ht
    rcases List.mem_cons.mp ht with rfl | ht
    · exact hstop
    · exact h.stop_offset t ht
  last_offset := by
    intro t ht
    rw [String.utf8ByteSize_append, ← Nat.add_assoc, ← hstop]
    cases tokens with
    | nil =>
      -- nothing follows, so the rest of the text is empty
      obtain rfl := Option.some.inj ht
      rw [← h.join_values]
      rfl
    | cons next rest =>
      rw [List.getLast?_cons_cons] at ht
      exact h.last_offset t ht

/-! ### Runs -/

/-- The token of a step is made of the characters that the step takes. Whether a rule made it or it
is an error makes no difference to its text and its range. -/
theorem exists_step_token (lexer : Lexer) (stack : StateStack Nat) (cursor : Cursor) :
    ∃ type category, (lexer.step stack cursor).1 =
      tokenAt cursor (lexer.step stack cursor).2.1 type category := by
  unfold step
  split
  · exact ⟨_, _, rfl⟩
  · exact ⟨_, _, rfl⟩

/-- The tokens from a cursor on tile the rest of the text, from the position of the cursor. The
induction follows the run. It holds of any cursor, exact or not, because positions are only compared
with each other. -/
theorem tokensFrom_tiles (lexer : Lexer) (stack : StateStack Nat) (cursor : Cursor) :
    Tiles cursor.position (String.ofList cursor.rest) (lexer.tokensFrom stack cursor) := by
  fun_induction lexer.tokensFrom stack cursor with
  | case1 stack cursor hend =>
    rw [hend]
    exact tiles_nil cursor.position
  | case2 stack cursor hrest next ih =>
    obtain ⟨type, category, htoken⟩ := lexer.exists_step_token stack cursor
    have hpos : 0 < next.2.1 := lexer.step_pos stack cursor
    change next.1 = tokenAt cursor next.2.1 type category at htoken
    have htaken : cursor.rest.take next.2.1 ≠ [] := by
      -- a token takes something, so the pieces are not empty
      intro h
      rcases List.take_eq_nil_iff.mp h with h | h
      · omega
      · exact hrest h
    have hvalue : next.1.value = String.ofList (cursor.rest.take next.2.1) := by rw [htoken]; rfl
    have hstart : next.1.range.start = cursor.position := by rw [htoken]; rfl
    have hstop : next.1.range.stop = (cursor.skip next.2.1).position := by rw [htoken]; rfl
    -- the text is the token and what is left behind it
    have hsplit : String.ofList cursor.rest =
        next.1.value ++ String.ofList (cursor.skip next.2.1).rest := by
      rw [hvalue, Cursor.rest_skip, ← String.ofList_append, List.take_append_drop]
    rw [hsplit, ← hstart]
    refine tiles_cons ?_ ?_ (hstop ▸ ih)
    · rw [hvalue]
      exact fun h => htaken (String.ofList_eq_empty_iff.mp h)
    · rw [hstop, hstart, hvalue, Cursor.position_skip, Position.offset_pass, utf8ByteSize_ofList]

/-- The tokens of a text tile it. Each token is a match as its rule reports it: reading the
reported bytes ends inside the text, at the end of the characters that the rule matched. -/
theorem tokenize_tiles (lexer : Lexer) (source : String) :
    Tiles ⟨1, 0, 0⟩ source (lexer.tokenize source) ∧
      ∀ (rule : Rule) (cursor : Cursor),
        rule.matcher.length cursor.behind? cursor.rest ≤ cursor.rest.length ∧
        cursor.advanceBytes (rule.matcher.byteLength cursor.behind? cursor.rest) =
          cursor.skip (rule.matcher.length cursor.behind? cursor.rest) := by
  constructor
  · have h := lexer.tokensFrom_tiles ⟨lexer.initial, []⟩ (.ofString source)
    rw [show (Cursor.ofString source).rest = source.toList from rfl, String.ofList_toList] at h
    exact h
  · intro rule cursor
    exact ⟨rule.matcher.length_le _ _, rule.matcher.advanceBytes_byteLength cursor⟩

end Lexer

end Polyglot
