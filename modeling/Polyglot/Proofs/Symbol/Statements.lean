import Mathlib
import Polyglot.Proofs.Symbol.Extents
import Polyglot.Proofs.Symbol.Scan

/-!
# `Polyglot.Proofs.Symbol.Statements`: where statements end

`statementEnd_extent`: a statement that goes on behind a token ends at the first token outside of
its brackets that closes a bracket, is a semicolon or breaks the line (`Extent.EndsStatement`). A
semicolon belongs to the statement; in front of the other two the statement ends with the last token
that is not passed over.

Whether a token is outside of the brackets is said by a sum over the tokens in front of it
(`Extent.depthAt`), in which every opening bracket counts one and every closing bracket takes one
away, of whatever kind. The scan counts in natural numbers and stops where it would have to take
one away from zero. So as far as the scan goes its count is the sum (`StatementScan.depth_eq`), and
the sum is never negative there. Tokens that are passed over count as brackets too: they move the
depth but not the end.
-/

set_option autoImplicit false

namespace Polyglot

namespace Extent

/-- What a text adds to the number of open brackets. -/
def bracketWeight (value : String) : Int :=
  if isOpening value then 1 else if isClosing value then -1 else 0

/-- The number of brackets that are open in front of the token at an index, counted from behind
token `last`. -/
def depthAt (x : Extent) (last index : Nat) : Int :=
  (((x.tokens.toList.take index).drop (last + 1)).map fun t => bracketWeight t.value).sum

/-- A token that ends a statement outside of its brackets: a closing bracket, a semicolon, or a
token that breaks the line and is no opening bracket. -/
def Terminates (token : Token) : Prop :=
  isClosing token.value = true ∨ token.value = ";" ∨
    isOpening token.value = false ∧ isLineBreak token = true

/-- A token that ends a statement which goes on behind token `last`. -/
structure EndsStatement (x : Extent) (last index : Nat) : Prop where
  /-- It stands behind token `last`. -/
  last_lt : last < index
  /-- It is outside of the brackets of the statement. -/
  depth : x.depthAt last index = 0
  /-- It ends statements there. -/
  token : ∃ token, x.tokens[index]? = some token ∧ Terminates token

/-- How far a statement goes that goes on behind token `last`: `limit` is the token that ends it,
or the number of tokens, and `stop` is its last token. -/
structure StatementExtent (x : Extent) (last limit stop : Nat) : Prop where
  /-- The limit is the first token that ends the statement. -/
  isFirst : x.FirstOrSize (x.EndsStatement last) limit
  /-- A semicolon belongs to the statement. -/
  semicolon : ∀ token, x.tokens[limit]? = some token → token.value = ";" → stop = limit
  /-- In front of anything else the statement ends with the last token that is not passed over. -/
  lastKept : (∀ token, x.tokens[limit]? = some token → token.value ≠ ";") →
    x.LastKept last limit stop
  /-- No more brackets are closed than were opened. -/
  depth_nonneg : ∀ index, last < index → index ≤ limit → 0 ≤ x.depthAt last index

variable {x : Extent} {last depth stop index : Nat} {token : Token} {rest : List Token}

/-! ### Brackets -/

/-- Opening brackets are neither closing brackets nor semicolons. So the order in which the scan
asks for these three does not matter. -/
theorem isClosing_of_isOpening {value : String} (h : isOpening value = true) :
    isClosing value = false ∧ value ≠ ";" := by
  simp only [isOpening, Bool.or_eq_true, beq_iff_eq] at h
  rcases h with (rfl | rfl) | rfl
  · decide
  · decide
  · decide

/-- Closing brackets are no semicolons. -/
theorem ne_semicolon_of_isClosing {value : String} (h : isClosing value = true) : value ≠ ";" := by
  rintro rfl
  cases h

/-- Directly behind token `last` no bracket is open. The tokens of the pattern do not count, even if
it ends inside of brackets. -/
theorem depthAt_self (x : Extent) (last : Nat) : x.depthAt last (last + 1) = 0 := by
  have hnone : (x.tokens.toList.take (last + 1)).drop (last + 1) = [] :=
    List.drop_eq_nil_iff.mpr (List.length_take_le _ _)
  rw [depthAt, hnone]
  rfl

/-- A token adds its weight to the depth. A token that is passed over counts like any other; in
practice comments and blanks are no brackets, so they add nothing. -/
theorem depthAt_succ (hlast : last < index) (htoken : x.tokens[index]? = some token) :
    x.depthAt last (index + 1) = x.depthAt last index + bracketWeight token.value := by
  have hsize := (Array.getElem?_eq_some_iff.mp htoken).1
  have hlength : last + 1 ≤ (x.tokens.toList.take index).length := by
    rw [List.length_take, Array.length_toList]
    omega
  rw [← Array.getElem?_toList] at htoken
  rw [depthAt, List.take_add_one, htoken, List.drop_append_of_le_length hlength, List.map_append,
    List.sum_append]
  simp [depthAt]

/-! ### The scan -/

/-- What the scan does with a token. If no bracket is open and the token ends statements there, the
end is the token itself, if that is a semicolon, or else the end so far. Otherwise the weight of the
token is added to the count, and the scan goes on behind it. -/
theorem statementFrom_cases (x : Extent) (depth stop index : Nat) (token : Token)
    (rest : List Token) :
    ((depth = 0 ∧ Terminates token) ∧ token.value = ";" ∧
      x.statementFrom depth stop index (token :: rest) = index) ∨
    ((depth = 0 ∧ Terminates token) ∧ token.value ≠ ";" ∧
      x.statementFrom depth stop index (token :: rest) = stop) ∨
    (¬ (depth = 0 ∧ Terminates token) ∧ ∃ depth' : Nat,
      depth + bracketWeight token.value = depth' ∧
      x.statementFrom depth stop index (token :: rest) =
        x.statementFrom depth' (if x.isSkipped token then stop else index) (index + 1) rest) := by
  unfold Terminates bracketWeight
  rw [statementFrom]
  by_cases hopening : isOpening token.value = true
  · obtain ⟨hclosing, hsemicolon⟩ := isClosing_of_isOpening hopening
    refine .inr (.inr ⟨?_, depth + 1, ?_, ?_⟩)
    · simp [hopening, hclosing, hsemicolon]
    · simp [hopening]
    · simp [hopening]
  · by_cases hclosing : isClosing token.value = true
    · have hsemicolon := ne_semicolon_of_isClosing hclosing
      by_cases hdepth : depth = 0
      · exact .inr (.inl ⟨⟨hdepth, .inl hclosing⟩, hsemicolon, by simp [hopening, hclosing, hdepth]⟩)
      · -- one of the brackets that were opened is closed
        refine .inr (.inr ⟨fun hends => hdepth hends.1, depth - 1, ?_, ?_⟩)
        · simp only [hopening, hclosing, if_true, Bool.false_eq_true, if_false]
          omega
        · simp [hopening, hclosing, hdepth]
    · -- any other token leaves the count as it is
      by_cases hsemicolon : token.value = ";" ∧ depth = 0
      · refine .inl ⟨⟨hsemicolon.2, .inr (.inl hsemicolon.1)⟩, hsemicolon.1, ?_⟩
        simp [hsemicolon, isOpening, isClosing]
      · by_cases hbreak : depth = 0 ∧ isLineBreak token = true
        · have hne : token.value ≠ ";" := fun heq => hsemicolon ⟨heq, hbreak.1⟩
          have hterm : Terminates token := .inr (.inr ⟨by simpa using hopening, hbreak.2⟩)
          exact .inr (.inl ⟨⟨hbreak.1, hterm⟩, hne, by simp [hopening, hclosing, hne, hbreak]⟩)
        · refine .inr (.inr ⟨?_, depth, ?_, ?_⟩)
          · rintro ⟨hdepth, hkind | hkind | hkind⟩
            · exact hclosing hkind
            · exact hsemicolon ⟨hkind, hdepth⟩
            · exact hbreak ⟨hdepth, hkind.2⟩
          · simp [hopening, hclosing]
          · simp [hopening, hclosing, hsemicolon, hbreak]

/-- The scan for the end of a statement in its middle: it counts the brackets that are open, and
has never closed more brackets than were opened. -/
structure StatementScan (x : Extent) (last depth stop index : Nat) (rest : List Token) : Prop
    extends x.Scan (x.EndsStatement last) last stop index rest where
  /-- The count is the number of open brackets. -/
  depth_eq : x.depthAt last index = depth
  /-- That number was never negative. -/
  depth_nonneg : ∀ i, last < i → i ≤ index → 0 ≤ x.depthAt last i

namespace StatementScan

/-- A token that does not end the statement leads on to the next one, with its weight added to the
count. The count is a natural number while the depth is an integer. So that the new count exists is
part of the hypotheses, and it says that the depth stays at zero or above. -/
theorem next (h : x.StatementScan last depth stop index (token :: rest)) {depth' : Nat}
    (hnot : ¬ x.EndsStatement last index) (hdepth : depth + bracketWeight token.value = depth') :
    x.StatementScan last depth' (if x.isSkipped token then stop else index) (index + 1) rest where
  toScan := h.toScan.next hnot
  depth_eq := by rw [depthAt_succ h.last_lt h.token_eq, h.depth_eq, hdepth]
  depth_nonneg := by
    intro i hlast hi
    rcases Nat.le_succ_iff.mp hi with hi | rfl
    · exact h.depth_nonneg i hlast hi
    · rw [depthAt_succ h.last_lt h.token_eq, h.depth_eq, hdepth]
      omega

/-- The next token ends the statement if the count is zero and it ends statements there. The scan
only looks at its count and at the token, and `EndsStatement` is about all tokens behind `last`. The
invariant is what connects the two. -/
theorem endsStatement_iff (h : x.StatementScan last depth stop index (token :: rest)) :
    x.EndsStatement last index ↔ depth = 0 ∧ Terminates token := by
  have hcount : x.depthAt last index = 0 ↔ depth = 0 := by
    rw [h.depth_eq]
    omega
  constructor
  · rintro ⟨-, hdepth, token', htoken, hterm⟩
    obtain rfl := Option.some.inj (h.token_eq.symm.trans htoken)
    exact ⟨hcount.mp hdepth, hterm⟩
  · rintro ⟨hdepth, hterm⟩
    exact ⟨h.last_lt, hcount.mpr hdepth, token, h.token_eq, hterm⟩

/-- Where the scan comes to a token that ends the statement and is no semicolon, the end so far is
the end. A closing bracket belongs to what is around the statement, and a line break to nothing. -/
theorem extent_of_ne (h : x.StatementScan last depth stop index (token :: rest))
    (hends : x.EndsStatement last index) (hne : token.value ≠ ";") :
    x.StatementExtent last index stop where
  isFirst := h.firstOrSize hends
  semicolon := by
    intro token' htoken heq
    obtain rfl := Option.some.inj (h.token_eq.symm.trans htoken)
    exact absurd heq hne
  lastKept := fun _ => h.lastKept
  depth_nonneg := h.depth_nonneg

/-- Where the scan comes to a semicolon that ends the statement, this is the end. It is so even if
tokens with that type are passed over, since the scan asks for the text first. -/
theorem extent_of_semicolon (h : x.StatementScan last depth stop index (token :: rest))
    (hends : x.EndsStatement last index) (heq : token.value = ";") :
    x.StatementExtent last index index where
  isFirst := h.firstOrSize hends
  semicolon := fun _ _ _ => rfl
  lastKept := fun hne => absurd heq (hne token h.token_eq)
  depth_nonneg := h.depth_nonneg

/-- Where no tokens are left, the end so far is the end. The statement is then open, and it goes to
the last token of the text that is not passed over. -/
theorem extent_of_nil (h : x.StatementScan last depth stop index []) :
    x.StatementExtent last x.tokens.size stop := by
  have hsize : ∀ i, x.EndsStatement last i → i < x.tokens.size := by
    rintro i ⟨-, -, token, htoken, -⟩
    exact (Array.getElem?_eq_some_iff.mp htoken).1
  obtain ⟨hlimit, hlastKept⟩ := h.finish hsize
  refine ⟨hlimit, fun token htoken => ?_, fun _ => hlastKept, fun i hi hle => ?_⟩
  · have hbound := (Array.getElem?_eq_some_iff.mp htoken).1
    omega
  · exact h.depth_nonneg i hi (Nat.le_trans hle h.size_le)

end StatementScan

/-- A scan in its middle finds the extent of the statement. The induction is on the tokens that are
left, with the invariant for any count and any end so far, and its three cases are those of
`statementFrom_cases`. -/
theorem exists_extent_statementFrom (h : x.StatementScan last depth stop index rest) :
    ∃ limit, x.StatementExtent last limit (x.statementFrom depth stop index rest) := by
  induction rest generalizing depth stop index with
  | nil => exact ⟨_, h.extent_of_nil⟩
  | cons token rest ih =>
    rcases x.statementFrom_cases depth stop index token rest with
      ⟨hends, heq, hrun⟩ | ⟨hends, hne, hrun⟩ | ⟨hnot, depth', hdepth, hrun⟩
    · rw [hrun]
      exact ⟨index, h.extent_of_semicolon (h.endsStatement_iff.mpr hends) heq⟩
    · rw [hrun]
      exact ⟨index, h.extent_of_ne (h.endsStatement_iff.mpr hends) hne⟩
    · rw [hrun]
      exact ih (h.next (fun hends => hnot (h.endsStatement_iff.mp hends)) hdepth)

/-- A scan starts directly behind token `last`, where no bracket is open and nothing was passed yet.
-/
theorem statementScan_start (x : Extent) (last : Nat) :
    x.StatementScan last 0 last (last + 1) (x.tokens.toList.drop (last + 1)) where
  toScan := scan_start fun _ hends => hends.last_lt
  depth_eq := x.depthAt_self last
  depth_nonneg := by
    intro i hlast hi
    obtain rfl : i = last + 1 := by omega
    rw [depthAt_self]

/-- A statement that goes on behind a token has the extent that `StatementExtent` says, and its last
token lies between that token and the limit. -/
theorem statementEnd_extent (x : Extent) {last : Nat} (hlast : last < x.tokens.size) :
    ∃ limit, x.StatementExtent last limit (x.statementEnd last) ∧
      last ≤ x.statementEnd last ∧ x.statementEnd last ≤ limit := by
  obtain ⟨limit, hextent⟩ := exists_extent_statementFrom (x.statementScan_start last)
  change x.StatementExtent last limit (x.statementEnd last) at hextent
  have hbehind : last < limit := by
    rcases hextent.isFirst with hleast | ⟨rfl, -⟩
    · exact hleast.1.last_lt
    · exact hlast
  refine ⟨limit, hextent, (statementEnd_bounds hlast).1, ?_⟩
  by_cases hsemicolon : ∃ token, x.tokens[limit]? = some token ∧ token.value = ";"
  · obtain ⟨token, htoken, heq⟩ := hsemicolon
    exact Nat.le_of_eq (hextent.semicolon token htoken heq)
  · have hkept := hextent.lastKept fun token htoken heq => hsemicolon ⟨token, htoken, heq⟩
    rcases hkept.cases with heq | ⟨-, hlt, -⟩
    · omega
    · omega

/-- A semicolon and a line break inside of brackets, and then a bracket from outside with a blank in
front of it: the statement ends with the word between them. -/
theorem statementEnd_extent_brackets :
    ∃ x : Extent, x = { (default : Extent) with
        tokens := #[⟨"word", "let", .keyword, {}⟩, ⟨"mark", "(", .punctuation, {}⟩,
          ⟨"mark", ";", .punctuation, {}⟩, ⟨"break", "\n", .newline, {}⟩,
          ⟨"mark", ")", .punctuation, {}⟩, ⟨"word", "x", .identifier, {}⟩,
          ⟨"blank", " ", .whitespace, {}⟩, ⟨"mark", "\x7d", .punctuation, {}⟩]
        skipTypes := ["blank", "break"] } ∧
      0 < x.tokens.size ∧ x.statementEnd 0 = 5 ∧
      ∃ limit, x.StatementExtent 0 limit 5 ∧ 5 ≤ limit := by
  refine ⟨_, rfl, ?hlast, ?_, (statementEnd_extent _ ?hlast).imp fun limit h => ⟨h.1, h.2.2⟩⟩
  case hlast => decide
  · decide

end Extent

end Polyglot
