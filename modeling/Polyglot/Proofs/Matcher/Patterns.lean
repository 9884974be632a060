import Polyglot.Proofs.Matcher.Length
import Polyglot.Proofs.Regex.Anchoring
import Polyglot.Proofs.Regex.Soundness

/-!
# `Polyglot.Proofs.Matcher.Patterns`: matchers of regular expressions

`pattern_anchored_iff`: the patterns that are expressions in their own right, and whose matchers
take a match of that expression which begins at the cursor, are those that do not close the group
around them (`Regex.ClosesGroup`).

A pattern is put between `^(?:` and `)` as text. That ties all of it to the start of what is
searched, unless a parenthesis of the pattern ends the group: what comes behind that parenthesis
is not tied to anything, and the pattern has a parenthesis too many when it is read by itself.
`pattern_matches_further_ahead` has such a pattern, which takes characters in front of its match.
-/

set_option autoImplicit false

namespace Polyglot.Matcher

open Regex (Place)

/-- An expression with the assertion of the start in front of it is found at the start only. The
search tries every position, but the assertion holds at the first one alone. So what is found begins
at the cursor. -/
theorem search?_anchored {r : Regex} {text : List Char} {n : Nat}
    (h : (Regex.seqAll [.assert .textStart, r]).program.search? text = some n) :
    r.Matches (Place.start text) ((Place.start text).skip n) := by
  obtain ⟨s, hs, hmatch⟩ := Regex.search?_matches h
  obtain ⟨hbefore, hmatch⟩ := Regex.matches_anchored.mp hmatch
  have hn : n ≤ text.length := search?_le _ text n h
  cases s with
  | zero => exact hmatch
  | succ s =>
    -- behind the first character there is always one in front
    have hget : text[s]? = some text[s] := List.getElem?_eq_getElem (by omega)
    have hlast : ((Place.start text).skip (s + 1)).before = some text[s] := by
      show (text[s]? <|> none) = some text[s]
      rw [hget]
      rfl
    rw [hlast] at hbefore
    exact nomatch hbefore

/-- The program of a pattern that compiles. It belongs to the pattern between `^(?:` and `)`, and
not to the pattern itself. All that is said about a pattern matcher has to come back to this text.
-/
theorem compile_pattern_eq_ok {classes : Table CharClass.Spec} {regex : String} {m : Matcher}
    (h : compile classes (.pattern regex) = .ok m) :
    ∃ r, Regex.parse? (Regex.anchored regex.toList) = some r ∧ m = .pattern r.program := by
  rw [compile] at h
  cases hprogram : Regex.compile? regex with
  | none =>
    rw [hprogram] at h
    exact nomatch h
  | some program =>
    rw [hprogram] at h
    obtain ⟨r, hr, hlight⟩ := Option.bind_eq_some_iff.mp hprogram
    obtain ⟨_, -, hlight⟩ := Option.bind_eq_some_iff.mp hlight
    obtain rfl := Option.some.inj hlight
    exact ⟨r, hr, (Except.ok.inj h).symm⟩

/-- A pattern that compiles is itself an expression, and its matcher takes only matches of this
expression that begin at the cursor, exactly if the pattern does not close the group that it is put
in. If it does not, the group holds the whole expression and the assertion in front applies to all
of it. If it does, the pattern has a parenthesis too many and is no expression. -/
theorem pattern_anchored_iff {classes : Table CharClass.Spec} {regex : String} {m : Matcher}
    (h : compile classes (.pattern regex) = .ok m) :
    (∃ r, Regex.parse? regex.toList = some r ∧ ∀ behind text, 0 < m.byteLength behind text →
      ∃ n, m.byteLength behind text = byteSize (text.take n) ∧
        r.Matches (Place.start text) ((Place.start text).skip n)) ↔
    ¬ Regex.ClosesGroup regex.toList := by
  obtain ⟨anchored, hanchored, rfl⟩ := compile_pattern_eq_ok h
  constructor
  · rintro ⟨r, hr, -⟩ hcloses
    -- the pattern has a parenthesis too many and is no expression
    rw [Regex.parse?_of_closesGroup hcloses] at hr
    exact nomatch hr
  · intro hcloses
    -- the group adds nothing but the assertion
    obtain ⟨r, hr, rfl⟩ := Regex.parse?_anchored hanchored hcloses
    refine ⟨r, hr, fun behind text hpos => ?_⟩
    refine ⟨_, rfl, ?_⟩
    cases hsearch : (Regex.seqAll [.assert .textStart, r]).program.search? text with
    | none =>
      rw [byteLength, length, hsearch] at hpos
      exact absurd hpos (Nat.lt_irrefl 0)
    | some n =>
      rw [length, hsearch]
      exact search?_anchored hsearch

/-- A choice of two letters is tied to the cursor as a whole. This is what the group around the
pattern is for: without it the assertion would apply to the first letter only. -/
theorem pattern_anchored_iff_choice : ∃ m, compile {} (.pattern "a|b") = .ok m ∧
    ∃ r, Regex.parse? "a|b".toList = some r ∧ ∀ behind text, 0 < m.byteLength behind text →
      ∃ n, m.byteLength behind text = byteSize (text.take n) ∧
        r.Matches (Place.start text) ((Place.start text).skip n) := by
  have hcompile : (Regex.compile? "a|b").isSome = true := by cbv
  obtain ⟨program, hprogram⟩ := Option.isSome_iff_exists.mp hcompile
  have h : compile {} (.pattern "a|b") = .ok (.pattern program) := by
    rw [compile, hprogram]
  refine ⟨_, h, (pattern_anchored_iff h).mpr ?_⟩
  rintro ⟨inside, rest, hpattern, -⟩
  have hclosing : ')' ∈ "a|b".toList := by
    rw [hpattern]
    simp
  exact absurd hclosing (by decide)

/-- A pattern that closes the group and opens another one compiles, though it is no expression, and
takes a letter that it does not match together with one further ahead. The match is found at the
second letter. Its end is taken as the length, so the first letter is part of the token. -/
theorem pattern_matches_further_ahead : ∃ m, compile {} (.pattern "a)|(?:b") = .ok m ∧
    Regex.parse? "a)|(?:b".toList = none ∧ m.byteLength none ['x', 'b'] = 2 := by
  have hsearch : (Regex.compile? "a)|(?:b").map (·.search? ['x', 'b']) = some (some 2) := by cbv
  obtain ⟨program, hprogram, hfound⟩ := Option.map_eq_some_iff.mp hsearch
  refine ⟨.pattern program, ?_, by cbv, ?_⟩
  · rw [compile, hprogram]
  · rw [byteLength, length, hfound]
    decide

end Polyglot.Matcher
