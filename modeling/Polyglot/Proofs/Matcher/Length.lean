import Polyglot.Matcher.Basic

/-!
# `Polyglot.Proofs.Matcher.Length`: a match lies inside the text

`Matcher.length_le`: whatever its kind, a matcher never takes more characters than the text
has. Each kind has its own reason. A literal is taken where it is a prefix; a region ends with
a closing text that is there; a run of digits is counted along the text; the parts of a
sequence are each inside what the parts before them left; and the search for an expression
only reports positions that its threads have reached.

`Matcher.length` and `Matcher.sequenceLength?` are one `mutual` group, so the two bounds are
proved together, by recursion on the matcher.
-/

set_option autoImplicit false

namespace Polyglot

namespace Matcher

/-! ### Literals, keywords, lines and runs of characters -/

/-- A word that a text starts with is no longer than the text. -/
theorem length_le_of_isPrefixOf {word text : List Char} (h : word.isPrefixOf text = true) :
    word.length ≤ text.length :=
  (List.isPrefixOf_iff_prefix.mp h).length_le

/-- The length of the word that is found, or zero, fits a text if every word that can be found does.
Literals and keywords differ only in what they accept. -/
theorem foundLength_le {words : List (List Char)} {accepts : List Char → Bool} {size : Nat}
    (h : ∀ word, accepts word = true → word.length ≤ size) :
    ((words.find? accepts).map List.length).getD 0 ≤ size := by
  cases hfind : words.find? accepts with
  | none => exact Nat.zero_le _
  | some word => exact h word (List.find?_some hfind)

/-- A literal lies inside the text. -/
theorem literalLength_le (words : List (List Char)) (text : List Char) :
    literalLength words text ≤ text.length :=
  foundLength_le fun _ h => length_le_of_isPrefixOf h

/-- A keyword lies inside the text. -/
theorem keywordLength_le (words : List (List Char)) (behind : Option Char) (text : List Char) :
    keywordLength words behind text ≤ text.length := by
  unfold keywordLength
  split
  · exact Nat.zero_le _
  · refine foundLength_le fun word h => length_le_of_isPrefixOf ?_
    exact (Bool.and_eq_true _ _ ▸ h).1

/-- The first characters of a text that have a property are no more than all of them. -/
theorem length_takeWhile_le (p : Char → Bool) (text : List Char) :
    (text.takeWhile p).length ≤ text.length :=
  (List.takeWhile_sublist p).length_le

/-- A line region lies inside the text. Its start is read first, so what goes up to the line break
is taken from the rest. -/
theorem lineLength_le (start text : List Char) : lineLength start text ≤ text.length := by
  unfold lineLength
  split
  · rename_i h
    have hstart := length_le_of_isPrefixOf h
    have htail := length_takeWhile_le (fun c => !Position.endsLine c) (text.drop start.length)
    rw [List.length_drop] at htail
    omega
  · exact Nat.zero_le _

/-- A run of characters lies inside the text. -/
theorem charSequenceLength_le (first : CharClass) (rest : Option CharClass)
    (text : List Char) : charSequenceLength first rest text ≤ text.length := by
  cases text with
  | nil => exact Nat.zero_le _
  | cons c text =>
    cases rest with
    | none =>
      rw [charSequenceLength]
      split
      · exact Nat.succ_le_succ (Nat.zero_le _)
      · exact Nat.zero_le _
    | some k =>
      rw [charSequenceLength]
      split
      · have hrun := length_takeWhile_le k.contains text
        rw [List.length_cons]
        omega
      · exact Nat.zero_le _

/-! ### Regions -/

/-- The end of a region lies inside the text that follows its opening. The induction follows the
scan. Each step takes a character, an escape or a delimiter that is there, and goes on in what is
left. -/
theorem Delimited.scan_le (d : Delimited) (depth : Nat) (text : List Char) (n : Nat)
    (h : d.scan depth text = some n) : n ≤ text.length := by
  fun_induction Delimited.scan d depth text generalizing n with
  | case1 => cases h
  | case2 => cases h
  | case3 depth c _ after ih =>
    -- an escaped carriage return and line feed
    obtain ⟨m, hm, rfl⟩ := Option.map_eq_some_iff.mp h
    have := ih m hm
    simp only [List.length_cons]
    omega
  | case4 depth c _ d' after _ ih =>
    -- another escaped character
    obtain ⟨m, hm, rfl⟩ := Option.map_eq_some_iff.mp h
    have := ih m hm
    simp only [List.length_cons]
    omega
  | case5 depth c rest _ hclose _ =>
    -- the closing text of the region
    obtain rfl := Option.some.inj h
    exact length_le_of_isPrefixOf hclose
  | case6 depth c rest _ hclose _ ih =>
    -- the closing text of a region inside
    obtain ⟨m, hm, rfl⟩ := Option.map_eq_some_iff.mp h
    have hlen := length_le_of_isPrefixOf hclose
    have hrest := ih m hm
    rw [List.length_drop] at hrest
    rw [List.length_cons] at hlen ⊢
    omega
  | case7 depth c rest _ _ hopen ih =>
    -- the opening text of a region inside
    obtain ⟨m, hm, rfl⟩ := Option.map_eq_some_iff.mp h
    have hlen := length_le_of_isPrefixOf (Bool.and_eq_true _ _ ▸ hopen).2
    have hrest := ih m hm
    rw [List.length_drop] at hrest
    rw [List.length_cons] at hlen ⊢
    omega
  | case8 => cases h
  | case9 depth c rest _ _ _ _ ih =>
    -- a single code point
    obtain ⟨m, hm, rfl⟩ := Option.map_eq_some_iff.mp h
    have := ih m hm
    rw [List.length_cons]
    omega

/-- A region lies inside the text. -/
theorem Delimited.length_le (d : Delimited) (text : List Char) : d.length text ≤ text.length := by
  unfold Delimited.length
  split
  · rename_i hopen
    have hlen := length_le_of_isPrefixOf hopen
    cases hscan : d.scan 1 (text.drop d.opening.length) with
    | none => exact Nat.zero_le _
    | some n =>
      have hn := d.scan_le 1 _ n hscan
      rw [List.length_drop] at hn
      show n + d.opening.length ≤ text.length
      omega
  · exact Nat.zero_le _

/-! ### Numbers -/

/-- A run of digits lies inside the text. Digits and separators are each one character that was
read. -/
theorem Number.digitRun_le (separator : Option Char) (digit : Char → Bool) (afterDigit : Bool)
    (text : List Char) : digitRun separator digit afterDigit text ≤ text.length := by
  fun_induction digitRun separator digit afterDigit text with
  | case1 => exact Nat.zero_le _
  | case2 afterDigit c rest _ ih => exact Nat.succ_le_succ ih
  | case3 afterDigit c rest _ _ ih => exact Nat.succ_le_succ ih
  | case4 => exact Nat.zero_le _

/-- A literal with a radix lies inside the text. Its prefix has two characters, and the digits are
taken from behind them. -/
theorem Number.radixLength?_le (number : Number) (text : List Char) (n : Nat)
    (h : number.radixLength? text = some n) : n ≤ text.length := by
  unfold radixLength? at h
  split at h
  · rename_i letter rest
    obtain ⟨digit, -, rfl⟩ := Option.map_eq_some_iff.mp h
    have hrun := digitRun_le number.separator digit false rest
    split
    · exact Nat.zero_le _
    · exact Nat.add_le_add_right hrun 2
  · cases h

/-- An exponent lies inside the text. The sign may be missing, and then it is not counted either. -/
theorem Number.exponentLength_le (number : Number) (text : List Char) :
    number.exponentLength text ≤ text.length := by
  cases text with
  | nil => exact Nat.zero_le _
  | cons c rest =>
    rw [exponentLength]
    split
    · -- a sign is there if it is counted
      have hsign : (if rest.head?.any fun s => s == '+' || s == '-' then 1 else 0)
          ≤ rest.length := by
        cases rest with
        | nil => exact Nat.zero_le _
        | cons s rest =>
          split
          · exact Nat.succ_le_succ (Nat.zero_le _)
          · exact Nat.zero_le _
      dsimp only
      generalize (if rest.head?.any fun s => s == '+' || s == '-' then 1 else 0) = sign
        at hsign ⊢
      have hrun := digitRun_le number.separator Char.isDigit false (rest.drop sign)
      rw [List.length_drop] at hrun
      split
      · exact Nat.zero_le _
      · rw [List.length_cons]
        omega
    · exact Nat.zero_le _

/-- A fraction lies inside the text: it starts with a point, so its digits are in the rest. -/
theorem Number.fraction_le (number : Number) (text : List Char)
    (h : startsFraction text = true) :
    1 + digitRun number.separator Char.isDigit false (text.drop 1) ≤ text.length := by
  have hrun := digitRun_le number.separator Char.isDigit false (text.drop 1)
  cases text with
  | nil => cases h
  | cons c rest =>
    simp only [List.drop_succ_cons, List.drop_zero, List.length_cons] at hrun ⊢
    omega

/-- A decimal literal lies inside the text. Digits, fraction and exponent are each taken from what
the ones before have left. -/
theorem Number.decimalLength_le (number : Number) (text : List Char) :
    number.decimalLength text ≤ text.length := by
  unfold decimalLength
  dsimp only
  have hwhole := digitRun_le number.separator Char.isDigit false text
  generalize digitRun number.separator Char.isDigit false text = whole at hwhole ⊢
  split
  · exact Nat.zero_le _
  · -- the body is inside the text, with and without a fraction
    have hbody : whole + (if number.float && startsFraction (text.drop whole) then
        1 + digitRun number.separator Char.isDigit false ((text.drop whole).drop 1) else 0)
        ≤ text.length := by
      split
      · rename_i h
        have hfraction := number.fraction_le (text.drop whole) (Bool.and_eq_true _ _ ▸ h).2
        rw [List.length_drop] at hfraction
        omega
      · exact hwhole
    generalize whole + (if number.float && startsFraction (text.drop whole) then
        1 + digitRun number.separator Char.isDigit false ((text.drop whole).drop 1) else 0)
        = body at hbody ⊢
    split
    · have hexponent := number.exponentLength_le (text.drop body)
      rw [List.length_drop] at hexponent
      omega
    · exact hbody

/-- A number lies inside the text. -/
theorem Number.length_le (number : Number) (text : List Char) :
    number.length text ≤ text.length := by
  have hbody : (number.radixLength? text).getD (number.decimalLength text) ≤ text.length := by
    cases h : number.radixLength? text with
    | none => exact number.decimalLength_le text
    | some n => exact number.radixLength?_le text n h
  unfold Number.length
  dsimp only
  generalize (number.radixLength? text).getD (number.decimalLength text) = body at hbody ⊢
  split
  · exact Nat.zero_le _
  · have hsuffix := literalLength_le number.suffixes (text.drop body)
    rw [List.length_drop] at hsuffix
    omega

/-! ### Expressions -/

/-- The best match is at the position where threads arrive, if it changes there. It changes only
when a thread accepts, and all threads that arrive are at the same position. -/
theorem arrive_best (p : Regex.Program) (before after : Option Char) (pending : List Nat)
    (position : Nat) (best : Option Nat) :
    (Regex.arrive p before after pending position best).2 = some position ∨
      (Regex.arrive p before after pending position best).2 = best := by
  unfold Regex.arrive
  dsimp only
  generalize Regex.untilAccept p.code _ = reached
  obtain ⟨threads, accepted⟩ := reached
  cases accepted with
  | true => exact .inl rfl
  | false => exact .inr rfl

/-- The best match stays at or before the position where threads arrive. -/
theorem arrive_best_le {p : Regex.Program} {before after : Option Char} {pending : List Nat}
    {position : Nat} {best : Option Nat} (hbest : ∀ n, best = some n → n ≤ position) (n : Nat)
    (h : (Regex.arrive p before after pending position best).2 = some n) : n ≤ position := by
  rcases arrive_best p before after pending position best with hnew | hold
  · rw [hnew] at h
    obtain rfl := Option.some.inj h
    exact Nat.le_refl _
  · rw [hold] at h
    exact hbest n h

/-- A run reports a position that it has reached: at most the rest of the text after the
position at which it stands, if the best match so far is not beyond that position. -/
theorem run_le (p : Regex.Program) (before : Option Char) (pending : List Nat)
    (position : Nat) (best : Option Nat) (text : List Char)
    (hbest : ∀ n, best = some n → n ≤ position) (n : Nat)
    (h : Regex.run p before pending position best text = some n) :
    n ≤ position + text.length := by
  induction text generalizing before pending position best with
  | nil =>
    rw [Regex.run] at h
    exact arrive_best_le hbest n h
  | cons c rest ih =>
    rw [Regex.run] at h
    have hbest' := @arrive_best_le p before (some c) pending position best hbest
    generalize Regex.arrive p before (some c) pending position best = arrived at h hbest'
    obtain ⟨threads, best'⟩ := arrived
    dsimp only at h hbest'
    split at h
    · -- no thread is left, and the best match is behind
      have hn := hbest' n h
      omega
    · have hn := ih _ _ (position + 1) best'
        (fun m hm => Nat.le_succ_of_le (hbest' m hm)) h
      rw [List.length_cons]
      omega

/-- The end of a match lies inside the text. The run counts on from zero by one for each character,
and reports nothing that it has not come to. -/
theorem search?_le (p : Regex.Program) (text : List Char) (n : Nat)
    (h : p.search? text = some n) : n ≤ text.length := by
  have hn := run_le p none [] 0 none text (fun _ hm => nomatch hm) n h
  omega

/-! ### All kinds -/

mutual

/-- A matcher takes no more characters than there are. The induction goes over matchers and lists of
matchers together, since a sequence is made of other matchers. -/
theorem length_le : (m : Matcher) → (behind : Option Char) → (text : List Char) →
    m.length behind text ≤ text.length
  | .literal words, _, text => by
    rw [length]
    exact literalLength_le words text
  | .keywords words, behind, text => by
    rw [length]
    exact keywordLength_le words behind text
  | .delimited region, _, text => by
    rw [length]
    exact region.length_le text
  | .line start, _, text => by
    rw [length]
    exact lineLength_le start text
  | .charSequence first rest, _, text => by
    rw [length]
    exact charSequenceLength_le first rest text
  | .number n, _, text => by
    rw [length]
    exact n.length_le text
  | .sequence parts, behind, text => by
    rw [length]
    cases h : sequenceLength? parts behind text with
    | none => exact Nat.zero_le _
    | some n => exact sequenceLength?_le parts behind text n h
  | .pattern program, _, text => by
    rw [length]
    cases h : program.search? text with
    | none => exact Nat.zero_le _
    | some n => exact search?_le program text n h

/-- Matchers one after the other take no more characters than there are. -/
theorem sequenceLength?_le : (parts : List Matcher) → (behind : Option Char) →
    (text : List Char) → (n : Nat) → sequenceLength? parts behind text = some n →
    n ≤ text.length
  | [], _, _, n, h => by
    rw [sequenceLength?] at h
    obtain rfl := Option.some.inj h
    exact Nat.zero_le _
  | part :: parts, behind, text, n, h => by
    rw [sequenceLength?] at h
    have hpart := length_le part behind text
    generalize part.length behind text = k at h hpart
    split at h
    · cases h
    · obtain ⟨m, hm, rfl⟩ := Option.map_eq_some_iff.mp h
      have hparts := sequenceLength?_le parts _ _ m hm
      rw [List.length_drop] at hparts
      omega

end

end Matcher

end Polyglot
