import Polyglot.Proofs.Profile.Matchers

/-!
# `Polyglot.Proofs.Profile.RoundTrip`: a written profile is read back

Every type of the data model survives reading and writing, from the rules of a lexer up to the
profile (`Profile.survives`). A field that is left out when it is written has the default that is
put in when it is read, and a document that leaves out more, gives more than is known or lists the
fields of a record without their names is written as any other.

The main theorem is `Profile.parse_written`: a profile that was read from a text is read from the
text that is written for it, and from any other text that states the same value. Only numbers that
are no integers in range (`Json.Number.Whole`) may be changed on the way, and of all parts of a
profile just the description of the grammar can hold such.
-/

set_option autoImplicit false

namespace Polyglot

open Json (Raw)
open Json.Raw (fields? required withDefault optional string? bool? word? char? list? table?
  choice? tagged? tag?)

/-! ### Lexers -/

/-- A category survives. -/
theorem Category.survives (depth : Nat) (c : Category) : Survives depth Category.read? c c.json :=
  .choice c.ofName?_name

/-- A rule of a state survives. Its flag for leaving the state is written only if it is set. The two
states that it may go to are written if there are any. -/
theorem RuleSpec.survives (depth : Nat) (rule : RuleSpec) :
    Survives depth RuleSpec.read? rule rule.json := by
  have hpop : (!rule.pop) = true ↔ rule.pop = false := by rw [Bool.not_eq_true']
  have hfields : ∀ d, depth = d + 1 → FieldsSurvive d _
      (rule.matcher, rule.token, rule.push, rule.pop, rule.switchTo, ()) _ := fun d _ =>
    .cons "match" (.required (rule.matcher.survives d)) <|
      .cons "token" (.required .string) <|
      .cons "push" (.optional (fun _ _ => .string) fun _ _ _ _ _ => nofun) <|
      .cons "pop" (.unlessDefault .bool hpop) <|
      .cons "switchTo" (.optional (fun _ _ => .string) fun _ _ _ _ _ => nofun) .nil
  have hrecord : RecordSurvives depth RuleSpec.read? rule _ :=
    FieldsSurvive.record hfields RuleSpec.read?
      (fun (matcher, token, push, pop, switchTo, _) => RuleSpec.mk matcher token push pop switchTo)
      (by rintro ⟨_, _, _, _, _, _⟩ ⟨_, _, _, _, _, _⟩ ⟨⟩; rfl) (by simp)
      fun r => Json.Raw.bind_fields?_congr fun
        | [_, _, _, _, _], _, _ => by simp
  simpa [RuleSpec.json] using hrecord.object

/-- How indentation is measured survives. -/
theorem Indentation.survives (depth : Nat) (i : Indentation) :
    Survives depth Indentation.read? i i.json :=
  (FieldSurvives.record (fun _ _ => .withDefault 4 (.num (.int 4)) (.word 32 (by decide)) rfl
    (Nat.zero_le _)) "tabWidth" Indentation.mk (fun _ _ => Indentation.mk.inj) fun _ => rfl).object

/-- The lexical half of a profile survives. Its states are always written, so there has to be room
for them even in a document that had none. -/
theorem LexerConfig.survives {depth : Nat} (hdepth : 2 ≤ depth) (config : LexerConfig) :
    Survives depth LexerConfig.read? config config.json := by
  have hstates : ∀ d, Survives d (table? (list? RuleSpec.read?)) config.states
      (config.states.json fun rules => .arr (rules.map RuleSpec.json)) := fun _ =>
    .table fun _ _ _ _ => .list fun d _ rule _ => rule.survives d
  -- the states are written even if there are none, so there has to be room for an empty object
  have hfields : ∀ d, depth = d + 1 → FieldsSurvive d _ (config.charClasses, config.tokenTypes,
      config.states, config.initialState, config.skipTokens, config.indentation, ()) _ :=
    fun d hd =>
    .cons "charClasses" (.unlessDefault (.table fun d _ e _ => e.2.survives d)
        Table.isEmpty_iff) <|
      .cons "tokenTypes" (.unlessDefault (.table fun d _ e _ => e.2.survives d)
        Table.isEmpty_iff) <|
      .cons "states" (.withDefault ∅ (.obj []) (hstates d) rfl (by change 1 ≤ d; omega)) <|
      .cons "initialState" (.optional (fun _ _ => .string) fun _ _ _ _ _ => nofun) <|
      .cons "skipTokens" (.optional (fun _ _ => .strings) fun _ _ _ _ _ => nofun) <|
      .cons "indentation" (.optional (fun i _ => i.survives d) fun _ _ _ _ _ => nofun) .nil
  have hrecord : RecordSurvives depth LexerConfig.read? config _ :=
    FieldsSurvive.record hfields LexerConfig.read?
      (fun (charClasses, tokenTypes, states, initialState, skipTokens, indentation, _) =>
        LexerConfig.mk charClasses tokenTypes states initialState skipTokens indentation)
      (by rintro ⟨_, _, _, _, _, _, _⟩ ⟨_, _, _, _, _, _, _⟩ ⟨⟩; rfl) (by simp)
      fun r => Json.Raw.bind_fields?_congr fun
        | [_, _, _, _, _, _], _, _ => by simp
  simpa [LexerConfig.json] using hrecord.object

/-! ### Structure -/

/-- A pair of brackets survives. -/
theorem BlockRule.survives (depth : Nat) (rule : BlockRule) :
    Survives depth BlockRule.read? rule rule.json := by
  have hfields : ∀ d, depth = d + 1 →
      FieldsSurvive d _ (rule.name, rule.opening, rule.closing, ()) _ := fun _ _ =>
    .cons "name" (.required .string) <| .cons "open" (.required .string) <|
      .cons "close" (.required .string) .nil
  have hrecord : RecordSurvives depth BlockRule.read? rule _ :=
    FieldsSurvive.record hfields BlockRule.read?
      (fun (name, opening, closing, _) => BlockRule.mk name opening closing)
      (by rintro ⟨_, _, _, _⟩ ⟨_, _, _, _⟩ ⟨⟩; rfl) (by simp)
      fun r => Json.Raw.bind_fields?_congr fun
        | [_, _, _], _, _ => by simp
  exact hrecord.object

/-- A condition on a token survives. -/
theorem TokenStep.survives (depth : Nat) (step : TokenStep) :
    Survives depth TokenStep.read? step step.json := by
  have hfields : ∀ d, depth = d + 1 →
      FieldsSurvive d _ (step.type, step.value, step.capture, ()) _ := fun _ _ =>
    .cons "type" (.required .string) <|
      .cons "value" (.optional (fun _ _ => .string) fun _ _ _ _ _ => nofun) <|
      .cons "capture" (.optional (fun _ _ => .string) fun _ _ _ _ _ => nofun) .nil
  have hrecord : RecordSurvives depth TokenStep.read? step _ :=
    FieldsSurvive.record hfields TokenStep.read?
      (fun (type, value, capture, _) => TokenStep.mk type value capture)
      (by rintro ⟨_, _, _, _⟩ ⟨_, _, _, _⟩ ⟨⟩; rfl) (by simp)
      fun r => Json.Raw.bind_fields?_congr fun
        | [_, _, _], _, _ => by simp
  simpa [TokenStep.json] using hrecord.object

/-- The name of the kind of a step. -/
def PatternStep.kind : PatternStep → String
  | .token _ => "token"
  | .optional _ => "optional"
  | .anyOf _ => "anyOf"
  | .skip _ => "skip"

/-- A step is read from an object with its kind as the only name. This is another form than that of
matchers, which have their kind in a field. -/
theorem PatternStep.exists_body {r : Raw} {step : PatternStep}
    (h : PatternStep.read? r = some step) : ∃ body, r = .obj [(step.kind, body)] := by
  unfold PatternStep.read? at h
  split at h
  case h_5 => cases h
  case h_4 body =>
    -- a skip, whose body is a record by itself
    obtain ⟨outs, -, h⟩ := Option.bind_eq_some_iff.mp h
    split at h
    · obtain ⟨max, -, h⟩ := Option.bind_eq_some_iff.mp h
      cases h
      exact ⟨body, rfl⟩
    · cases h
  all_goals
    rename_i body
    obtain ⟨inside, -, rfl⟩ := Option.map_eq_some_iff.mp h
    exact ⟨body, rfl⟩

/-- A step of a pattern survives. -/
theorem PatternStep.survives (depth : Nat) (step : PatternStep) :
    Survives depth PatternStep.read? step step.json := by
  cases step with
  | token step =>
    exact .sole (fun d _ => (step.survives d).map token (fun _ _ => token.inj) fun _ => rfl)
      fun _ => exists_body
  | optional step =>
    exact .sole (fun d _ => (step.survives d).map optional (fun _ _ => optional.inj) fun _ => rfl)
      fun _ => exists_body
  | anyOf steps =>
    have hsteps : ∀ d, Survives d (list? TokenStep.read?) steps (.arr (steps.map TokenStep.json)) :=
      fun _ => .list fun d _ step _ => step.survives d
    exact .sole (fun d _ => (hsteps d).map anyOf (fun _ _ => anyOf.inj) fun _ => rfl)
      fun _ => exists_body
  | skip max =>
    exact .sole (fun d _ => (FieldSurvives.record
      (fun _ _ => .optional (fun _ _ => .word 64 (Nat.le_refl 64)) fun _ _ _ _ _ => nofun)
      "max" skip (fun _ _ => skip.inj) fun _ => rfl).object) fun _ => exists_body

/-- A body style survives. -/
theorem BodyStyle.survives (depth : Nat) (style : BodyStyle) :
    Survives depth BodyStyle.read? style (.str style.name) :=
  .choice style.ofName?_name

/-- What a declaration looks like survives. -/
theorem SymbolRule.survives (depth : Nat) (rule : SymbolRule) :
    Survives depth SymbolRule.read? rule rule.json := by
  have hfields : ∀ d, depth = d + 1 → FieldsSurvive d _
      (rule.name, rule.kind, rule.pattern, rule.hasBody, rule.bodyStyle, ()) _ := fun d _ =>
    .cons "name" (.required .string) <| .cons "kind" (.required .string) <|
      .cons "pattern" (.required (.list fun d _ step _ => step.survives d)) <|
      .cons "hasBody" (.withDefault false (.bool false) .bool rfl (Nat.zero_le _)) <|
      .cons "bodyStyle" (.optional (fun style _ => style.survives d) fun _ _ _ _ _ => nofun) .nil
  have hrecord : RecordSurvives depth SymbolRule.read? rule _ :=
    FieldsSurvive.record hfields SymbolRule.read?
      (fun (name, kind, pattern, hasBody, bodyStyle, _) =>
        SymbolRule.mk name kind pattern hasBody bodyStyle)
      (by rintro ⟨_, _, _, _, _, _⟩ ⟨_, _, _, _, _, _⟩ ⟨⟩; rfl) (by simp)
      fun r => Json.Raw.bind_fields?_congr fun
        | [_, _, _, _, _], _, _ => by simp
  simpa [SymbolRule.json] using hrecord.object

/-- Which regions fold survives. The names of the blocks are written even if there are none, and a
list takes a level. -/
theorem Folding.survives {depth : Nat} (hdepth : 2 ≤ depth) (folding : Folding) :
    Survives depth Folding.read? folding folding.json := by
  have hfields : ∀ d, depth = d + 1 →
      FieldsSurvive d _ (folding.blocks, folding.comments, folding.minLines, ()) _ := fun d hd =>
    .cons "blocks" (.withDefault [] (.arr []) .strings rfl (by change 1 ≤ d; omega)) <|
      .cons "comments" (.withDefault false (.bool false) .bool rfl (Nat.zero_le _)) <|
      .cons "minLines" (.withDefault 2 (.num (.int 2)) (.word 32 (by decide)) rfl (Nat.zero_le _))
        .nil
  have hrecord : RecordSurvives depth Folding.read? folding _ :=
    FieldsSurvive.record hfields Folding.read?
      (fun (blocks, comments, minLines, _) => Folding.mk blocks comments minLines)
      (by rintro ⟨_, _, _, _⟩ ⟨_, _, _, _⟩ ⟨⟩; rfl) (by simp)
      fun r => Json.Raw.bind_fields?_congr fun
        | [_, _, _], _, _ => by simp
  exact hrecord.object

/-- The structural half of a profile survives. -/
theorem Structure.survives {depth : Nat} (hdepth : 3 ≤ depth) (s : Structure) :
    Survives depth Structure.read? s s.json := by
  have hfields : ∀ d, depth = d + 1 →
      FieldsSurvive d _ (s.blocks, s.symbols, s.folding, ()) _ := fun d hd =>
    .cons "blocks" (.withDefault [] (.arr []) (.list fun d _ rule _ => rule.survives d) rfl
        (by change 1 ≤ d; omega)) <|
      .cons "symbols" (.withDefault [] (.arr []) (.list fun d _ rule _ => rule.survives d) rfl
        (by change 1 ≤ d; omega)) <|
      .cons "folding" (.optional (fun f _ => f.survives (by omega)) fun _ _ _ _ _ => nofun) .nil
  have hrecord : RecordSurvives depth Structure.read? s _ :=
    FieldsSurvive.record hfields Structure.read?
      (fun (blocks, symbols, folding, _) => Structure.mk blocks symbols folding)
      (by rintro ⟨_, _, _, _⟩ ⟨_, _, _, _⟩ ⟨⟩; rfl) (by simp)
      fun r => Json.Raw.bind_fields?_congr fun
        | [_, _, _], _, _ => by simp
  simpa [Structure.json] using hrecord.object

/-! ### Profiles -/

/-- A language inside another one survives. -/
theorem EmbeddedLanguage.survives (depth : Nat) (e : EmbeddedLanguage) :
    Survives depth EmbeddedLanguage.read? e e.json := by
  have hfields : ∀ d, depth = d + 1 →
      FieldsSurvive d _ (e.language, e.opening, e.closing, ()) _ := fun _ _ =>
    .cons "language" (.required .string) <| .cons "open" (.required .string) <|
      .cons "close" (.required .string) .nil
  have hrecord : RecordSurvives depth EmbeddedLanguage.read? e _ :=
    FieldsSurvive.record hfields EmbeddedLanguage.read?
      (fun (language, opening, closing, _) => EmbeddedLanguage.mk language opening closing)
      (by rintro ⟨_, _, _, _⟩ ⟨_, _, _, _⟩ ⟨⟩; rfl) (by simp)
      fun r => Json.Raw.bind_fields?_congr fun
        | [_, _, _], _, _ => by simp
  exact hrecord.object

/-- A description of a grammar survives if its numbers are integers. A grammar is any document at
all. Other numbers may be written in a way that does not tell which number was read. -/
theorem Profile.grammar_survives (depth : Nat) {grammar : Option Json}
    (h : ∀ g, grammar = some g → ∀ n ∈ g.numbers, n.Whole) :
    FieldSurvives depth (optional Raw.value?) grammar (grammar.map id) := by
  refine .optional (fun g hg r hread hdepth => ?_) fun g _ r hr hread hnull => ?_
  · exact ⟨Json.writable_of_value? hread (h g hg) hdepth, fun r' hr' => hr'.value?⟩
  · -- only `null` has the value `null`
    cases r with
    | null => exact hr rfl
    | unread => cases hread
    | arr items =>
      obtain ⟨values, -, rfl⟩ := Option.map_eq_some_iff.mp hread
      cases hnull
    | obj members =>
      obtain ⟨values, -, rfl⟩ := Option.map_eq_some_iff.mp hread
      cases hnull
    | _ =>
      cases hread
      cases hnull

/-- A profile survives if the numbers in its grammar are integers. Only the grammar can hold numbers
that are not words, so there is no condition on any other part. -/
theorem Profile.survives {depth : Nat} (hdepth : 4 ≤ depth) {p : Profile}
    (h : ∀ g, p.grammar = some g → ∀ n ∈ g.numbers, n.Whole) :
    Survives depth Profile.read? p p.json := by
  have hembedded : ∀ d, FieldSurvives d (optional (list? EmbeddedLanguage.read?))
      p.embeddedLanguages (p.embeddedLanguages.map fun es => .arr (es.map EmbeddedLanguage.json)) :=
    fun _ => .optional (fun _ _ => .list fun d _ e _ => e.survives d) fun _ _ _ _ _ => nofun
  -- a document may leave out the lexer, which is written with its empty states inside
  have hfields : ∀ d, depth = d + 1 → FieldsSurvive d _ (p.name, p.displayName, p.fileExtensions,
      p.mimeTypes, p.lexer, p.structure?, p.grammar, p.embeddedLanguages, p.parent, ()) _ :=
    fun d hd =>
    .cons "name" (.required .string) <|
      .cons "displayName" (.withDefault "" (.str "") .string rfl (Nat.zero_le _)) <|
      .cons "fileExtensions" (.withDefault [] (.arr []) .strings rfl (by change 1 ≤ d; omega)) <|
      .cons "mimeTypes" (.withDefault [] (.arr []) .strings rfl (by change 1 ≤ d; omega)) <|
      .cons "lexer" (.withDefault {} (.obj []) (p.lexer.survives (by omega)) rfl
        (by change 1 ≤ d; omega)) <|
      .cons "structure" (.optional (fun s _ => s.survives (by omega)) fun _ _ _ _ _ => nofun) <|
      .cons "grammar" (Profile.grammar_survives d h) <|
      .cons "embeddedLanguages" (hembedded d) <|
      .cons "extends" (.optional (fun _ _ => .string) fun _ _ _ _ _ => nofun) .nil
  have hrecord : RecordSurvives depth Profile.read? p _ :=
    FieldsSurvive.record hfields Profile.read?
      (fun (name, displayName, fileExtensions, mimeTypes, lexer, structure?, grammar, embedded,
        parent, _) => Profile.mk name displayName fileExtensions mimeTypes lexer structure? grammar
          embedded parent)
      (by rintro ⟨_, _, _, _, _, _, _, _, _, _⟩ ⟨_, _, _, _, _, _, _, _, _, _⟩ ⟨⟩; rfl) (by simp)
      fun r => Json.Raw.bind_fields?_congr fun
        | [_, _, _, _, _, _, _, _, _], _, _ => by simp
  simpa [Profile.json] using hrecord.object

/-- A text is a profile just if its document is. The origin is only told in errors. -/
theorem Profile.parse_eq_ok_iff {origin text : String} {p : Profile} :
    Profile.parse origin text = .ok p ↔
      ∃ document, Json.parse? text = some document ∧ Profile.read? document = some p := by
  rw [← Option.bind_eq_some_iff, Profile.parse]
  cases (Json.parse? text).bind Profile.read? <;> simp

/-- A profile that was read from a text, and whose grammar has no other numbers than integers, can
be written and read again: from the text that is written for it, and from every text whose document
states the same value, the members of its objects in any order. -/
theorem Profile.parse_written {origin text : String} {p : Profile}
    (h : Profile.parse origin text = .ok p)
    (hnumbers : ∀ g, p.grammar = some g → ∀ n ∈ g.numbers, n.Whole) (place : String) :
    Profile.parse place (Json.render p.json) = .ok p ∧
      ∀ (other : String) (document : Raw), Json.parse? other = some document →
        document.States p.json → Profile.parse place other = .ok p := by
  obtain ⟨document, hdocument, hread⟩ := Profile.parse_eq_ok_iff.mp h
  have hsurvives : Survives Json.maxDepth Profile.read? p p.json :=
    Profile.survives (by decide) hnumbers
  obtain ⟨hwritable, hback⟩ := hsurvives document hread (Json.depth_le_of_parse? hdocument)
  have hstated : ∀ (other : String) (document : Raw), Json.parse? other = some document →
      document.States p.json → Profile.parse place other = .ok p :=
    fun other document hother hstates =>
      Profile.parse_eq_ok_iff.mpr ⟨document, hother, hback document hstates⟩
  exact ⟨hstated _ _ hwritable.parse?_render hwritable.states_raw, hstated⟩

/-- A document with an unknown member, an escaped name, a grammar of integers at the edges, and the
fields of the lexer, of a rule and of a matcher listed without their names. -/
def Profile.sampleText : String :=
  "\x7b\"unknown\":1.5,\"name\":\"t\\u006Fy\",\"grammar\":[-0,18446744073709551615]," ++
    "\"lexer\":[\x7b\x7d,\x7b\x7d,\x7b\"default\":[[[\"line\",\"//\"],\"comment\"]]\x7d]\x7d"

/-- The profile of that document. -/
def Profile.sample : Profile where
  name := "toy"
  lexer := { states := .ofList [("default", [{ matcher := .line "//", token := "comment" }])] }
  grammar := some (.arr [.num (.float ⟨true, 0, -1074⟩), .num (.int 18446744073709551615)])

open Json.Lexeme in
/-- The document of the sample is that of the profile. -/
theorem Profile.parse_sampleText (origin : String) :
    Profile.parse origin Profile.sampleText = .ok Profile.sample := by
  have hwords : Json.lex? Profile.sampleText.toList = some [openBrace, str (some "unknown"), colon,
      num (some (.float ⟨false, 6755399441055744, -52⟩)), comma, str (some "name"), colon,
      str (some "toy"), comma, str (some "grammar"), colon, openBracket,
      num (some (.float ⟨true, 0, -1074⟩)), comma, num (some (.int 18446744073709551615)),
      closeBracket, comma, str (some "lexer"), colon, openBracket, openBrace, closeBrace, comma,
      openBrace, closeBrace, comma, openBrace, str (some "default"), colon, openBracket,
      openBracket, openBracket, str (some "line"), comma, str (some "//"), closeBracket, comma,
      str (some "comment"), closeBracket, closeBracket, closeBrace, closeBracket, closeBrace] := by
    decide +kernel
  have hdocument : Json.parse? Profile.sampleText = some (.obj
      [("unknown", .num (.float ⟨false, 6755399441055744, -52⟩)), ("name", .str "toy"),
        ("grammar", .arr [.num (.float ⟨true, 0, -1074⟩), .num (.int 18446744073709551615)]),
        ("lexer", .arr [.obj [], .obj [],
          .obj [("default", .arr [.arr [.arr [.str "line", .str "//"], .str "comment"]])]])]) := by
    rw [Json.parse?, hwords]
    rfl
  exact Profile.parse_eq_ok_iff.mpr ⟨_, hdocument, rfl⟩

/-- The profile of the sample is read from its own text. -/
theorem Profile.parse_written_sample :
    Profile.parse "sample" Profile.sampleText = .ok Profile.sample ∧
      Profile.parse "copy" (Json.render Profile.sample.json) = .ok Profile.sample := by
  have hnumbers : ∀ g, Profile.sample.grammar = some g → ∀ n ∈ g.numbers, n.Whole := by
    rintro g hg
    cases hg
    simp [Json.numbers, Json.itemNumbers, Json.Number.whole_iff, Json.Number.InRange]
  exact ⟨Profile.parse_sampleText "sample",
    (Profile.parse_written (Profile.parse_sampleText "sample") hnumbers "copy").1⟩

end Polyglot
