import Polyglot.Proofs.Engine.Caching

/-!
# `Polyglot.Proofs.Engine.Agreement`: one pipeline behind every operation

The tokens, the blocks, the declarations and the analysis of a text all come from the same two
steps: the profile of the language is resolved, and its lexer is compiled. `Engine.prepare` is
these two steps, and the outcome of each operation is read off what they come to
(`outcome_tokenize` and its like). So the operations fail together, with the same error, and
answer with parts of one analysis.

The regions that fold are different. Under a profile that folds nothing there is nothing to look
for, and the answer is given before the lexer is compiled (`outcome_folds`). Where that lexer does
not compile, every other operation fails and this one does not (`folds_of_broken_lexer`).
`Engine.outcomes_agree_iff` says that this is the only difference.
-/

set_option autoImplicit false

namespace Polyglot.Engine

/-- What an operation comes to in an engine. -/
def outcome {α : Type} (e : Engine) (operation : EngineM α) : Except Error α :=
  (operation.run.run e).1

/-- The resolved profile of a language and its compiled lexer. -/
def prepare (language : String) : EngineM (Shared × LexerCache.Entry) := do
  let shared ← profile language
  let entry ← lexerFor shared
  return (shared, entry)

/-- Which regions of a text fold under a profile, if any do. -/
def foldingOf (shared : Shared) : Option Folding := shared.profile.structure?.bind (·.folding)

/-- The regions that fold in an analysis. A profile that says nothing of folding has none. -/
def foldsIn (folding? : Option Folding) (analysis : Analysis) : List Fold :=
  match folding? with
  | none => []
  | some folding => Polyglot.folds analysis.tokens analysis.spans folding

/-! ### The outcome of each operation -/

section

variable {e : Engine} {language : String}

/-- Resolving a profile and compiling its lexer stops at the profile, stops at the lexer, or comes
to both; the settings stay. These are all ways in which the operations below can end, up to what
they make of the results. -/
theorem prepare_cases (e : Engine) (language : String) :
    (∃ x e', (profile language).run.run e = (.error x, e')) ∨
    (∃ shared e' x e'', (profile language).run.run e = (.ok shared, e') ∧
      (lexerFor shared).run.run e' = (.error x, e'')) ∨
    (∃ shared e' entry e'', (profile language).run.run e = (.ok shared, e') ∧
      (lexerFor shared).run.run e' = (.ok entry, e'') ∧ e''.settings = e.settings) := by
  cases hprofile : (profile language).run.run e with
  | mk answer e' =>
    cases answer with
    | error x => exact .inl ⟨x, e', rfl⟩
    | ok shared =>
      have hsettings : e'.settings = e.settings := by
        -- no step changes the settings
        rw [show e' = ((profile language).run.run e).2 by rw [hprofile]]
        rfl
      cases hlexer : (lexerFor shared).run.run e' with
      | mk answer e'' =>
        cases answer with
        | error x => exact .inr (.inl ⟨shared, e', x, e'', rfl, hlexer⟩)
        | ok entry =>
          refine .inr (.inr ⟨shared, e', entry, e'', rfl, hlexer, ?_⟩)
          rw [← hsettings, show e'' = ((lexerFor shared).run.run e').2 by rw [hlexer]]
          rfl

/-- An operation that resolves a profile, compiles its lexer and then answers from both and from the
settings comes to that answer, or to what stops the first two steps. So two such operations on one
engine fail together and with the same error. All operations but one have this form. -/
theorem outcome_pipeline {α : Type} {next : Shared → LexerCache.Entry → EngineM α}
    (f : Settings → Shared → LexerCache.Entry → α)
    (hnext : ∀ shared entry e',
      ((next shared entry).run.run e').1 = .ok (f e'.settings shared entry)) :
    e.outcome (do
        let shared ← profile language
        let entry ← lexerFor shared
        next shared entry) =
      (e.outcome (prepare language)).map fun p => f e.settings p.1 p.2 := by
  unfold outcome prepare
  obtain ⟨x, e', hp⟩ | ⟨shared, e', x, e'', hp, hl⟩ | ⟨shared, e', entry, e'', hp, hl, hs⟩ :=
    prepare_cases e language
  · rw [run_bind_error hp, run_bind_error hp]
    rfl
  · rw [run_bind_ok hp, run_bind_ok hp, run_bind_error hl, run_bind_error hl]
    rfl
  · rw [run_bind_ok hp, run_bind_ok hp, run_bind_ok hl, run_bind_ok hl, hnext, hs]
    rfl

/-- The lexer of a language is the one that is prepared. It is written as a pipeline with a last
step that only returns it. -/
theorem outcome_compiledLexer (e : Engine) (language : String) :
    e.outcome (compiledLexer language) = (e.outcome (prepare language)).map (·.2) := by
  have hlexer : compiledLexer language =
      profile language >>= fun shared => lexerFor shared >>= fun entry => pure entry := by
    simp only [compiledLexer, bind_pure]
  rw [hlexer]
  exact outcome_pipeline (fun _ _ entry => entry) fun _ _ _ => rfl

/-- The tokens of a text are those of the lexer that is prepared. -/
theorem outcome_tokenize (e : Engine) (source language : String) :
    e.outcome (tokenize source language) =
      (e.outcome (prepare language)).map fun p => p.2.lexer.tokenize source := by
  unfold tokenize compiledLexer
  rw [bind_assoc]
  exact outcome_pipeline (fun _ _ entry => entry.lexer.tokenize source) fun _ _ _ => rfl

/-- The blocks in a text are those of the profile in the tokens of its lexer. -/
theorem outcome_blockSpans (e : Engine) (source language : String) :
    e.outcome (blockSpans source language) =
      (e.outcome (prepare language)).map fun p =>
        match p.1.profile.structure? with
        | none => []
        | some s => Polyglot.blockSpans (p.2.lexer.tokenize source) s.blocks := by
  refine outcome_pipeline (fun _ shared entry =>
    match shared.profile.structure? with
    | none => []
    | some s => Polyglot.blockSpans (entry.lexer.tokenize source) s.blocks)
    fun shared entry e' => ?_
  cases shared.profile.structure? <;> rfl

/-- The analysis of a text is that with the lexer and the structure that are prepared. -/
theorem outcome_analyze (e : Engine) (source language : String) :
    e.outcome (analyze source language) =
      (e.outcome (prepare language)).map fun p =>
        analysisOf e.settings p.2.lexer p.1.profile.structure? source :=
  outcome_pipeline (fun settings shared entry =>
    analysisOf settings entry.lexer shared.profile.structure? source) fun _ _ _ => rfl

/-- The declarations in a text are those of its analysis. The operation makes the whole analysis and
takes one part of it. -/
theorem outcome_symbols (e : Engine) (source language : String) :
    e.outcome (symbols source language) =
      (e.outcome (analyze source language)).map (·.symbols) := by
  unfold outcome symbols
  cases h : (analyze source language).run.run e with
  | mk answer e' =>
    cases answer with
    | error x =>
      rw [run_bind_error h]
      rfl
    | ok analysis =>
      rw [run_bind_ok h]
      rfl

/-- Under a profile that folds nothing no region folds, whatever comes of the lexer. This is the
operation that is no pipeline: it looks at the profile first, and answers without a lexer. -/
theorem outcome_folds_of_none {source : String} {shared : Shared}
    (hprofile : e.outcome (profile language) = .ok shared) (hnone : foldingOf shared = none) :
    e.outcome (folds source language) = .ok [] := by
  have hrun : (profile language).run.run e =
      (.ok shared, ((profile language).run.run e).2) := Prod.ext hprofile rfl
  unfold foldingOf at hnone
  rw [outcome, folds, run_bind_ok hrun, hnone]
  rfl

/-- Under a profile that folds something, the regions of a text that fold are those of its analysis.
The profile is resolved once in both operations, and so the analysis goes on from the same engine.
-/
theorem outcome_folds_of_some {source : String} {shared : Shared} {folding : Folding}
    (hprofile : e.outcome (profile language) = .ok shared)
    (hsome : foldingOf shared = some folding) :
    e.outcome (folds source language) =
      (e.outcome (analyze source language)).map (foldsIn (some folding)) := by
  -- both calls start with the same lookup, so they agree from there on
  have hrun : (profile language).run.run e =
      (.ok shared, ((profile language).run.run e).2) := Prod.ext hprofile rfl
  unfold foldingOf at hsome
  rw [outcome, outcome, folds, analyze, run_bind_ok hrun, run_bind_ok hrun, hsome]
  cases h : (analyzeWith shared source).run.run ((profile language).run.run e).2 with
  | mk answer e' =>
    cases answer with
    | error x =>
      dsimp only
      rw [run_bind_error h]
      rfl
    | ok analysis =>
      dsimp only
      rw [run_bind_ok h]
      rfl

/-- Where there is no profile, there is an error and nothing else. -/
theorem outcome_of_no_profile {α : Type} {x : Error} (next : Shared → EngineM α)
    (hprofile : e.outcome (profile language) = .error x) :
    e.outcome (profile language >>= next) = .error x := by
  have hrun : (profile language).run.run e =
      (.error x, ((profile language).run.run e).2) := Prod.ext hprofile rfl
  rw [outcome, run_bind_error hrun]

end

/-! ### One analysis -/

/-- The regions that fold in the analysis of a text, under the profile of its language. -/
def foldsOfAnalysis (e : Engine) (source language : String) : Except Error (List Fold) := do
  let shared ← e.outcome (profile language)
  let analysis ← e.outcome (analyze source language)
  return foldsIn (foldingOf shared) analysis

/-- The tokens of an analysis. -/
theorem tokens_analysisOf (settings : Settings) (lexer : Lexer) (structure? : Option Structure)
    (source : String) :
    (analysisOf settings lexer structure? source).tokens = lexer.tokenize source := by
  cases structure? <;> rfl

/-- The blocks of an analysis. -/
theorem spans_analysisOf (settings : Settings) (lexer : Lexer) (structure? : Option Structure)
    (source : String) :
    (analysisOf settings lexer structure? source).spans =
      match structure? with
      | none => []
      | some s => Polyglot.blockSpans (lexer.tokenize source) s.blocks := by
  cases structure? <;> rfl

/-- The lexer of a language compiles just if there is an analysis of any text in it. Nothing else on
the way to an analysis can fail. -/
theorem compiles_iff_exists_analysis (e : Engine) (source language : String) :
    (∀ x, e.outcome (compiledLexer language) ≠ .error x) ↔
      ∃ analysis, e.outcome (analyze source language) = .ok analysis := by
  rw [outcome_analyze, outcome_compiledLexer]
  cases e.outcome (prepare language) with
  | error x =>
    refine ⟨fun h => absurd rfl (h x), ?_⟩
    rintro ⟨analysis, h⟩
    cases h
  | ok p =>
    refine ⟨fun _ => ⟨_, rfl⟩, fun _ x h => ?_⟩
    cases h

/-- The regions that fold are those of the analysis unless the profile folds nothing and its lexer
does not compile. In that case the one side is an empty list and the other side an error. In all
others both are pipelines, or both fail at the profile. -/
theorem outcome_folds_eq_iff (e : Engine) (source language : String) :
    e.outcome (folds source language) = e.foldsOfAnalysis source language ↔
      ∀ shared, e.outcome (profile language) = .ok shared → foldingOf shared = none →
        ∀ x, e.outcome (compiledLexer language) ≠ .error x := by
  unfold foldsOfAnalysis
  cases hprofile : e.outcome (profile language) with
  | error x =>
    refine ⟨fun _ _ h => ?_, fun _ => outcome_of_no_profile _ hprofile⟩
    cases h
  | ok shared =>
    show _ = (e.outcome (analyze source language) >>= fun analysis =>
      pure (foldsIn (foldingOf shared) analysis)) ↔ _
    cases hfolding : foldingOf shared with
    | some folding =>
      rw [outcome_folds_of_some hprofile hfolding]
      refine ⟨fun _ other hother hnone => ?_, fun _ => ?_⟩
      · obtain rfl := Except.ok.inj hother
        cases hfolding.symm.trans hnone
      · cases e.outcome (analyze source language) <;> rfl
    | none =>
      -- no region folds, which is what an analysis says too, if there is one
      rw [outcome_folds_of_none hprofile hfolding]
      have hanalysis : (.ok [] = e.outcome (analyze source language) >>= fun analysis =>
          (pure (foldsIn none analysis) : Except Error (List Fold))) ↔
          ∃ analysis, e.outcome (analyze source language) = .ok analysis := by
        cases e.outcome (analyze source language) with
        | error y =>
          refine ⟨fun h => ?_, ?_⟩
          · cases h
          · rintro ⟨analysis, h⟩
            cases h
        | ok analysis => exact ⟨fun _ => ⟨analysis, rfl⟩, fun _ => rfl⟩
      rw [hanalysis, ← compiles_iff_exists_analysis]
      exact ⟨fun h _ _ _ => h, fun h => h shared rfl hfolding⟩

/-- In any engine, the tokens, blocks and declarations of a text are those of its analysis, and
all of these fail with the error with which the lexer of the language does. The regions that fold
are those of the analysis too, but for one case: where the profile folds nothing there are none,
also if its lexer does not compile. -/
theorem outcomes_agree_iff (e : Engine) (source language : String) :
    (e.outcome (analyze source language)).map (fun _ => ()) =
        (e.outcome (compiledLexer language)).map (fun _ => ()) ∧
      e.outcome (tokenize source language) =
        (e.outcome (analyze source language)).map (·.tokens) ∧
      e.outcome (blockSpans source language) =
        (e.outcome (analyze source language)).map (·.spans) ∧
      e.outcome (symbols source language) =
        (e.outcome (analyze source language)).map (·.symbols) ∧
      (e.outcome (folds source language) = e.foldsOfAnalysis source language ↔
        ∀ shared, e.outcome (profile language) = .ok shared → foldingOf shared = none →
          ∀ x, e.outcome (compiledLexer language) ≠ .error x) ∧
      (∀ shared, e.outcome (profile language) = .ok shared → foldingOf shared = none →
        e.outcome (folds source language) = .ok []) := by
  refine ⟨?_, ?_, ?_, outcome_symbols e source language,
    outcome_folds_eq_iff e source language, fun _ => outcome_folds_of_none⟩
  · rw [outcome_analyze, outcome_compiledLexer]
    -- both fail while they prepare, or not at all
    cases e.outcome (prepare language) <;> rfl
  · rw [outcome_tokenize, outcome_analyze]
    cases e.outcome (prepare language) with
    | error x => rfl
    | ok p => exact congrArg Except.ok (tokens_analysisOf _ _ _ _).symm
  · rw [outcome_blockSpans, outcome_analyze]
    cases e.outcome (prepare language) with
    | error x => rfl
    | ok p => exact congrArg Except.ok (spans_analysisOf _ _ _ _).symm

/-- A language whose lexer starts in a state that it does not declare, and that folds nothing. -/
def brokenLexer : Engine :=
  new (Registry.after [.register { name := "toy", lexer := { initialState := some "missing" } }])
    {}

/-- The regions of a text that fold are found without the lexer, in a language that folds
nothing. -/
theorem outcomes_agree_iff_broken_lexer :
    brokenLexer.outcome (folds "x" "toy") = .ok [] :=
  (outcomes_agree_iff brokenLexer "x" "toy").2.2.2.2.2 _ rfl rfl

/-- Where the lexer of a language does not compile, the analysis fails, and the regions that fold
are found all the same. -/
theorem folds_of_broken_lexer :
    brokenLexer.outcome (analyze "x" "toy") =
        .error (.config "toy" (.unknownState .initial "missing")) ∧
      brokenLexer.outcome (folds "x" "toy") = .ok [] :=
  ⟨rfl, rfl⟩

end Polyglot.Engine
