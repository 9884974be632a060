import Polyglot.Proofs.Symbol.Search
import Polyglot.Symbol.Detect

/-!
# `Polyglot.Proofs.Symbol.Hits`: the matches of a run

A detector tries every rule at every token, one after the other, and keeps claims and symbols. The
matches themselves are not kept. Here they are: `Detector.hits` lists the matches of a run in the
order in which they are made, each with the rule, the token at which it was tried and all that it
bound.

A try depends on the claims made so far, so the list is made by a recursion over the tries that
carries these claims (`hitsOf`). `run_eq` says that it is the list of the run: its claims and
symbols are those that the run keeps, and hence its symbols in order are those that are answered
(`detect_eq`). `hitsOf_split` leads from a match in the list back to the try that made it, with the
claims of the matches before it.
-/

set_option autoImplicit false

namespace Polyglot

/-- A match in a run: a rule that was tried at a token, and what it bound. -/
structure Hit where
  /-- The rule. -/
  rule : SymbolRule
  /-- The token at which it was tried. -/
  start : Nat
  /-- The bindings in the order of the pattern. -/
  bound : List Binding
  /-- There is at least one. -/
  bound_ne_nil : bound ≠ []

namespace Hit

/-- The first token that is bound. -/
def first (hit : Hit) : Nat := (hit.bound.head hit.bound_ne_nil).index

/-- The last token that is bound. -/
def last (hit : Hit) : Nat := (hit.bound.getLast hit.bound_ne_nil).index

/-- The interval of tokens that is claimed. -/
def claim (hit : Hit) : Nat × Nat := (hit.first, hit.last)

/-- The match as rules see it. -/
def found (hit : Hit) : PatternMatch where
  first := hit.first
  last := hit.last
  captures := hit.bound.filterMap fun b => b.capture.map fun name => (name, b.index)

end Hit

namespace Detector

/-- The tokens that are looked at, when some of them are claimed. -/
def viewOf (d : Detector) (claims : List (Nat × Nat)) : TokenView := ⟨d.view, claims, d.defaultSkip⟩

/-- The match of a rule at a token, when some tokens are claimed. -/
def hit? (d : Detector) (claims : List (Nat × Nat)) (rule : SymbolRule) (start : Nat) :
    Option Hit :=
  if (d.viewOf claims).isClaimed start then none
  else
    match (d.viewOf claims).bindings? rule.pattern start with
    | some (b :: more) => some ⟨rule, start, b :: more, List.cons_ne_nil b more⟩
    | _ => none

/-- The matches of tries that are made in order, when some tokens are claimed already. -/
def hitsOf (d : Detector) : List (Nat × Nat) → List (SymbolRule × Nat) → List Hit
  | _, [] => []
  | claims, (rule, start) :: rest =>
    match d.hit? claims rule start with
    | none => d.hitsOf claims rest
    | some hit => hit :: d.hitsOf (hit.claim :: claims) rest

/-- The tries of a run: every rule at every token. -/
def tries (d : Detector) (rules : List SymbolRule) : List (SymbolRule × Nat) :=
  rules.flatMap fun rule => (List.range d.view.size).map fun start => (rule, start)

/-- The matches of a run in the order in which they are made. -/
def hits (d : Detector) (rules : List SymbolRule) : List Hit := d.hitsOf [] (d.tries rules)

/-- The claims of matches, the latest first. -/
def claimsOf (hits : List Hit) : List (Nat × Nat) := (hits.map (·.claim)).reverse

/-- The symbol of a match. -/
def symbolOf? (d : Detector) (hit : Hit) : Option Symbol := d.symbol? hit.rule hit.found

variable {d : Detector} {claims : List (Nat × Nat)} {rule : SymbolRule} {start : Nat} {hit : Hit}

/-! ### One try -/

/-- A try makes a match if its token is not claimed and the pattern binds something there. The match
then holds the rule and the token of the try and all bindings of the search. So a pattern that
matches without binding anything makes no match here. -/
theorem hit?_eq_some_iff : d.hit? claims rule start = some hit ↔
    (d.viewOf claims).isClaimed start = false ∧ hit.rule = rule ∧ hit.start = start ∧
      (d.viewOf claims).bindings? rule.pattern start = some hit.bound := by
  unfold hit?
  cases hclaimed : (d.viewOf claims).isClaimed start with
  | true => simp
  | false =>
    cases hbound : (d.viewOf claims).bindings? rule.pattern start with
    | none => simp
    | some bound =>
      cases bound with
      | nil =>
        -- a match binds something, so nothing that is bound is no match
        have hne : hit.bound ≠ [] := hit.bound_ne_nil
        simp [hne.symm]
      | cons b more =>
        obtain ⟨rule', start', bound', hne⟩ := hit
        simp only [Bool.false_eq_true, if_false, Option.some.injEq, Hit.mk.injEq, true_and,
          @eq_comm _ rule, @eq_comm _ start]

/-- A match as rules see it is made of the bindings of the search. Its first and last token are
those of the first and the last binding, and its captures are the bindings with a name. What else
was bound is lost in it, which is why `Hit` keeps the bindings themselves. -/
theorem match?_eq (view : TokenView) (rule : SymbolRule) (start : Nat) :
    view.match? rule.pattern start =
      match view.bindings? rule.pattern start with
      | some (b :: more) => some (Hit.mk rule start (b :: more) (List.cons_ne_nil b more)).found
      | _ => none := by
  rw [TokenView.match?, TokenView.search_eq]
  cases view.bindings? rule.pattern start with
  | none => rfl
  | some bound =>
    cases bound with
    | nil => rfl
    | cons b more =>
      have hlast := List.getLast?_eq_some_getLast (List.cons_ne_nil b more)
      simp [TokenView.outcome, Hit.found, Hit.first, Hit.last, hlast]

/-- What a match adds to a run: its claim and its symbol. -/
def record (d : Detector) (found : Found) (hit : Hit) : Found where
  claims := hit.claim :: found.claims
  symbols := (d.symbolOf? hit).toList ++ found.symbols

/-- A try adds its match, if there is one. The detector asks for the claim on the token and for the
match on its own, over the claims that it has found so far. These are the arguments of `hit?`, so
both sides ask the same search. -/
theorem tryAt_eq (d : Detector) (rule : SymbolRule) (found : Found) (start : Nat) :
    d.tryAt rule found start = (d.hit? found.claims rule start).elim found (d.record found) := by
  unfold tryAt hit?
  dsimp only
  rw [show (⟨d.view, found.claims, d.defaultSkip⟩ : TokenView) = d.viewOf found.claims from rfl,
    match?_eq]
  cases (d.viewOf found.claims).isClaimed start with
  | true => rfl
  | false =>
    cases (d.viewOf found.claims).bindings? rule.pattern start with
    | none => rfl
    | some bound =>
      cases bound with
      | nil => rfl
      | cons b more => rfl

/-! ### Runs -/

/-- Tries in order add their matches in order. Each try of the fold sees the claims that those
before it have made. `hitsOf` carries these claims along, so the induction is over the tries for any
claims found so far. -/
theorem foldl_tryAt_eq (d : Detector) (found : Found) (tries : List (SymbolRule × Nat)) :
    tries.foldl (fun found t => d.tryAt t.1 found t.2) found =
      (d.hitsOf found.claims tries).foldl d.record found := by
  induction tries generalizing found with
  | nil => rfl
  | cons t rest ih =>
    rw [List.foldl_cons, tryAt_eq, hitsOf]
    cases d.hit? found.claims t.1 t.2 with
    | none => exact ih found
    | some hit => exact ih (d.record found hit)

/-- Matches add their claims and symbols. Both are put in front of what was found before, so they
stand in reverse order there. A match without a symbol still adds its claim, which is why the
symbols are filtered and the claims are not. -/
theorem foldl_record_eq (d : Detector) (found : Found) (hits : List Hit) :
    hits.foldl d.record found =
      ⟨claimsOf hits ++ found.claims, (hits.filterMap d.symbolOf?).reverse ++ found.symbols⟩ := by
  induction hits generalizing found with
  | nil => rfl
  | cons hit rest ih =>
    rw [List.foldl_cons, ih, List.filterMap_cons]
    unfold record claimsOf
    cases d.symbolOf? hit with
    | none => simp
    | some symbol => simp

/-- A run is its tries. The detector goes over the tokens for each rule, one loop in the other.
`tries` is the flat list of the same rules and tokens, in the order of the two loops. -/
theorem foldl_tryRule_eq (d : Detector) (found : Found) (rules : List SymbolRule) :
    rules.foldl d.tryRule found =
      (d.tries rules).foldl (fun found t => d.tryAt t.1 found t.2) found := by
  rw [tries, List.foldl_flatMap]
  congr 1
  funext found rule
  rw [List.foldl_map]
  rfl

/-- A run keeps the claims and the symbols of its matches. This is the one place where the loop of
the detector is opened: what is said of a run elsewhere is said of the list of its matches. -/
theorem run_eq (d : Detector) (rules : List SymbolRule) :
    rules.foldl d.tryRule {} =
      ⟨claimsOf (d.hits rules), ((d.hits rules).filterMap d.symbolOf?).reverse⟩ := by
  rw [foldl_tryRule_eq, foldl_tryAt_eq, foldl_record_eq, List.append_nil, List.append_nil]
  rfl

/-- The answer of a run are the symbols of its matches, by start line. The run collects them in
reverse and turns them around before it sorts. The sort is stable, so on one line the symbols stand
in the order in which they were found. -/
theorem detect_eq (d : Detector) (rules : List SymbolRule) :
    d.detect rules = ((d.hits rules).filterMap d.symbolOf?).mergeSort
      fun a b => a.startLine ≤ b.startLine := by
  rw [detect, run_eq, List.reverse_reverse]

/-! ### Matches and tries -/

/-- Tries behind others are made with the claims of these. So a run over more rules, put behind the
others, starts with the run over the others and never changes it. -/
theorem hitsOf_append (d : Detector) (claims : List (Nat × Nat))
    (before after : List (SymbolRule × Nat)) :
    d.hitsOf claims (before ++ after) =
      d.hitsOf claims before ++ d.hitsOf (claimsOf (d.hitsOf claims before) ++ claims) after := by
  induction before generalizing claims with
  | nil => rfl
  | cons t rest ih =>
    rw [List.cons_append, hitsOf, hitsOf]
    cases d.hit? claims t.1 t.2 with
    | none => exact ih claims
    | some hit =>
      dsimp only
      rw [ih, List.cons_append]
      simp [claimsOf]

/-- A match was made by a try, with the claims of the matches before it. A try without a match
leaves the claims as they are, so the claims at the try are those of the earlier matches and the
ones from the start. -/
theorem hitsOf_split {tries : List (SymbolRule × Nat)} {earlier later : List Hit}
    (h : d.hitsOf claims tries = earlier ++ hit :: later) :
    (hit.rule, hit.start) ∈ tries ∧
      d.hit? (claimsOf earlier ++ claims) hit.rule hit.start = some hit := by
  induction tries generalizing claims earlier with
  | nil => simp [hitsOf] at h
  | cons t rest ih =>
    rw [hitsOf] at h
    cases hhit : d.hit? claims t.1 t.2 with
    | none =>
      rw [hhit] at h
      exact (ih h).imp_left (List.mem_cons_of_mem t)
    | some made =>
      rw [hhit] at h
      cases earlier with
      | nil =>
        obtain ⟨rfl, -⟩ := List.cons.inj h
        obtain ⟨-, hrule, hstart, -⟩ := hit?_eq_some_iff.mp hhit
        rw [hrule, hstart]
        exact ⟨List.mem_cons_self, hhit⟩
      | cons made' earlier =>
        -- a hit further on is made with the claim of this one among the earlier ones
        obtain ⟨rfl, hrest⟩ := List.cons.inj h
        have hmade := ih hrest
        rw [show claimsOf (made :: earlier) ++ claims = claimsOf earlier ++ made.claim :: claims by
          simp [claimsOf]]
        exact hmade.imp_left (List.mem_cons_of_mem t)

/-- Matches are all that a run makes, in order: the run keeps their claims and symbols, and each is
what the search finds where the rule is tried, over the claims of the matches before it. -/
structure Makes (d : Detector) (rules : List SymbolRule) (hits : List Hit) : Prop where
  /-- What the run keeps. -/
  kept : rules.foldl d.tryRule {} = ⟨claimsOf hits, (hits.filterMap d.symbolOf?).reverse⟩
  /-- The tries are made with rules of the run. -/
  rule_mem : ∀ hit ∈ hits, hit.rule ∈ rules
  /-- The bindings are those of the search. -/
  search : ∀ earlier hit later, hits = earlier ++ hit :: later →
    (d.viewOf (claimsOf earlier)).search hit.rule.pattern hit.start #[] =
      (true, hit.bound.toArray)
  /-- The match is the one that is made of them. -/
  match? : ∀ earlier hit later, hits = earlier ++ hit :: later →
    (d.viewOf (claimsOf earlier)).match? hit.rule.pattern hit.start = some hit.found

/-- A match was made by a try of its rule, and a run only tries the rules that it is given. -/
theorem rule_mem_of_mem_hitsOf {rules : List SymbolRule}
    (h : hit ∈ d.hitsOf claims (d.tries rules)) : hit.rule ∈ rules := by
  obtain ⟨earlier, later, hsplit⟩ := List.append_of_mem h
  have htry := (hitsOf_split hsplit).1
  obtain ⟨rule, hrule, hstart⟩ := List.mem_flatMap.mp htry
  obtain ⟨start, -, heq⟩ := List.mem_map.mp hstart
  rw [← (Prod.mk.inj heq).1]
  exact hrule

/-- What is bound in a run are the bindings of the search, over the claims so far. A run starts
without claims, so these are just the claims of the earlier matches. -/
theorem bindings?_of_hits {rules : List SymbolRule} {earlier later : List Hit}
    (h : d.hits rules = earlier ++ hit :: later) :
    (d.viewOf (claimsOf earlier)).bindings? hit.rule.pattern hit.start = some hit.bound := by
  have hmade := (hitsOf_split h).2
  rw [List.append_nil] at hmade
  exact (hit?_eq_some_iff.mp hmade).2.2.2

/-- The list of matches is the one of the run: it has all of the properties that `Makes` asks for.
Of another list they would not hold, since each match is tied to what the search finds over the
claims of those before it. -/
theorem makes_hits (d : Detector) (rules : List SymbolRule) : d.Makes rules (d.hits rules) where
  kept := run_eq d rules
  rule_mem := fun _ hmem => rule_mem_of_mem_hitsOf hmem
  search := by
    intro earlier hit later h
    rw [TokenView.search_eq, bindings?_of_hits h]
    simp [TokenView.outcome]
  match? := by
    intro earlier hit later h
    obtain ⟨rule, start, bound, hne⟩ := hit
    rw [match?_eq, bindings?_of_hits h]
    cases bound with
    | nil => exact absurd rfl hne
    | cons b more => rfl

end Detector

end Polyglot
