import DocFinder.Proofs.Attempts
import DocFinder.Proofs.Criterion.Grammar
import DocFinder.Query
import Mathlib.Data.List.Induction

/-! Queries and the criteria that they are compiled from: one matcher for each condition, in the same
order, and at most one smart name, wherever it stands. The first clause that is at fault is reported,
whatever comes behind it. -/

namespace DocFinder

/-- The matcher that a condition asks for. -/
inductive Condition.Means : Condition → Matcher → Prop
  | name {pattern : String} {regex : Pattern.Regex}
    (compiled : Pattern.Regex.compile pattern = .ok regex) :
    Means (.nameMatches pattern) (.nameMatches regex)
  | value {key value : String} : Means (.fieldEquals key value) (.field key (.equals value))
  | pattern {key pattern : String} {regex : Pattern.Regex}
    (compiled : Pattern.Regex.compile pattern = .ok regex) :
    Means (.fieldMatches key pattern) (.field key (.matches regex))

namespace Criterion

/-- The matcher that a criterion asks for. A smart name asks for none. -/
inductive Means : Criterion → Matcher → Prop
  | plain {condition : Condition} {matcher : Matcher} (means : condition.Means matcher) :
    Means (.simple condition false) matcher
  | negated {condition : Condition} {matcher : Matcher} (means : condition.Means matcher) :
    Means (.simple condition true) (.not matcher)

def smartName? : Criterion → Option String
  | smartName pattern => some pattern
  | simple _ _ => none

def searched? (token : String) : Option String := (parse token).toOption.bind smartName?

end Criterion

namespace Query

/-- A query says what criteria say. -/
structure Renders (criteria : List Criterion) (query : Query) : Prop where
  smartName : criteria.filterMap Criterion.smartName? = query.smartName.toList
  matchers : List.Forall₂ Criterion.Means (criteria.filter (·.smartName?.isNone)) query.matchers

theorem compileRegex_ok_iff (pattern : String) (regex : Pattern.Regex) :
    compileRegex pattern = .ok regex ↔ Pattern.Regex.compile pattern = .ok regex := by
  unfold compileRegex
  cases Pattern.Regex.compile pattern with
  | ok compiled => simp
  | error reason => cases reason <;> simp

theorem compile_ok_iff (condition : Condition) (matcher : Matcher) :
    condition.compile = .ok matcher ↔ condition.Means matcher := by
  cases condition with
  | nameMatches pattern =>
      rw [Condition.compile, bind_ok_iff]
      constructor
      · rintro ⟨regex, compiled, same⟩
        cases same
        exact .name ((compileRegex_ok_iff pattern regex).mp compiled)
      · intro means
        cases means with
        | name compiled => exact ⟨_, (compileRegex_ok_iff _ _).mpr compiled, rfl⟩
  | fieldEquals key value =>
      constructor
      · intro compiled
        cases compiled
        exact .value
      · intro means
        cases means
        rfl
  | fieldMatches key pattern =>
      rw [Condition.compile, bind_ok_iff]
      constructor
      · rintro ⟨regex, compiled, same⟩
        cases same
        exact .pattern ((compileRegex_ok_iff pattern regex).mp compiled)
      · intro means
        cases means with
        | pattern compiled => exact ⟨_, (compileRegex_ok_iff _ _).mpr compiled, rfl⟩

theorem add_smartName_iff (query next : Query) (pattern : String) :
    query.add (.smartName pattern) = .ok next ↔
      query.smartName = none ∧ next = { query with smartName := some pattern } := by
  cases smart : query.smartName <;> simp [add, smart, eq_comm]

theorem add_simple_iff (query next : Query) (condition : Condition) (negated : Bool) :
    query.add (.simple condition negated) = .ok next ↔
      ∃ matcher, (Criterion.simple condition negated).Means matcher ∧
        next = { query with matchers := query.matchers ++ [matcher] } := by
  rw [add, bind_ok_iff]
  constructor
  · rintro ⟨matcher, compiled, same⟩
    rw [compile_ok_iff] at compiled
    cases same
    cases negated with
    | false => exact ⟨matcher, .plain compiled, rfl⟩
    | true => exact ⟨.not matcher, .negated compiled, rfl⟩
  · rintro ⟨matcher, means, rfl⟩
    cases means with
    | plain means => exact ⟨_, (compile_ok_iff _ _).mpr means, rfl⟩
    | negated means => exact ⟨_, (compile_ok_iff _ _).mpr means, rfl⟩

theorem forall₂_concat_iff {α β : Type} {related : α → β → Prop} (items : List α) (item : α)
    (images : List β) :
    List.Forall₂ related (items ++ [item]) images ↔
      ∃ front image, List.Forall₂ related items front ∧ related item image ∧
        images = front ++ [image] := by
  rw [← List.forall₂_reverse_iff, List.reverse_append, List.reverse_singleton,
    List.singleton_append, List.forall₂_cons_left_iff]
  constructor
  · rintro ⟨image, front, holds, rest, reversed⟩
    refine ⟨front.reverse, image, ?_, holds, ?_⟩
    · rw [← List.forall₂_reverse_iff, List.reverse_reverse]
      exact rest
    · rw [← List.reverse_reverse images, reversed, List.reverse_cons]
  · rintro ⟨front, image, rest, holds, rfl⟩
    refine ⟨image, front.reverse, holds, ?_, by simp⟩
    rw [List.forall₂_reverse_iff]
    exact rest

theorem renders_snoc (criteria : List Criterion) (criterion : Criterion) (next : Query) :
    Renders (criteria ++ [criterion]) next ↔
      ∃ query, Renders criteria query ∧ query.add criterion = .ok next := by
  cases criterion with
  | smartName pattern =>
      simp only [add_smartName_iff]
      constructor
      · rintro ⟨names, matchers⟩
        simp only [List.filterMap_append, List.filterMap_cons, Criterion.smartName?,
          List.filterMap_nil] at names
        cases smart : next.smartName with
        | none => simp [smart] at names
        | some name =>
            rw [smart] at names
            obtain ⟨none_before, same⟩ := List.append_eq_singleton_iff.mp names |>.resolve_right
              (by simp)
            obtain rfl : pattern = name := by simpa using same
            refine ⟨{ next with smartName := none }, ⟨none_before, ?_⟩, rfl, ?_⟩
            · simpa [Criterion.smartName?] using matchers
            · rw [← smart]
      · rintro ⟨query, ⟨names, matchers⟩, free, rfl⟩
        refine ⟨?_, ?_⟩
        · simp [names, free, Criterion.smartName?]
        · simpa [Criterion.smartName?] using matchers
  | simple condition negated =>
      simp only [add_simple_iff]
      constructor
      · rintro ⟨names, matchers⟩
        simp only [List.filter_append, List.filter_cons, Criterion.smartName?, Option.isNone_none,
          if_true, List.filter_nil, forall₂_concat_iff] at matchers
        obtain ⟨front, matcher, before, means, all⟩ := matchers
        refine ⟨{ next with matchers := front }, ⟨?_, before⟩, matcher, means, ?_⟩
        · simpa [List.filterMap_cons, Criterion.smartName?] using names
        · rw [← all]
      · rintro ⟨query, ⟨names, matchers⟩, matcher, means, rfl⟩
        refine ⟨?_, ?_⟩
        · simpa [List.filterMap_cons, Criterion.smartName?] using names
        · simp only [List.filter_append, List.filter_cons, Criterion.smartName?,
            Option.isNone_none, if_true, List.filter_nil, forall₂_concat_iff]
          exact ⟨query.matchers, matcher, matchers, means, rfl⟩

def step (query : Query) (clause : Clause) : Except QueryError Query :=
  Clause.read clause >>= query.add

theorem step_ok_iff (query next : Query) (clause : Clause) :
    step query clause = .ok next ↔
      ∃ criterion, Clause.read clause = .ok criterion ∧ query.add criterion = .ok next :=
  bind_ok_iff _ _ _

theorem ofClauses_eq (clauses : List Clause) : ofClauses clauses = clauses.foldlM step ⟨none, []⟩ :=
  rfl

theorem ofClauses_snoc_iff (clauses : List Clause) (clause : Clause) (next : Query) :
    ofClauses (clauses ++ [clause]) = .ok next ↔
      ∃ query, ofClauses clauses = .ok query ∧ step query clause = .ok next := by
  rw [ofClauses_eq, List.foldlM_append, bind_ok_iff]
  simp only [List.foldlM_cons, List.foldlM_nil, bind_pure, ofClauses_eq]

theorem mapM_snoc_iff {ε α β : Type} (read : α → Except ε β) (items : List α) (item : α)
    (results : List β) :
    (items ++ [item]).mapM read = .ok results ↔
      ∃ front last, items.mapM read = .ok front ∧ read item = .ok last ∧
        results = front ++ [last] := by
  rw [List.mapM_append, bind_ok_iff]
  constructor
  · rintro ⟨front, before, more⟩
    rw [bind_ok_iff] at more
    obtain ⟨back, last, same⟩ := more
    rw [List.mapM_cons, bind_ok_iff] at last
    obtain ⟨result, read_last, rest⟩ := last
    cases rest
    cases same
    exact ⟨front, result, before, read_last, rfl⟩
  · rintro ⟨front, last, before, read_last, rfl⟩
    refine ⟨front, before, ?_⟩
    rw [bind_ok_iff]
    refine ⟨[last], ?_, rfl⟩
    rw [List.mapM_cons, read_last]
    rfl

theorem ofClauses_iff (clauses : List Clause) (query : Query) :
    ofClauses clauses = .ok query ↔
      ∃ criteria, clauses.mapM Clause.read = .ok criteria ∧ Renders criteria query := by
  induction clauses using List.reverseRecOn generalizing query with
  | nil =>
      constructor
      · intro compiled
        cases compiled
        exact ⟨[], rfl, rfl, .nil⟩
      · rintro ⟨criteria, read, names, matchers⟩
        cases read
        cases query with
        | mk smartName matchers =>
            cases smartName with
            | none =>
                cases matchers
                rfl
            | some name => cases names
  | append_singleton clauses clause ih =>
      rw [ofClauses_snoc_iff]
      constructor
      · rintro ⟨before, compiled, last⟩
        obtain ⟨criterion, read, added⟩ := (step_ok_iff _ _ _).mp last
        obtain ⟨criteria, read_before, renders⟩ := (ih before).mp compiled
        refine ⟨criteria ++ [criterion], ?_, (renders_snoc _ _ _).mpr ⟨before, renders, added⟩⟩
        exact (mapM_snoc_iff _ _ _ _).mpr ⟨criteria, criterion, read_before, read, rfl⟩
      · rintro ⟨criteria, read, renders⟩
        obtain ⟨front, last, read_before, read_last, rfl⟩ := (mapM_snoc_iff _ _ _ _).mp read
        obtain ⟨before, rendered, added⟩ := (renders_snoc _ _ _).mp renders
        refine ⟨before, (ih before).mpr ⟨front, read_before, rendered⟩, ?_⟩
        exact (step_ok_iff _ _ _).mpr ⟨last, read_last, added⟩

theorem compile_iff (clauses : List Clause) (preset : String) (query : Query) :
    compile clauses preset = .ok query ↔
      preset ∈ presets ∧ ∃ criteria, clauses.mapM Clause.read = .ok criteria ∧
        Renders criteria query := by
  by_cases known : preset ∈ presets
  · have contained : presets.contains preset = true := List.contains_iff_mem.mpr known
    rw [compile, if_pos contained, ofClauses_iff, and_iff_right known]
  · have missing : ¬ presets.contains preset = true := fun found =>
      known (List.contains_iff_mem.mp found)
    rw [compile, if_neg missing]
    simp [known]

theorem compile_unknown (clauses : List Clause) (preset : String) (unknown : preset ∉ presets) :
    compile clauses preset = .error (.unknownPreset preset) := by
  have missing : ¬ presets.contains preset = true := fun found =>
    unknown (List.contains_iff_mem.mp found)
  rw [compile, if_neg missing]

theorem compile_known (clauses : List Clause) (preset : String) (known : preset ∈ presets) :
    compile clauses preset = ofClauses clauses := by
  rw [compile, if_pos (List.contains_iff_mem.mpr known)]

section Tokens

theorem read_tokens (tokens : List String) :
    (tokens.map Clause.token).mapM Clause.read = Criterion.parseAll tokens :=
  List.mapM_map

theorem read_criteria (criteria : List Criterion) :
    (criteria.map Clause.criterion).mapM Clause.read = .ok criteria := by
  induction criteria with
  | nil => rfl
  | cons criterion rest ih =>
      rw [List.map_cons, List.mapM_cons, ih]
      rfl

theorem searched_criteria (tokens : List String) (criteria : List Criterion)
    (read : Criterion.parseAll tokens = .ok criteria) :
    tokens.filterMap Criterion.searched? = criteria.filterMap Criterion.smartName? := by
  induction tokens generalizing criteria with
  | nil =>
      cases read
      rfl
  | cons token rest ih =>
      rw [Criterion.parseAll, List.mapM_cons, bind_ok_iff] at read
      obtain ⟨criterion, first, more⟩ := read
      obtain ⟨later, others, same⟩ := (bind_ok_iff _ _ _).mp more
      cases same
      rw [List.filterMap_cons, List.filterMap_cons, ih later others, Criterion.searched?, first]
      rfl

theorem parsed_means (token : String) (condition : Condition) (negated : Bool)
    (read : Criterion.parse token = .ok (.simple condition negated)) :
    ∃ matcher, condition.compile = .ok matcher := by
  have admits := (Criterion.parse_sound token _ read).2.1
  cases condition with
  | nameMatches pattern =>
      obtain ⟨_, regex, compiled⟩ := admits
      exact ⟨_, (compile_ok_iff _ _).mpr (.name compiled)⟩
  | fieldEquals key value => exact ⟨_, rfl⟩
  | fieldMatches key pattern =>
      obtain ⟨_, _, regex, compiled⟩ := admits
      exact ⟨_, (compile_ok_iff _ _).mpr (.pattern compiled)⟩

theorem step_token_error_iff (query : Query) (token : String) (error : QueryError) :
    step query (.token token) = .error error ↔
      Criterion.parse token = .error error ∨
        error = .repeatedSmartName ∧ query.smartName.isSome = true ∧
          (Criterion.searched? token).isSome = true := by
  unfold step Criterion.searched?
  cases read : Criterion.parse token with
  | error cause => simp [Clause.read, read, bind, Except.bind, Except.toOption]
  | ok criterion =>
      cases criterion with
      | smartName pattern =>
          cases smart : query.smartName <;>
            simp [Clause.read, read, bind, Except.bind, Except.toOption, add, smart,
              Criterion.smartName?, eq_comm]
      | simple condition negated =>
          obtain ⟨matcher, compiled⟩ := parsed_means token condition negated read
          simp [Clause.read, read, bind, Except.bind, Except.toOption, add, compiled,
            Criterion.smartName?, pure, Except.pure]

theorem ofTokens_smartName (tokens : List String) (query : Query)
    (compiled : ofClauses (tokens.map .token) = .ok query) :
    tokens.filterMap Criterion.searched? = query.smartName.toList := by
  obtain ⟨criteria, read, renders⟩ := (ofClauses_iff _ _).mp compiled
  rw [read_tokens] at read
  rw [searched_criteria tokens criteria read, renders.smartName]

theorem ofTokens_error_iff (tokens : List String) (error : QueryError) :
    ofClauses (tokens.map .token) = .error error ↔
      ∃ before token after, tokens = before ++ token :: after ∧
        ∃ query, ofClauses (before.map .token) = .ok query ∧
          step query (.token token) = .error error := by
  simp only [ofClauses_eq, List.foldlM_map]
  exact foldlM_error_iff _ _ _ _

theorem ofTokens_some_iff (tokens : List String) :
    (∃ query, ofClauses (tokens.map .token) = .ok query) ↔
      (∃ criteria, Criterion.parseAll tokens = .ok criteria) ∧
        (tokens.filterMap Criterion.searched?).length ≤ 1 := by
  constructor
  · rintro ⟨query, compiled⟩
    obtain ⟨criteria, read, _⟩ := (ofClauses_iff _ _).mp compiled
    rw [read_tokens] at read
    refine ⟨⟨criteria, read⟩, ?_⟩
    rw [ofTokens_smartName tokens query compiled]
    exact Option.length_toList_le
  · rintro ⟨⟨criteria, read⟩, few⟩
    cases compiled : ofClauses (tokens.map .token) with
    | ok query => exact ⟨query, rfl⟩
    | error error =>
        exfalso
        obtain ⟨before, token, after, rfl, query, front, failed⟩ :=
          (ofTokens_error_iff tokens error).mp compiled
        rcases (step_token_error_iff query token error).mp failed with
          unread | ⟨_, smart, again⟩
        · rw [Criterion.parseAll, List.mapM_append, bind_ok_iff] at read
          obtain ⟨_, _, more⟩ := read
          obtain ⟨_, rest, _⟩ := (bind_ok_iff _ _ _).mp more
          rw [List.mapM_cons, unread] at rest
          cases rest
        · obtain ⟨name, named⟩ := Option.isSome_iff_exists.mp smart
          obtain ⟨other, found⟩ := Option.isSome_iff_exists.mp again
          rw [List.filterMap_append, ofTokens_smartName before query front, named,
            List.filterMap_cons, found] at few
          simp at few

end Tokens

/-- A query is compiled from tokens as from the criteria that they are read as: it has the one smart
name, if there is one, and the matchers of all other criteria in their order. A preset that is not
known is reported first, then the first token that cannot be read or is a second smart name. -/
theorem queries_follow_criteria :
    (∀ (tokens : List String) preset query, compile (tokens.map .token) preset = .ok query ↔
      ∃ criteria, Criterion.parseAll tokens = .ok criteria ∧
        compile (criteria.map .criterion) preset = .ok query) ∧
    (∀ clauses preset, preset ∈ presets → compile clauses preset = compile clauses defaultPreset) ∧
    (∀ clauses preset query, compile clauses preset = .ok query ↔
      preset ∈ presets ∧ ∃ criteria, clauses.mapM Clause.read = .ok criteria ∧
        Renders criteria query) ∧
    (∀ (tokens : List String) preset query, compile (tokens.map .token) preset = .ok query →
      tokens.filterMap Criterion.searched? = query.smartName.toList) ∧
    (∀ (tokens : List String) preset query, 2 ≤ (tokens.filterMap Criterion.searched?).length →
      compile (tokens.map .token) preset ≠ .ok query) ∧
    (∀ clauses preset, preset ∉ presets →
      compile clauses preset = .error (.unknownPreset preset)) ∧
    ∀ (tokens : List String) preset error, preset ∈ presets →
      (compile (tokens.map .token) preset = .error error ↔
        ∃ before token after, tokens = before ++ token :: after ∧
          (∃ criteria, Criterion.parseAll before = .ok criteria) ∧
          (before.filterMap Criterion.searched?).length ≤ 1 ∧
          (Criterion.parse token = .error error ∨
            error = .repeatedSmartName ∧ before.filterMap Criterion.searched? ≠ [] ∧
              (Criterion.searched? token).isSome = true)) := by
  have names (tokens : List String) (preset : String) (query : Query)
      (compiled : compile (tokens.map .token) preset = .ok query) :
      tokens.filterMap Criterion.searched? = query.smartName.toList := by
    obtain ⟨known, criteria, read, renders⟩ := (compile_iff _ _ _).mp compiled
    rw [read_tokens] at read
    rw [searched_criteria tokens criteria read, renders.smartName]
  refine ⟨?_, ?_, compile_iff, names, ?_, compile_unknown, ?_⟩
  · intro tokens preset query
    simp only [compile_iff, read_tokens, read_criteria]
    constructor
    · rintro ⟨known, criteria, read, renders⟩
      exact ⟨criteria, read, known, criteria, rfl, renders⟩
    · rintro ⟨criteria, read, known, again, same, renders⟩
      cases same
      exact ⟨known, criteria, read, renders⟩
  · intro clauses preset known
    rw [compile_known clauses preset known, compile_known clauses defaultPreset (by decide)]
  · intro tokens preset query several compiled
    rw [names tokens preset query compiled] at several
    have few : query.smartName.toList.length ≤ 1 := Option.length_toList_le
    omega
  · intro tokens preset error known
    rw [compile_known _ _ known, ofTokens_error_iff]
    constructor
    · rintro ⟨before, token, after, parts, query, front, failed⟩
      obtain ⟨read, few⟩ := (ofTokens_some_iff before).mp ⟨query, front⟩
      refine ⟨before, token, after, parts, read, few, ?_⟩
      rw [ofTokens_smartName before query front]
      rcases (step_token_error_iff query token error).mp failed with unread | ⟨same, smart, again⟩
      · exact Or.inl unread
      · exact Or.inr ⟨same, by simpa [Option.isSome_iff_ne_none] using smart, again⟩
    · rintro ⟨before, token, after, parts, read, few, fault⟩
      obtain ⟨query, front⟩ := (ofTokens_some_iff before).mpr ⟨read, few⟩
      refine ⟨before, token, after, parts, query, front, ?_⟩
      rw [ofTokens_smartName before query front] at fault
      rw [step_token_error_iff]
      rcases fault with unread | ⟨same, smart, again⟩
      · exact Or.inl unread
      · exact Or.inr ⟨same, by simpa [Option.isSome_iff_ne_none] using smart, again⟩

theorem second_name_before_range :
    (∃ query, compile (["k:v", ""].map .token) "" = .ok query ∧ query.smartName = some "" ∧
      query.matchers = [.field "k" (.equals "v")]) ∧
    compile (["", "k:v", "a", "k:<v"].map .token) "" = .error .repeatedSmartName := by
  obtain ⟨_, presets_alike, exactly, _, _, _, faults⟩ := queries_follow_criteria
  refine ⟨⟨⟨some "", [.field "k" (.equals "v")]⟩, ?_, rfl, rfl⟩, ?_⟩
  · apply (exactly _ _ _).mpr
    refine ⟨by decide, [.simple (.fieldEquals "k" "v") false, .smartName ""], ?_, rfl, ?_⟩
    · decide
    · exact .cons (.plain .value) .nil
  · apply (faults _ _ _ (by decide)).mpr
    refine ⟨["", "k:v"], "a", ["k:<v"], rfl, ?_, ?_, Or.inr ⟨rfl, ?_, ?_⟩⟩
    · exact ⟨[.smartName "", .simple (.fieldEquals "k" "v") false], by decide⟩
    · decide
    · decide
    · decide

end Query

end DocFinder
