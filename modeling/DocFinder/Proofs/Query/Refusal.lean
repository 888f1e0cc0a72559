import DocFinder.Proofs.Pattern.Refusal
import DocFinder.Proofs.Query.Compilation

namespace DocFinder

/-- Refusals that have a wording as refusals of a query. A pattern that cannot be judged has none, and
a misplaced smart name is a mistake of whoever built the query. -/
def QueryError.isParseError : QueryError → Bool
  | .uncompilable _ | .misplacedSmartName _ => false
  | _ => true

/-- What a caller is told about a refusal that is the fault of the query. -/
def QueryError.wording? : QueryError → Option String
  | .uncompilable reason => reason.complaint?
  | error => error.message?

theorem QueryError.message_some (error : QueryError) (parse : error.isParseError = true) :
    ∃ text, error.message? = some text ∧ error.wording? = some text := by
  cases error with
  | uncompilable reason => cases parse
  | _ => exact ⟨_, rfl, rfl⟩

namespace Query

theorem parse_error_iff (token : String) (error : QueryError) :
    Criterion.parse token = .error error ↔ Criterion.Refuses token error :=
  ⟨Criterion.parse_refusal token error, Criterion.parse_refuses token error⟩

theorem compile_error_iff (tokens : List String) (preset : String) (error : QueryError) :
    compile (tokens.map .token) preset = .error error ↔
      (preset ∉ presets ∧ error = .unknownPreset preset) ∨
      (preset ∈ presets ∧ ∃ before token after, tokens = before ++ token :: after ∧
        ∃ query, compile (before.map .token) preset = .ok query ∧
          (Criterion.Refuses token error ∨ error = .repeatedSmartName ∧
            query.smartName.isSome = true ∧ (Criterion.searched? token).isSome = true)) := by
  by_cases known : preset ∈ presets
  · simp only [compile_known _ _ known, ofTokens_error_iff, step_token_error_iff, parse_error_iff,
      known, not_true_eq_false, false_and, false_or, true_and]
  · simp only [compile_unknown _ _ known, Except.error.injEq, known, not_false_eq_true, true_and,
      false_and, or_false, eq_comm]

/-- The first token at fault asks for a pattern that does not compile, but not for its syntax. -/
def Unjudged (tokens : List String) (reason : Pattern.CompileError) : Prop :=
  ∃ before token after, tokens = before ++ token :: after ∧
    (∃ query, compile (before.map .token) defaultPreset = .ok query) ∧
    ∃ pattern, Criterion.AsksFor (Criterion.bodyOf token) pattern ∧
      (∀ fault, reason ≠ .fault fault) ∧ Pattern.Regex.compile pattern = .error reason

theorem compile_uncompilable_iff (tokens : List String) (preset : String)
    (reason : Pattern.CompileError) :
    compile (tokens.map .token) preset = .error (.uncompilable reason) ↔
      preset ∈ presets ∧ Unjudged tokens reason := by
  rw [compile_error_iff]
  constructor
  · rintro (⟨_, other⟩ | ⟨known, before, token, after, parts, query, front, fault⟩)
    · cases other
    · rw [compile_known _ _ known, ← compile_known _ defaultPreset (by decide)] at front
      rcases fault with refuses | ⟨other, _⟩
      · exact ⟨known, before, token, after, parts, ⟨query, front⟩, refuses⟩
      · cases other
  · rintro ⟨known, before, token, after, parts, ⟨query, front⟩, refuses⟩
    rw [compile_known _ defaultPreset (by decide), ← compile_known _ preset known] at front
    exact Or.inr ⟨known, before, token, after, parts, query, front, Or.inl refuses⟩

theorem unjudged_explained (tokens : List String) (reason : Pattern.CompileError)
    (unjudged : Unjudged tokens reason) :
    ∃ token ∈ tokens, ∃ pattern, Criterion.AsksFor (Criterion.bodyOf token) pattern ∧
      Pattern.Explains pattern.toList reason := by
  obtain ⟨before, token, after, rfl, _, pattern, asked, _, fails⟩ := unjudged
  refine ⟨token, by simp, pattern, asked, ?_⟩
  exact Pattern.compile_explained pattern reason fails

theorem compile_error_kind (tokens : List String) (preset : String) (error : QueryError)
    (refused : compile (tokens.map .token) preset = .error error) :
    error.isParseError = true ∨ ∃ reason, error = .uncompilable reason := by
  cases error with
  | uncompilable reason => exact Or.inr ⟨reason, rfl⟩
  | misplacedSmartName pattern =>
      rcases (compile_error_iff _ _ _).mp refused with
        ⟨_, other⟩ | ⟨_, _, token, _, _, _, _, fault⟩
      · cases other
      · rcases fault with ⟨_, _, impossible⟩ | ⟨other, _⟩
        · exact impossible.elim
        · cases other
  | _ => exact Or.inl rfl

/-- Tokens compile or are refused in the words of a query, unless a pattern cannot be judged. -/
theorem compile_worded_iff (tokens : List String) (preset : String) :
    (∀ reason, compile (tokens.map .token) preset ≠ .error (.uncompilable reason)) ↔
      (∃ query, compile (tokens.map .token) preset = .ok query) ∨
        ∃ error text, compile (tokens.map .token) preset = .error error ∧
          error.isParseError = true ∧ error.message? = some text := by
  cases compiled : compile (tokens.map .token) preset with
  | ok query => simp
  | error error =>
      constructor
      · intro judged
        rcases compile_error_kind tokens preset error compiled with parse | ⟨reason, rfl⟩
        · obtain ⟨text, worded, _⟩ := error.message_some parse
          exact Or.inr ⟨error, text, rfl, parse, worded⟩
        · exact absurd rfl (judged reason)
      · rintro (⟨query, other⟩ | ⟨_, _, same, parse, _⟩) reason uncompiled
        · cases other
        · cases same
          cases uncompiled
          cases parse

end Query

end DocFinder
