import DocFinder.Criterion

/-! The grammar of tokens: which token writes which criterion, and why any other is refused. The text
of a criterion is the token that it is read from, so that no two tokens are read alike. -/

namespace DocFinder.Criterion

/-- A text between two slashes. A single slash is not one. -/
def Slashed (text : String) : Prop := ∃ inside, text = "/" ++ inside ++ "/"

def BeginsWith (mark : Char) (text : String) : Prop := text.toList.head? = some mark

instance (mark : Char) (text : String) : Decidable (BeginsWith mark text) :=
  inferInstanceAs (Decidable (text.toList.head? = some mark))

def Compiles (pattern : String) : Prop := ∃ regex, Pattern.Regex.compile pattern = .ok regex

def bodyOf (token : String) : String :=
  match token.toList with
  | '!' :: body => .ofList body
  | _ => token

structure KeyFits (body key : String) : Prop where
  unslashed : ¬ Slashed body
  noExpression : ¬ BeginsWith '=' body
  noColon : ':' ∉ key.toList

structure IsField (body key value : String) : Prop extends KeyFits body key where
  parts : body = key ++ ":" ++ value

structure IsName (body : String) : Prop where
  unslashed : ¬ Slashed body
  noExpression : ¬ BeginsWith '=' body
  noColon : ':' ∉ body.toList

def Admits (body : String) : Condition → Prop
  | .nameMatches pattern => body = "/" ++ pattern ++ "/" ∧ Compiles pattern
  | .fieldMatches key pattern => KeyFits body key ∧ key ≠ "contents" ∧ Compiles pattern
  | .fieldEquals key value =>
    KeyFits body key ∧ key ≠ "contents" ∧
      ¬ BeginsWith '<' value ∧ ¬ BeginsWith '>' value ∧ ¬ Slashed value

/-- What a token has to be so that it may write a criterion. -/
def Allows (token : String) : Criterion → Prop
  | .smartName pattern => pattern = token ∧ ¬ BeginsWith '!' token ∧ IsName token
  | .simple condition negated =>
    Admits (bodyOf token) condition ∧ (negated = true ↔ BeginsWith '!' token)

/-- A body asks for a regex, as a whole or as the value of a field. -/
def AsksFor (body pattern : String) : Prop :=
  body = "/" ++ pattern ++ "/" ∨
    ∃ key, IsField body key ("/" ++ pattern ++ "/") ∧ key ≠ "contents"

def Ranged (value : String) : Prop := BeginsWith '<' value ∨ BeginsWith '>' value

instance (value : String) : Decidable (Ranged value) :=
  inferInstanceAs (Decidable (BeginsWith '<' value ∨ BeginsWith '>' value))

def FaultOf (pattern : String) : QueryError → Prop
  | .badRegex named fault =>
    named = pattern ∧ Pattern.Regex.compile pattern = .error (.fault fault)
  | .uncompilable reason =>
    (∀ fault, reason ≠ .fault fault) ∧ Pattern.Regex.compile pattern = .error reason
  | _ => False

def Refuses (token : String) : QueryError → Prop
  | .unsupported .expression named =>
    named = token ∧ ¬ Slashed (bodyOf token) ∧ BeginsWith '=' (bodyOf token)
  | .unsupported .range named =>
    named = token ∧ ∃ key value, IsField (bodyOf token) key value ∧ Ranged value
  | .unsupported .contents named =>
    named = token ∧ ∃ value, IsField (bodyOf token) "contents" value ∧ ¬ Ranged value
  | .negatedSmartName named => named = token ∧ BeginsWith '!' token ∧ IsName (bodyOf token)
  | error => ∃ pattern, AsksFor (bodyOf token) pattern ∧ FaultOf pattern error

theorem slashed_some_iff (text inside : List Char) :
    slashed? text = some inside ↔ text = '/' :: (inside ++ ['/']) := by
  constructor
  · intro found
    unfold slashed? at found
    split at found
    · next rest =>
      split at found
      · next last =>
        obtain ⟨between, rfl⟩ := List.getLast?_eq_some_iff.mp last
        rw [List.dropLast_concat, Option.some.injEq] at found
        rw [found]
      · cases found
    · cases found
  · rintro rfl
    simp [slashed?]

theorem slashed_text (text inside : String) :
    text = "/" ++ inside ++ "/" ↔ slashed? text.toList = some inside.toList := by
  rw [slashed_some_iff, ← String.toList_inj]
  simp

theorem unslashed_iff (text : String) : ¬ Slashed text ↔ slashed? text.toList = none := by
  rw [Option.eq_none_iff_forall_ne_some]
  constructor
  · intro unslashed inside found
    apply unslashed
    exact ⟨.ofList inside, (slashed_text _ _).mpr (by rw [found, String.toList_ofList])⟩
  · rintro never ⟨inside, between⟩
    exact never inside.toList ((slashed_text text inside).mp between)

theorem splitColon_some_iff (text key value : List Char) :
    splitColon? text = some (key, value) ↔ text = key ++ ':' :: value ∧ ':' ∉ key := by
  induction text generalizing key with
  | nil => simp [splitColon?]
  | cons c rest ih =>
      by_cases colon : c = ':'
      · subst c
        cases key with
        | nil => simp [splitColon?]
        | cons k key =>
            simp only [splitColon?, if_true, Option.some.injEq, Prod.mk.injEq, reduceCtorEq,
              false_and, false_iff, List.cons_append, List.cons.injEq, List.mem_cons, not_or]
            rintro ⟨⟨same, _⟩, other, _⟩
            exact other same
      · cases key with
        | nil => simp [splitColon?, colon]
        | cons k key =>
            have later := ih key
            simp only [splitColon?, colon, if_false, Option.map_eq_some_iff, Prod.mk.injEq,
              List.cons.injEq, List.cons_append, List.mem_cons, not_or]
            constructor
            · rintro ⟨⟨front, back⟩, found, ⟨rfl, rfl⟩, rfl⟩
              obtain ⟨parts, absent⟩ := later.mp found
              exact ⟨⟨rfl, parts⟩, Ne.symm colon, absent⟩
            · rintro ⟨⟨rfl, parts⟩, _, absent⟩
              exact ⟨(key, value), later.mpr ⟨parts, absent⟩, ⟨rfl, rfl⟩, rfl⟩

theorem splitColon_none_iff (text : List Char) : splitColon? text = none ↔ ':' ∉ text := by
  induction text with
  | nil => simp [splitColon?]
  | cons c rest ih =>
      by_cases colon : c = ':'
      · simp [splitColon?, colon]
      · simp [splitColon?, colon, ih, Ne.symm colon]

theorem range_iff (value : String) : isRange value.toList = true ↔ Ranged value := by
  unfold Ranged BeginsWith isRange
  split
  · next rest shape => simp [shape]
  · next rest shape => simp [shape]
  · next noLess noMore =>
    rcases shape : value.toList with _ | ⟨c, rest⟩
    · simp
    · have less : c ≠ '<' := fun same => noLess rest (by rw [shape, same])
      have more : c ≠ '>' := fun same => noMore rest (by rw [shape, same])
      simp [less, more]

theorem token_parts (token : String) :
    token = (if BeginsWith '!' token then "!" else "") ++ bodyOf token ∧
      parse token = parseBody token (decide (BeginsWith '!' token)) (bodyOf token).toList := by
  by_cases marked : BeginsWith '!' token
  · obtain ⟨body, shape⟩ := List.head?_eq_some_iff.mp marked
    have behind : bodyOf token = .ofList body := by simp only [bodyOf, shape]
    rw [if_pos marked, behind, decide_eq_true marked, String.toList_ofList]
    constructor
    · rw [← String.toList_inj, shape]
      simp
    · simp only [parse, shape]
  · have unmarked : ∀ body, token.toList ≠ '!' :: body := by
      intro body shape
      exact marked (List.head?_eq_some_iff.mpr ⟨body, shape⟩)
    have whole : bodyOf token = token := by
      unfold bodyOf
      split
      · next body shape => exact absurd shape (unmarked body)
      · rfl
    rw [if_neg marked, whole, decide_eq_false marked, String.empty_append]
    refine ⟨rfl, ?_⟩
    unfold parse
    split
    · next body shape => exact absurd shape (unmarked body)
    · rfl

theorem bodyOf_plain (token : String) (plain : ¬ BeginsWith '!' token) : bodyOf token = token := by
  have whole := (token_parts token).1
  rw [if_neg plain, String.empty_append] at whole
  exact whole.symm

section

variable (token body : String) (negated : Bool)

theorem parseBody_slashed (pattern : String) (between : body = "/" ++ pattern ++ "/") :
    parseBody token negated body.toList =
      (compileRegex pattern).map fun _ => .simple (.nameMatches pattern) negated := by
  simp only [parseBody, (slashed_text body pattern).mp between, String.ofList_toList]
  cases compileRegex pattern <;> rfl

theorem parseBody_expression (unslashed : ¬ Slashed body) (expression : BeginsWith '=' body) :
    parseBody token negated body.toList = .error (.unsupported .expression token) := by
  have marked : body.toList.head? = some '=' := expression
  simp only [parseBody, (unslashed_iff body).mp unslashed, marked, if_true]

theorem parseBody_name (name : IsName body) :
    parseBody token negated body.toList =
      if negated then .error (.negatedSmartName token) else .ok (.smartName body) := by
  have unmarked : ¬ body.toList.head? = some '=' := name.noExpression
  simp only [parseBody, (unslashed_iff body).mp name.unslashed, unmarked, if_false,
    (splitColon_none_iff _).mpr name.noColon, String.ofList_toList]

/-- What is read from a field: ranges and contents are refused before its value is looked at. -/
theorem parseBody_field (key value : String) (field : IsField body key value) :
    parseBody token negated body.toList =
      if Ranged value then .error (.unsupported .range token)
      else if key = "contents" then .error (.unsupported .contents token)
      else
        match slashed? value.toList with
        | some pattern =>
          (compileRegex (.ofList pattern)).map fun _ =>
            .simple (.fieldMatches key (.ofList pattern)) negated
        | none => .ok (.simple (.fieldEquals key value) negated) := by
  have unmarked : ¬ body.toList.head? = some '=' := field.noExpression
  have split : splitColon? body.toList = some (key.toList, value.toList) := by
    rw [splitColon_some_iff, field.parts]
    exact ⟨by simp, field.noColon⟩
  have contents : key.toList = contentsKey ↔ key = "contents" := String.toList_inj
  simp only [parseBody, (unslashed_iff body).mp field.unslashed, unmarked, if_false, split,
    range_iff, contents, String.ofList_toList]
  rfl

theorem parseBody_range (key value : String) (field : IsField body key value)
    (ranged : Ranged value) :
    parseBody token negated body.toList = .error (.unsupported .range token) := by
  rw [parseBody_field token body negated key value field, if_pos ranged]

theorem parseBody_contents (value : String) (field : IsField body "contents" value)
    (plain : ¬ Ranged value) :
    parseBody token negated body.toList = .error (.unsupported .contents token) := by
  rw [parseBody_field token body negated "contents" value field, if_neg plain, if_pos rfl]

theorem slashed_plain (pattern : String) : ¬ Ranged ("/" ++ pattern ++ "/") := by
  simp [Ranged, BeginsWith]

theorem parseBody_matches (key pattern : String)
    (field : IsField body key ("/" ++ pattern ++ "/")) (other : key ≠ "contents") :
    parseBody token negated body.toList =
      (compileRegex pattern).map fun _ => .simple (.fieldMatches key pattern) negated := by
  rw [parseBody_field token body negated key _ field, if_neg (slashed_plain pattern), if_neg other,
    (slashed_text _ pattern).mp rfl]
  simp only [String.ofList_toList]

theorem parseBody_equals (key value : String) (field : IsField body key value)
    (other : key ≠ "contents") (plain : ¬ Ranged value) (unslashed : ¬ Slashed value) :
    parseBody token negated body.toList = .ok (.simple (.fieldEquals key value) negated) := by
  rw [parseBody_field token body negated key value field, if_neg plain, if_neg other,
    (unslashed_iff value).mp unslashed]

end

theorem body_form (body : String) :
    (∃ pattern, body = "/" ++ pattern ++ "/") ∨ (¬ Slashed body ∧ BeginsWith '=' body) ∨
      (∃ key value, IsField body key value) ∨ IsName body := by
  by_cases slashed : Slashed body
  · exact Or.inl slashed
  by_cases expression : BeginsWith '=' body
  · exact Or.inr (Or.inl ⟨slashed, expression⟩)
  cases split : splitColon? body.toList with
  | none =>
      have noColon := (splitColon_none_iff _).mp split
      exact Or.inr (Or.inr (Or.inr ⟨slashed, expression, noColon⟩))
  | some parts =>
      obtain ⟨key, value⟩ := parts
      obtain ⟨whole, noColon⟩ := (splitColon_some_iff _ _ _).mp split
      refine Or.inr (Or.inr (Or.inl ⟨.ofList key, .ofList value, ⟨slashed, expression, ?_⟩, ?_⟩))
      · rwa [String.toList_ofList]
      · rw [← String.toList_inj, whole]
        simp

/-- Every field is refused, asks for a regex or asks for a value. -/
theorem field_form (key value : String) :
    Ranged value ∨ (key = "contents" ∧ ¬ Ranged value) ∨
      (key ≠ "contents" ∧ ∃ pattern, value = "/" ++ pattern ++ "/") ∨
        (key ≠ "contents" ∧ ¬ Ranged value ∧ ¬ Slashed value) := by
  by_cases ranged : Ranged value
  · exact Or.inl ranged
  by_cases contents : key = "contents"
  · exact Or.inr (Or.inl ⟨contents, ranged⟩)
  by_cases slashed : Slashed value
  · exact Or.inr (Or.inr (Or.inl ⟨contents, slashed⟩))
  · exact Or.inr (Or.inr (Or.inr ⟨contents, ranged, slashed⟩))

theorem compileRegex_map_ok (pattern : String) (read criterion : Criterion) :
    ((compileRegex pattern).map fun _ => read) = .ok criterion ↔
      Compiles pattern ∧ criterion = read := by
  unfold compileRegex Compiles
  cases Pattern.Regex.compile pattern with
  | ok regex => simp [Except.map, eq_comm]
  | error reason => cases reason <;> simp [Except.map]

theorem compileRegex_map_error (pattern : String) (read : Criterion) (error : QueryError) :
    ((compileRegex pattern).map fun _ => read) = .error error ↔ FaultOf pattern error := by
  unfold compileRegex
  cases compiled : Pattern.Regex.compile pattern with
  | ok regex => cases error <;> simp [Except.map, FaultOf, compiled]
  | error reason =>
      cases reason <;> cases error <;> simp only [Except.map, FaultOf, compiled] <;> grind

theorem simple_text (token : String) (condition : Condition) :
    (Criterion.simple condition (decide (BeginsWith '!' token))).text = token ↔
      condition.text = bodyOf token := by
  have whole := (token_parts token).1
  have mark : (Criterion.simple condition (decide (BeginsWith '!' token))).text =
      (if BeginsWith '!' token then "!" else "") ++ condition.text := by
    simp only [Criterion.text, decide_eq_true_eq]
  rw [mark]
  constructor
  · intro same
    have cancelled := congrArg String.toList (same.trans whole)
    rw [String.toList_append, String.toList_append, List.append_cancel_left_eq] at cancelled
    exact String.toList_injective cancelled
  · intro same
    rw [same]
    exact whole.symm

theorem parse_sound (token : String) (criterion : Criterion)
    (accepted : parse token = .ok criterion) :
    criterion.text = token ∧ Allows token criterion := by
  rw [(token_parts token).2] at accepted
  rcases body_form (bodyOf token) with
    ⟨pattern, between⟩ | ⟨unslashed, expression⟩ | ⟨key, value, field⟩ | name
  · rw [parseBody_slashed token _ _ pattern between, compileRegex_map_ok] at accepted
    obtain ⟨compiles, rfl⟩ := accepted
    exact ⟨(simple_text _ _).mpr between.symm, ⟨between, compiles⟩, decide_eq_true_iff⟩
  · rw [parseBody_expression token _ _ unslashed expression] at accepted
    cases accepted
  · rcases field_form key value with
      ranged | ⟨rfl, plain⟩ | ⟨other, pattern, rfl⟩ | ⟨other, plain, unslashed⟩
    · rw [parseBody_range token _ _ key value field ranged] at accepted
      cases accepted
    · rw [parseBody_contents token _ _ value field plain] at accepted
      cases accepted
    · rw [parseBody_matches token _ _ key pattern field other, compileRegex_map_ok] at accepted
      obtain ⟨compiles, rfl⟩ := accepted
      have written : (Condition.fieldMatches key pattern).text = bodyOf token := by
        rw [field.parts, Condition.text, ← String.toList_inj]
        simp
      exact ⟨(simple_text _ _).mpr written, ⟨field.toKeyFits, other, compiles⟩, decide_eq_true_iff⟩
    · rw [parseBody_equals token _ _ key value field other plain unslashed] at accepted
      cases accepted
      obtain ⟨noLess, noMore⟩ := not_or.mp plain
      exact ⟨(simple_text _ _).mpr field.parts.symm,
        ⟨field.toKeyFits, other, noLess, noMore, unslashed⟩, decide_eq_true_iff⟩
  · rw [parseBody_name token _ _ name] at accepted
    by_cases marked : BeginsWith '!' token
    · rw [decide_eq_true marked] at accepted
      cases accepted
    · rw [decide_eq_false marked, bodyOf_plain token marked] at accepted
      rw [bodyOf_plain token marked] at name
      cases accepted
      exact ⟨rfl, rfl, marked, name⟩

theorem parse_complete (token : String) (criterion : Criterion) (text : criterion.text = token)
    (allowed : Allows token criterion) : parse token = .ok criterion := by
  rw [(token_parts token).2]
  cases criterion with
  | smartName pattern =>
      obtain ⟨rfl, plain, name⟩ := allowed
      rw [bodyOf_plain pattern plain, parseBody_name pattern _ _ name, decide_eq_false plain]
      rfl
  | simple condition negated =>
      obtain ⟨admits, mark⟩ := allowed
      have same : negated = decide (BeginsWith '!' token) := by
        rw [Bool.eq_iff_iff, mark, decide_eq_true_iff]
      subst negated
      rw [simple_text] at text
      cases condition with
      | nameMatches pattern =>
          obtain ⟨between, compiles⟩ := admits
          rw [parseBody_slashed token _ _ pattern between, compileRegex_map_ok]
          exact ⟨compiles, rfl⟩
      | fieldEquals key value =>
          obtain ⟨fits, other, noLess, noMore, unslashed⟩ := admits
          have plain : ¬ Ranged value := not_or.mpr ⟨noLess, noMore⟩
          exact parseBody_equals token _ _ key value ⟨fits, text.symm⟩ other plain unslashed
      | fieldMatches key pattern =>
          obtain ⟨fits, other, compiles⟩ := admits
          have parts : bodyOf token = key ++ ":" ++ ("/" ++ pattern ++ "/") := by
            rw [← text, Condition.text, ← String.toList_inj]
            simp
          rw [parseBody_matches token _ _ key pattern ⟨fits, parts⟩ other, compileRegex_map_ok]
          exact ⟨compiles, rfl⟩

theorem refuses_fault (token pattern : String) (error : QueryError)
    (asked : AsksFor (bodyOf token) pattern) (fault : FaultOf pattern error) :
    Refuses token error := by
  cases error with
  | badRegex _ _ | uncompilable _ => exact ⟨pattern, asked, fault⟩
  | _ => exact fault.elim

theorem parse_refusal (token : String) (error : QueryError)
    (refused : parse token = .error error) : Refuses token error := by
  rw [(token_parts token).2] at refused
  rcases body_form (bodyOf token) with
    ⟨pattern, between⟩ | ⟨unslashed, expression⟩ | ⟨key, value, field⟩ | name
  · rw [parseBody_slashed token _ _ pattern between, compileRegex_map_error] at refused
    exact refuses_fault token pattern error (Or.inl between) refused
  · rw [parseBody_expression token _ _ unslashed expression] at refused
    cases refused
    exact ⟨rfl, unslashed, expression⟩
  · rcases field_form key value with
      ranged | ⟨rfl, plain⟩ | ⟨other, pattern, rfl⟩ | ⟨other, plain, unslashed⟩
    · rw [parseBody_range token _ _ key value field ranged] at refused
      cases refused
      exact ⟨rfl, key, value, field, ranged⟩
    · rw [parseBody_contents token _ _ value field plain] at refused
      cases refused
      exact ⟨rfl, value, field, plain⟩
    · rw [parseBody_matches token _ _ key pattern field other, compileRegex_map_error] at refused
      exact refuses_fault token pattern error (Or.inr ⟨key, field, other⟩) refused
    · rw [parseBody_equals token _ _ key value field other plain unslashed] at refused
      cases refused
  · rw [parseBody_name token _ _ name] at refused
    by_cases marked : BeginsWith '!' token
    · rw [decide_eq_true marked] at refused
      cases refused
      exact ⟨rfl, marked, name⟩
    · rw [decide_eq_false marked] at refused
      cases refused

theorem parse_fault (token pattern : String) (error : QueryError)
    (asked : AsksFor (bodyOf token) pattern) (fault : FaultOf pattern error) :
    parse token = .error error := by
  rw [(token_parts token).2]
  rcases asked with between | ⟨key, field, other⟩
  · rw [parseBody_slashed token _ _ pattern between, compileRegex_map_error]
    exact fault
  · rw [parseBody_matches token _ _ key pattern field other, compileRegex_map_error]
    exact fault

theorem parse_refuses (token : String) (error : QueryError) (refuses : Refuses token error) :
    parse token = .error error := by
  have read := (token_parts token).2
  cases error with
  | unsupported feature named =>
      cases feature with
      | expression =>
          obtain ⟨rfl, unslashed, expression⟩ := refuses
          exact read.trans (parseBody_expression _ _ _ unslashed expression)
      | range =>
          obtain ⟨rfl, key, value, field, ranged⟩ := refuses
          exact read.trans (parseBody_range _ _ _ key value field ranged)
      | contents =>
          obtain ⟨rfl, value, field, plain⟩ := refuses
          exact read.trans (parseBody_contents _ _ _ value field plain)
  | negatedSmartName named =>
      obtain ⟨rfl, marked, name⟩ := refuses
      rw [read, parseBody_name _ _ _ name, decide_eq_true marked]
      rfl
  | badRegex _ _ | uncompilable _ =>
      obtain ⟨pattern, asked, fault⟩ := refuses
      exact parse_fault token pattern _ asked fault
  | repeatedSmartName | unknownPreset _ | misplacedSmartName _ =>
      obtain ⟨_, _, fault⟩ := refuses
      exact fault.elim

/-- Syntax is told to be unsupported where no slashes enclose it and it is an expression, a range or
a search in contents. -/
theorem parse_unsupported_iff (token : String) :
    (∃ feature named, parse token = .error (.unsupported feature named)) ↔
      ¬ Slashed (bodyOf token) ∧
        (BeginsWith '=' (bodyOf token) ∨
          ∃ key value, bodyOf token = key ++ ":" ++ value ∧ ':' ∉ key.toList ∧
            (Ranged value ∨ key = "contents")) := by
  constructor
  · rintro ⟨feature, named, refused⟩
    have refuses := parse_refusal token _ refused
    cases feature with
    | expression =>
        obtain ⟨_, unslashed, expression⟩ := refuses
        exact ⟨unslashed, Or.inl expression⟩
    | range =>
        obtain ⟨_, key, value, field, ranged⟩ := refuses
        exact ⟨field.unslashed, Or.inr ⟨key, value, field.parts, field.noColon, Or.inl ranged⟩⟩
    | contents =>
        obtain ⟨_, value, field, _⟩ := refuses
        exact ⟨field.unslashed, Or.inr ⟨_, value, field.parts, field.noColon, Or.inr rfl⟩⟩
  · rintro ⟨unslashed, unsupported⟩
    by_cases expression : BeginsWith '=' (bodyOf token)
    · exact ⟨_, token, parse_refuses token (.unsupported .expression token)
        ⟨rfl, unslashed, expression⟩⟩
    obtain ⟨key, value, parts, noColon, reason⟩ := unsupported.resolve_left expression
    have field : IsField (bodyOf token) key value := ⟨⟨unslashed, expression, noColon⟩, parts⟩
    by_cases ranged : Ranged value
    · exact ⟨_, token, parse_refuses token (.unsupported .range token)
        ⟨rfl, key, value, field, ranged⟩⟩
    · obtain rfl := reason.resolve_left ranged
      exact ⟨_, token, parse_refuses token (.unsupported .contents token)
        ⟨rfl, value, field, ranged⟩⟩

/-- A token is read as a criterion if and only if it is the text of the criterion and keeps to the
grammar, so that no two tokens are read alike. Any other token is refused, with a reason that it
gives itself. -/
theorem tokens_read_by_grammar :
    (∀ token criterion, parse token = .ok criterion ↔
      criterion.text = token ∧ Allows token criterion) ∧
    (∀ token criterion, parse token = .ok criterion → criterion.text = token) ∧
    (∀ first second criterion, parse first = .ok criterion → parse second = .ok criterion →
      first = second) ∧
    (∀ token error, parse token = .error error ↔ Refuses token error) ∧
    ∀ token, (∃ feature named, parse token = .error (.unsupported feature named)) ↔
      ¬ Slashed (bodyOf token) ∧
        (BeginsWith '=' (bodyOf token) ∨
          ∃ key value, bodyOf token = key ++ ":" ++ value ∧ ':' ∉ key.toList ∧
            (Ranged value ∨ key = "contents")) := by
  refine ⟨?_, ?_, ?_, ?_, parse_unsupported_iff⟩
  · intro token criterion
    constructor
    · exact parse_sound token criterion
    · rintro ⟨text, allowed⟩
      exact parse_complete token criterion text allowed
  · intro token criterion accepted
    exact (parse_sound token criterion accepted).1
  · intro first second criterion one other
    calc
      first = criterion.text := (parse_sound first criterion one).1.symm
      _ = second := (parse_sound second criterion other).1
  · intro token error
    constructor
    · exact parse_refusal token error
    · exact parse_refuses token error

theorem slashes_come_first :
    parse "!/a:<b/" = .ok (.simple (.nameMatches "a:<b") true) ∧
      ∀ token, parse token = .ok (.simple (.nameMatches "a:<b") true) → token = "!/a:<b/" := by
  obtain ⟨accepts, _, distinct, _⟩ := tokens_read_by_grammar
  have read : parse "!/a:<b/" = .ok (.simple (.nameMatches "a:<b") true) := by
    apply (accepts _ _).mpr
    refine ⟨rfl, ⟨rfl, _, rfl⟩, ?_⟩
    decide
  exact ⟨read, fun token same => distinct token _ _ same read⟩

end DocFinder.Criterion
