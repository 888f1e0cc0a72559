import DocFinder.Proofs.Query.Refusal
import DocFinder.Tool

namespace DocFinder

namespace Input

def refusal? (field : Field) (value : Value) : Option Refusal :=
  match ({} : Input).set value field with
  | .ok _ => none
  | .error refusal => some refusal

theorem map_error_iff {ε α β : Type} (f : α → β) (result : Except ε α) (error : ε) :
    result.map f = .error error ↔ result = .error error := by
  cases result <;> simp [Except.map]

theorem refusal_some_iff (field : Field) (value : Value) (refusal : Refusal) :
    refusal? field value = some refusal ↔ ({} : Input).set value field = .error refusal := by
  unfold refusal?
  cases ({} : Input).set value field <;> simp

theorem set_error_iff (input : Input) (field : Field) (value : Value) (refusal : Refusal) :
    input.set value field = .error refusal ↔ refusal? field value = some refusal := by
  rw [refusal_some_iff]
  cases field <;> simp only [set, map_error_iff]

def unjudged? (data : Value) (field : Field) : Option Pattern.CompileError :=
  match (data.field? field.key).bind (refusal? field) with
  | some (.unjudged reason) => some reason
  | _ => none

def errorsOf (data : Value) (field : Field) : List InputError :=
  match (data.field? field.key).bind (refusal? field) with
  | some (.invalid errors) =>
    errors.map fun error => { error with location := field.key :: error.location }
  | _ => []

theorem readFields_cons (data : Value) (field : Field) (rest : List Field) (input : Input)
    (errors : List InputError) :
    (∃ reason, unjudged? data field = some reason ∧
        readFields data (field :: rest) (input, errors) = .error reason) ∨
      unjudged? data field = none ∧ ∃ next, readFields data (field :: rest) (input, errors) =
        readFields data rest (next, errors ++ errorsOf data field) := by
  rw [readFields, unjudged?, errorsOf]
  cases given : data.field? field.key with
  | none => exact Or.inr ⟨rfl, input, by simp⟩
  | some value =>
      simp only [Option.bind_some]
      cases outcome : input.set value field with
      | error refusal =>
          rw [(set_error_iff input field value refusal).mp outcome]
          cases refusal with
          | invalid more => exact Or.inr ⟨rfl, input, rfl⟩
          | unjudged reason => exact Or.inl ⟨reason, rfl, rfl⟩
      | ok next =>
          have accepted : refusal? field value = none := by
            rw [Option.eq_none_iff_forall_ne_some]
            intro refusal refused
            rw [(set_error_iff input field value refusal).mpr refused] at outcome
            cases outcome
          rw [accepted]
          exact Or.inr ⟨rfl, next, by simp⟩

/-- The faults of all fields are reported together, unless one of them cannot be judged. -/
theorem readFields_spec (data : Value) (fields : List Field) (input : Input)
    (errors : List InputError) :
    (∀ reason, fields.findSome? (unjudged? data) = some reason →
        readFields data fields (input, errors) = .error reason) ∧
      (fields.findSome? (unjudged? data) = none →
        ∃ read, readFields data fields (input, errors) =
          .ok (read, errors ++ fields.flatMap (errorsOf data))) := by
  induction fields generalizing input errors with
  | nil => exact ⟨nofun, fun _ => ⟨input, by simp [readFields]⟩⟩
  | cons field rest ih =>
      rw [List.findSome?_cons, List.flatMap_cons, ← List.append_assoc]
      rcases readFields_cons data field rest input errors with
        ⟨reason, unjudged, ended⟩ | ⟨judged, next, goes_on⟩
      · rw [unjudged, ended]
        exact ⟨fun _ same => congrArg Except.error (Option.some.inj same), nofun⟩
      · rw [judged, goes_on]
        exact ih next _

theorem checkQuery_error (tokens : List String) (preset : String) (error : QueryError)
    (refused : Query.compile (tokens.map .token) preset = .error error) :
    (∀ text, error.wording? = some text →
        checkQuery tokens preset = .error (.invalid [⟨[], .unacceptable text⟩])) ∧
      ∀ reason, error = .uncompilable reason → reason.complaint? = none →
        checkQuery tokens preset = .error (.unjudged reason) := by
  unfold checkQuery
  rw [refused]
  cases error with
  | uncompilable reason =>
      constructor
      · intro text told
        change reason.complaint? = some text at told
        simp only [told]
        rfl
      · intro other same silent
        cases same
        simp only [silent]
  | _ =>
      constructor
      · intro text told
        cases told
        rfl
      · intro reason same
        cases same

theorem checkQuery_unjudged_iff (tokens : List String) (preset : String)
    (reason : Pattern.CompileError) :
    checkQuery tokens preset = .error (.unjudged reason) ↔
      Query.compile (tokens.map .token) preset = .error (.uncompilable reason) ∧
        reason.complaint? = none := by
  cases compiled : Query.compile (tokens.map .token) preset with
  | ok query => simp [checkQuery, compiled]
  | error error =>
      obtain ⟨told, untold⟩ := checkQuery_error tokens preset error compiled
      cases wording : error.wording? with
      | some text =>
          rw [told text wording]
          constructor
          · intro same
            cases same
          · rintro ⟨same, silent⟩
            cases same
            change reason.complaint? = some text at wording
            rw [silent] at wording
            cases wording
      | none =>
          cases error with
          | uncompilable other =>
              rw [untold other rfl wording]
              constructor
              · intro same
                cases same
                exact ⟨rfl, wording⟩
              · rintro ⟨same, _⟩
                cases same
                rfl
          | _ => cases wording

section Criteria

theorem itemErrors_nil_iff (items : List Value) :
    itemErrors items = [] ↔ ∀ item ∈ items, ∃ s, item = .plain s := by
  unfold itemErrors
  rw [List.filterMap_eq_nil_iff]
  constructor
  · intro faultless item member
    obtain ⟨i, found⟩ := List.mem_iff_getElem?.mp member
    have accepted := faultless (item, i) (List.mem_zipIdx_iff_getElem?.mpr found)
    cases item with
    | text s =>
        cases s with
        | whole s => exact ⟨s, rfl⟩
        | torn _ => cases accepted
    | _ => cases accepted
  · rintro texts ⟨item, i⟩ member
    obtain ⟨s, rfl⟩ := texts item (List.mem_of_getElem? (List.mem_zipIdx_iff_getElem?.mp member))
    rfl

theorem texts_restored (items : List Value) (texts : ∀ item ∈ items, ∃ s, item = .plain s) :
    items = (textsOf items).map .plain := by
  induction items with
  | nil => rfl
  | cons item rest ih =>
      obtain ⟨s, rfl⟩ := texts item List.mem_cons_self
      have later := ih fun other member => texts other (List.mem_cons_of_mem _ member)
      change _ = Value.plain s :: (textsOf rest).map Value.plain
      rw [← later]

theorem textsOf_texts (tokens : List String) : textsOf (tokens.map .plain) = tokens := by
  simp [textsOf, List.filterMap_map]

theorem texts_injective (tokens others : List String)
    (same : tokens.map Value.plain = others.map Value.plain) : tokens = others := by
  rw [← textsOf_texts tokens, same, textsOf_texts]

theorem readCriteria_texts (tokens : List String) :
    readCriteria (.list (tokens.map .plain)) =
      (checkQuery tokens Query.defaultPreset).map fun _ => tokens := by
  have faultless : itemErrors (tokens.map .plain) = [] := by
    rw [itemErrors_nil_iff]
    intro item member
    obtain ⟨s, _, same⟩ := List.mem_map.mp member
    exact ⟨s, same.symm⟩
  simp only [readCriteria, faultless, List.isEmpty_nil, if_true, textsOf_texts]
  cases checkQuery tokens Query.defaultPreset <;> rfl

theorem readCriteria_unjudged (value : Value) (reason : Pattern.CompileError)
    (unjudged : readCriteria value = .error (.unjudged reason)) :
    ∃ tokens : List String, value = .list (tokens.map .plain) := by
  cases value with
  | list items =>
      simp only [readCriteria] at unjudged
      split at unjudged
      · rename_i faultless
        rw [List.isEmpty_iff, itemErrors_nil_iff] at faultless
        exact ⟨textsOf items, congrArg Value.list (texts_restored items faultless)⟩
      · cases unjudged
  | _ => cases unjudged

theorem root_judged (value : Value) (reason : Pattern.CompileError) :
    readRoot value ≠ .error (.unjudged reason) := by
  intro unjudged
  cases value with
  | text s =>
      cases s with
      | whole s =>
          change (if trimmed s = "" then refuse _ else _) = _ at unjudged
          split at unjudged <;> cases unjudged
      | torn _ => cases unjudged
  | _ => cases unjudged

theorem preset_judged (value : Value) (reason : Pattern.CompileError) :
    readPreset value ≠ .error (.unjudged reason) := by
  intro unjudged
  cases value with
  | text s =>
      cases s with
      | whole s =>
          have checked : checkQuery [] s = .error (.unjudged reason) := by
            change (checkQuery [] s >>= fun _ => pure s) = _ at unjudged
            cases outcome : checkQuery [] s with
            | ok done =>
                rw [outcome] at unjudged
                cases unjudged
            | error refusal =>
                rw [outcome] at unjudged
                cases unjudged
                rfl
          have compiled := ((checkQuery_unjudged_iff [] s reason).mp checked).1
          obtain ⟨_, before, token, after, parts, _⟩ :=
            (Query.compile_uncompilable_iff [] s reason).mp compiled
          exact List.append_ne_nil_of_right_ne_nil before (List.cons_ne_nil token after) parts.symm
      | torn _ => cases unjudged
  | _ => cases unjudged

theorem bool_judged (value : Value) (reason : Pattern.CompileError) :
    readBool value ≠ .error (.unjudged reason) := by
  intro unjudged
  unfold readBool at unjudged
  split at unjudged
  · cases unjudged
  · simp only at unjudged
    split at unjudged
    · cases unjudged
    · split at unjudged <;> cases unjudged
  · cases unjudged
  · split at unjudged <;> cases unjudged

theorem unjudged_iff (data : Value) (field : Field) (reason : Pattern.CompileError) :
    unjudged? data field = some reason ↔ field = .criteria ∧ ∃ tokens : List String,
      data.field? Field.criteria.key = some (.list (tokens.map .plain)) ∧
        Query.compile (tokens.map .token) Query.defaultPreset = .error (.uncompilable reason) ∧
          reason.complaint? = none := by
  have asked : unjudged? data field = some reason ↔ ∃ value, data.field? field.key = some value ∧
      ({} : Input).set value field = .error (.unjudged reason) := by
    simp only [← refusal_some_iff, ← Option.bind_eq_some_iff, unjudged?]
    split
    · rename_i other found
      simp [found]
    · rename_i unfound
      simpa using unfound reason
  rw [asked]
  cases field with
  | root => simp [set, map_error_iff, root_judged]
  | preset => simp [set, map_error_iff, preset_judged]
  | includeMetadata => simp [set, map_error_iff, bool_judged]
  | criteria =>
      simp only [set, map_error_iff, true_and]
      constructor
      · rintro ⟨value, given, unjudged⟩
        obtain ⟨tokens, rfl⟩ := readCriteria_unjudged value reason unjudged
        rw [readCriteria_texts, map_error_iff, checkQuery_unjudged_iff] at unjudged
        exact ⟨tokens, given, unjudged⟩
      · rintro ⟨tokens, given, unjudged⟩
        refine ⟨_, given, ?_⟩
        rw [readCriteria_texts, map_error_iff, checkQuery_unjudged_iff]
        exact unjudged

theorem unjudged_criteria_iff (data : Value) (tokens : List String) (reason : Pattern.CompileError)
    (given : data.field? Field.criteria.key = some (.list (tokens.map .plain))) :
    unjudged? data .criteria = some reason ↔
      Query.compile (tokens.map .token) Query.defaultPreset = .error (.uncompilable reason) ∧
        reason.complaint? = none := by
  rw [unjudged_iff, and_iff_right rfl]
  constructor
  · rintro ⟨others, given_too, unjudged⟩
    rw [given] at given_too
    have same := texts_injective _ _ (Value.list.inj (Option.some.inj given_too))
    rw [same]
    exact unjudged
  · exact fun unjudged => ⟨tokens, given, unjudged⟩

theorem errorsOf_criteria (data : Value) (tokens : List String) (error : QueryError) (text : String)
    (given : data.field? Field.criteria.key = some (.list (tokens.map .plain)))
    (refused : Query.compile (tokens.map .token) Query.defaultPreset = .error error)
    (told : error.wording? = some text) :
    errorsOf data .criteria = [⟨[Field.criteria.key], .unacceptable text⟩] := by
  have found : refusal? .criteria (.list (tokens.map .plain)) =
      some (.invalid [⟨[], .unacceptable text⟩]) := by
    rw [refusal_some_iff, set, map_error_iff, readCriteria_texts, map_error_iff]
    exact (checkQuery_error tokens _ error refused).1 text told
  simp only [errorsOf, given, Option.bind_some, found, List.map_cons, List.map_nil]

end Criteria

section Request

variable (form : Form) (request : Value)

theorem findSome_unjudged_iff (fields : List Field) (reason : Pattern.CompileError) :
    fields.findSome? (unjudged? request) = some reason ↔
      .criteria ∈ fields ∧ unjudged? request .criteria = some reason := by
  have only (field : Field) (other : Pattern.CompileError)
      (found : unjudged? request field = some other) : field = .criteria :=
    ((unjudged_iff request field other).mp found).1
  constructor
  · intro found
    obtain ⟨field, member, unjudged⟩ := List.exists_of_findSome?_eq_some found
    have same := only field reason unjudged
    subst same
    exact ⟨member, unjudged⟩
  · rintro ⟨member, unjudged⟩
    cases found : fields.findSome? (unjudged? request) with
    | none =>
        rw [List.findSome?_eq_none_iff.mp found .criteria member] at unjudged
        cases unjudged
    | some other =>
        obtain ⟨field, _, first⟩ := List.exists_of_findSome?_eq_some found
        have same := only field other first
        subst same
        exact first.symm.trans unjudged

theorem read_unjudged_iff (reason : Pattern.CompileError) :
    read form request = .error (.unjudged reason) ↔
      .criteria ∈ form.fields ∧ unjudged? request .criteria = some reason := by
  rw [← findSome_unjudged_iff]
  cases request with
  | map entries =>
      obtain ⟨ended, reported⟩ := readFields_spec (.map entries) form.fields {} []
      rw [read]
      cases found : form.fields.findSome? (unjudged? (.map entries)) with
      | some other => simp [ended other found]
      | none =>
          obtain ⟨input, all⟩ := reported found
          rw [all]
          cases [] ++ form.fields.flatMap (errorsOf (.map entries)) <;> simp
  | _ =>
      rw [findSome_unjudged_iff, unjudged_iff]
      simp [read, refuse, Value.field?]

theorem read_refused (tokens : List String) (error : QueryError) (text : String)
    (asked : .criteria ∈ form.fields)
    (given : request.field? Field.criteria.key = some (.list (tokens.map .plain)))
    (refused : Query.compile (tokens.map .token) Query.defaultPreset = .error error)
    (told : error.wording? = some text) :
    ∃ errors, read form request = .error (.invalid errors) ∧
      ⟨[Field.criteria.key], .unacceptable text⟩ ∈ errors := by
  cases request with
  | map entries =>
      have judged : form.fields.findSome? (unjudged? (.map entries)) = none := by
        rw [Option.eq_none_iff_forall_ne_some]
        intro reason found
        obtain ⟨_, unjudged⟩ := (findSome_unjudged_iff _ _ _).mp found
        obtain ⟨compiled, silent⟩ := (unjudged_criteria_iff _ tokens reason given).mp unjudged
        rw [refused] at compiled
        cases compiled
        change reason.complaint? = some text at told
        rw [silent] at told
        cases told
      obtain ⟨input, all⟩ := (readFields_spec (.map entries) form.fields {} []).2 judged
      have member : ⟨[Field.criteria.key], .unacceptable text⟩ ∈
          form.fields.flatMap (errorsOf (.map entries)) := by
        refine List.mem_flatMap.mpr ⟨.criteria, asked, ?_⟩
        rw [errorsOf_criteria _ tokens error text given refused told]
        exact List.mem_singleton_self _
      refine ⟨_, ?_, member⟩
      rw [List.nil_append] at all
      rw [read, all]
      cases reported : form.fields.flatMap (errorsOf (.map entries)) with
      | nil =>
          rw [reported] at member
          cases member
      | cons first rest => rfl
  | _ => cases given

end Request

end Input

namespace Tool

theorem answer_unrefused (tree : FileTree) (root : DocumentRoot) (input : Input) (tool : Tool)
    (refusal : Refusal) : (tool.answer tree root input).result ≠ .error (.refused refusal) := by
  have worded {α : Type} (report : Report α) (payload : α → Value) :
      (report.answer payload).result ≠ .error (.refused refusal) := by
    unfold Report.answer
    cases report.result <;> simp [Except.map, Except.mapError]
  cases tool with
  | describe => simp [answer]
  | which => exact worded _ _
  | list => exact worded _ _
  | readMetadata => exact worded _ _

theorem run_refused_iff (tree : FileTree) (tool : Tool) (request : Value) (refusal : Refusal) :
    (tool.run tree request).result = .error (.refused refusal) ↔
      Input.read tool.form request = .error refusal := by
  unfold run
  cases Input.read tool.form request with
  | error other => simp
  | ok input =>
      simp only [reduceCtorEq, iff_false]
      cases tree.discover (input.root.map Path.ofText) with
      | error failure => simp
      | ok root => exact answer_unrefused tree root input tool refusal

/-- Tokens that do not compile are refused in the words of a query, unless the first one at fault asks
for a pattern that cannot be judged; such a pattern holds a repeat count or a code point that is too
large, or flags that exclude each other. A request with such criteria is invalid and says why, unless
there is nothing to be told about the pattern. -/
theorem bad_queries_refused (tokens : List String) (preset : String) (tree : FileTree) (tool : Tool)
    (request : Value) :
    ((preset ∈ Query.presets → ∀ reason, ¬ Query.Unjudged tokens reason) ↔
      (∃ query, Query.compile (tokens.map .token) preset = .ok query) ∨
        ∃ error text, Query.compile (tokens.map .token) preset = .error error ∧
          error.isParseError = true ∧ error.message? = some text) ∧
    (∀ reason, Query.Unjudged tokens reason →
      ∃ token ∈ tokens, ∃ pattern, Criterion.AsksFor (Criterion.bodyOf token) pattern ∧
        Pattern.Explains pattern.toList reason) ∧
    ∀ error, .criteria ∈ tool.form.fields →
      request.field? Field.criteria.key = some (.list (tokens.map .plain)) →
      Query.compile (tokens.map .token) Query.defaultPreset = .error error →
      ((∀ reason, Query.Unjudged tokens reason → reason.complaint? ≠ none) ↔
        ∃ errors text, error.wording? = some text ∧
          (tool.run tree request).result = .error (.refused (.invalid errors)) ∧
          ⟨[Field.criteria.key], .unacceptable text⟩ ∈ errors) ∧
      ∀ reason, (tool.run tree request).result = .error (.refused (.unjudged reason)) ↔
        Query.Unjudged tokens reason ∧ reason.complaint? = none := by
  have unjudged_default (reason : Pattern.CompileError) :
      Query.compile (tokens.map .token) Query.defaultPreset = .error (.uncompilable reason) ↔
        Query.Unjudged tokens reason := by
    rw [Query.compile_uncompilable_iff, and_iff_right (by decide)]
  refine ⟨?_, Query.unjudged_explained tokens, ?_⟩
  · rw [← Query.compile_worded_iff]
    constructor
    · intro judged reason compiled
      obtain ⟨known, unjudged⟩ := (Query.compile_uncompilable_iff _ _ _).mp compiled
      exact judged known reason unjudged
    · intro worded known reason unjudged
      exact worded reason ((Query.compile_uncompilable_iff _ _ _).mpr ⟨known, unjudged⟩)
  · intro error asked given refused
    have unjudged_iff (reason : Pattern.CompileError) :
        (tool.run tree request).result = .error (.refused (.unjudged reason)) ↔
          Query.Unjudged tokens reason ∧ reason.complaint? = none := by
      rw [run_refused_iff, Input.read_unjudged_iff, and_iff_right asked,
        Input.unjudged_criteria_iff request tokens reason given, unjudged_default]
    refine ⟨⟨?_, ?_⟩, unjudged_iff⟩
    · intro worded
      cases told : error.wording? with
      | some text =>
          obtain ⟨errors, invalid, reported⟩ :=
            Input.read_refused tool.form request tokens error text asked given refused told
          exact ⟨errors, text, rfl, (run_refused_iff tree tool request _).mpr invalid, reported⟩
      | none =>
          rcases Query.compile_error_kind tokens _ error refused with parse | ⟨reason, rfl⟩
          · obtain ⟨text, _, words⟩ := error.message_some parse
            rw [told] at words
            cases words
          · exact absurd told (worded reason ((unjudged_default reason).mp refused))
    · rintro ⟨errors, text, _, invalid, _⟩ reason unjudged silent
      rw [(unjudged_iff reason).mpr ⟨unjudged, silent⟩] at invalid
      cases invalid

theorem open_group_refused :
    let tokens := ["k:/(/"]
    let request : Value := .map [(.text "criteria", .list (tokens.map .plain))]
    let error : QueryError := .badRegex "(" ⟨.unterminatedGroup, some 0⟩
    Query.compile (tokens.map .token) Query.defaultPreset = .error error ∧
      error.isParseError = true ∧
      ∃ errors text, error.wording? = some text ∧
        (Tool.list.run {} request).result = .error (.refused (.invalid errors)) ∧
        ⟨["criteria"], .unacceptable text⟩ ∈ errors := by
  intro tokens request error
  have refused : Query.compile (tokens.map .token) Query.defaultPreset = .error error := by
    decide +kernel
  obtain ⟨parse, _, answer⟩ := bad_queries_refused tokens Query.defaultPreset {} .list request
  have judged := parse.mpr (Or.inr ⟨error, _, refused, rfl, rfl⟩) (by decide)
  refine ⟨refused, rfl, (answer error (by decide) rfl refused).1.mp ?_⟩
  intro reason unjudged
  exact absurd unjudged (judged reason)

theorem large_count_unjudged :
    let tokens := ["/a\x7b4294967295\x7d/"]
    let request : Value := .map [(.text "criteria", .list (tokens.map .plain))]
    Query.compile (tokens.map .token) Query.defaultPreset =
        .error (.uncompilable .repeatTooLarge) ∧
      (QueryError.uncompilable .repeatTooLarge).isParseError = false ∧
      (Tool.list.run {} request).result = .error (.refused (.unjudged .repeatTooLarge)) := by
  intro tokens request
  have refused : Query.compile (tokens.map .token) Query.defaultPreset =
      .error (.uncompilable .repeatTooLarge) := by
    decide +kernel
  refine ⟨refused, rfl, ?_⟩
  rw [run_refused_iff, Input.read_unjudged_iff, Input.unjudged_criteria_iff request tokens _ rfl]
  exact ⟨by decide, refused, rfl⟩

end Tool

end DocFinder
