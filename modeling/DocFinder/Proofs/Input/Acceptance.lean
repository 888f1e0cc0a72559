import DocFinder.Proofs.Finder.Refusal
import DocFinder.Proofs.Input.Refusal
import DocFinder.Proofs.Text.Trimming

namespace DocFinder

namespace Query

/-- A query compiles if and only if its clauses do under the usual preset and its preset does without
any clause. -/
theorem compile_apart (clauses : List Clause) (preset : String) :
    (∃ query, compile clauses preset = .ok query) ↔
      (∃ query, compile clauses defaultPreset = .ok query) ∧
        ∃ query, compile [] preset = .ok query := by
  by_cases known : preset ∈ presets
  · rw [compile_known clauses preset known, compile_known clauses defaultPreset (by decide),
      compile_known [] preset known]
    exact (and_iff_left ⟨_, rfl⟩).symm
  · rw [compile_unknown clauses preset known, compile_unknown [] preset known]
    simp

end Query

def Form.queries : List Form := [.baseQuery, .which, .list, .readMetadata]

namespace Input

def accept (data : Value) (input : Input) (field : Field) : Except Refusal Input :=
  match data.field? field.key with
  | none => .ok input
  | some value => input.set value field

theorem checkQuery_ok_iff (tokens : List String) (preset : String) :
    checkQuery tokens preset = .ok () ↔
      ∃ query, Query.compile (tokens.map .token) preset = .ok query := by
  unfold checkQuery
  cases Query.compile (tokens.map .token) preset with
  | ok query => simp
  | error error =>
      cases error with
      | uncompilable reason => cases complaint : reason.complaint? <;> simp [refuse, complaint]
      | _ => simp [refuse]

theorem checkQuery_invalid (tokens : List String) (preset : String) (errors : List InputError)
    (refused : checkQuery tokens preset = .error (.invalid errors)) : errors ≠ [] := by
  unfold checkQuery at refused
  split at refused
  · cases refused
  · split at refused <;> cases refused
    exact List.cons_ne_nil _ _
  · cases refused
    exact List.cons_ne_nil _ _

theorem readRoot_text (s : String) :
    readRoot (.plain s) =
      if trimmed s = "" then refuse (.unacceptable emptyRoot) else .ok (some (trimmed s)) := rfl

theorem readPreset_text (s : String) :
    readPreset (.plain s) = (checkQuery [] s).map fun _ => s := by
  change (checkQuery [] s >>= fun _ => pure s) = _
  cases checkQuery [] s <;> rfl

theorem set_invalid (input : Input) (field : Field) (value : Value) (errors : List InputError)
    (refused : input.set value field = .error (.invalid errors)) : errors ≠ [] := by
  have single (fault : InputFault) {α : Type}
      (refused : (refuse fault : Except Refusal α) = .error (.invalid errors)) : errors ≠ [] := by
    cases refused
    exact List.cons_ne_nil _ _
  cases field with
  | root =>
      rw [set, map_error_iff] at refused
      cases value with
      | text s =>
          cases s with
          | whole s =>
              rw [readRoot_text] at refused
              split at refused
              · exact single _ refused
              · cases refused
          | torn _ => exact single .tornText refused
      | null => cases refused
      | _ => exact single .notText refused
  | criteria =>
      rw [set, map_error_iff] at refused
      cases value with
      | list items =>
          by_cases faultless : itemErrors items = []
          · rw [texts_restored items ((itemErrors_nil_iff items).mp faultless), readCriteria_texts,
              map_error_iff] at refused
            exact checkQuery_invalid _ _ _ refused
          · simp only [readCriteria, List.isEmpty_iff, if_neg faultless] at refused
            cases refused
            exact faultless
      | _ => exact single .notList refused
  | preset =>
      rw [set, map_error_iff] at refused
      cases value with
      | text s =>
          cases s with
          | whole s =>
              rw [readPreset_text, map_error_iff] at refused
              exact checkQuery_invalid _ _ _ refused
          | torn _ => exact single .tornText refused
      | _ => exact single .notText refused
  | includeMetadata =>
      rw [set, map_error_iff] at refused
      unfold readBool at refused
      split at refused
      · cases refused
      · simp only at refused
        split at refused
        · cases refused
        · split at refused
          · cases refused
          · exact single _ refused
      · exact single _ refused
      · split at refused
        · cases refused
        · cases refused
        · exact single _ refused
        · exact single _ refused

theorem readFields_kept (data : Value) (fields : List Field) (input next : Input)
    (errors : List InputError) (faulty : errors ≠ []) :
    readFields data fields (input, errors) ≠ .ok (next, []) := by
  obtain ⟨unjudged, judged⟩ := readFields_spec data fields input errors
  cases found : fields.findSome? (unjudged? data) with
  | some reason =>
      rw [unjudged reason found]
      exact nofun
  | none =>
      obtain ⟨read, all⟩ := judged found
      rw [all]
      intro accepted
      have none_left := (Prod.mk.inj (Except.ok.inj accepted)).2
      exact faulty (List.append_eq_nil_iff.mp none_left).1

theorem readFields_ok_iff (data : Value) (fields : List Field) (input next : Input) :
    readFields data fields (input, []) = .ok (next, []) ↔
      fields.foldlM (accept data) input = .ok next := by
  induction fields generalizing input with
  | nil => simp [readFields, pure, Except.pure]
  | cons field rest ih =>
      rw [List.foldlM_cons, readFields, accept]
      cases given : data.field? field.key with
      | none => exact ih input
      | some value =>
          simp only
          cases outcome : input.set value field with
          | ok one => exact ih one
          | error refusal =>
              refine iff_of_false ?_ (by simp [bind, Except.bind])
              cases refusal with
              | unjudged reason =>
                  intro same
                  cases same
              | invalid errors =>
                  apply readFields_kept
                  simpa using set_invalid input field value errors outcome

theorem read_ok_iff (form : Form) (request : Value) (input : Input) :
    read form request = .ok input ↔
      (∃ entries, request = .map entries) ∧ form.fields.foldlM (accept request) {} = .ok input := by
  cases request with
  | map entries =>
      rw [← readFields_ok_iff, read]
      cases readFields (.map entries) form.fields ({}, []) with
      | error reason => simp
      | ok result =>
          obtain ⟨next, errors⟩ := result
          cases errors <;> simp
  | _ => simp [read, refuse]

/-- A request that gives criteria and a preset as texts, a root as a text, as null or not at all, and
perhaps whether metadata are wanted. -/
structure Asks (request : Value) (root : Option String) (criteria : List String) (preset : String)
    (withMetadata : Option Bool) : Prop where
  root : request.field? Field.root.key = root.map .plain ∨
    root = none ∧ request.field? Field.root.key = some .null
  criteria : request.field? Field.criteria.key = some (.list (criteria.map .plain))
  preset : request.field? Field.preset.key = some (.text preset)
  withMetadata : request.field? Field.includeMetadata.key = withMetadata.map .bool

/-- A root that is given and holds nothing but blanks. -/
def IsBlankRoot (root : Option String) : Prop :=
  ∃ s, root = some s ∧ ∀ c ∈ s.toList, Text.isBlank c = true

theorem trimmed_eq_empty_iff (s : String) :
    trimmed s = "" ↔ ∀ c ∈ s.toList, Text.isBlank c = true := by
  rw [trimmed, ← Text.trim_eq_nil_iff, String.ofList_eq_empty_iff]

section Asked

variable {request : Value} {root : Option String} {criteria : List String} {preset : String}
  {withMetadata : Option Bool} (asks : Asks request root criteria preset withMetadata)
  (input next : Input)

include asks

theorem accept_root_iff (unset : input.root = none) :
    accept request input .root = .ok next ↔
      ¬ IsBlankRoot root ∧ next = { input with root := root.map trimmed } := by
  cases root with
  | none =>
      have plain : ¬ IsBlankRoot none := by
        rintro ⟨s, given, _⟩
        cases given
      have same : { input with root := none } = input := by rw [← unset]
      rw [and_iff_right plain, accept, Option.map_none, same]
      rcases asks.root with absent | ⟨_, null⟩
      · rw [absent]
        simp [eq_comm]
      · rw [null]
        change Except.ok { input with root := none } = _ ↔ _
        rw [same]
        simp [eq_comm]
  | some s =>
      have given : request.field? Field.root.key = some (.plain s) := by simpa using asks.root
      have blank : IsBlankRoot (some s) ↔ trimmed s = "" := by
        rw [trimmed_eq_empty_iff]
        simp [IsBlankRoot]
      rw [accept, given, blank]
      simp only [set, readRoot_text]
      by_cases nothing : trimmed s = ""
      · simp [nothing, refuse, Except.map]
      · simp [nothing, Except.map, eq_comm]

theorem accept_criteria_iff :
    accept request input .criteria = .ok next ↔
      (∃ query, Query.compile (criteria.map .token) Query.defaultPreset = .ok query) ∧
        next = { input with criteria } := by
  rw [accept, asks.criteria, ← checkQuery_ok_iff]
  simp only [set, readCriteria_texts]
  cases checkQuery criteria Query.defaultPreset <;> simp [Except.map, eq_comm]

theorem accept_preset_iff :
    accept request input .preset = .ok next ↔
      (∃ query, Query.compile [] preset = .ok query) ∧ next = { input with preset } := by
  have checked := checkQuery_ok_iff [] preset
  rw [List.map_nil] at checked
  rw [accept, asks.preset, ← checked]
  simp only [set, readPreset_text]
  cases checkQuery [] preset <;> simp [Except.map, eq_comm]

theorem accept_includeMetadata :
    accept request input .includeMetadata =
      .ok { input with includeMetadata := withMetadata.getD input.includeMetadata } := by
  rw [accept, asks.withMetadata]
  cases withMetadata <;> rfl

theorem queryFields_iff :
    Form.queryFields.foldlM (accept request) {} = .ok next ↔
      (∃ query, Query.compile (criteria.map .token) preset = .ok query) ∧ ¬ IsBlankRoot root ∧
        next = { root := root.map trimmed, criteria, preset } := by
  rw [Query.compile_apart]
  simp only [Form.queryFields, List.foldlM_cons, List.foldlM_nil, bind_ok_iff,
    accept_root_iff asks {} _ rfl, accept_criteria_iff asks, accept_preset_iff asks]
  constructor
  · rintro ⟨_, ⟨filled, rfl⟩, _, ⟨compiles, rfl⟩, _, ⟨known, rfl⟩, done⟩
    cases done
    exact ⟨⟨compiles, known⟩, filled, rfl⟩
  · rintro ⟨⟨compiles, known⟩, filled, rfl⟩
    exact ⟨_, ⟨filled, rfl⟩, _, ⟨compiles, rfl⟩, _, ⟨known, rfl⟩, rfl⟩

def reading (form : Form) (root : Option String) (criteria : List String) (preset : String)
    (withMetadata : Option Bool) : Input where
  root := root.map trimmed
  criteria := criteria
  preset := preset
  includeMetadata := form.fields.contains .includeMetadata && withMetadata.getD false

omit asks in
theorem reading_plain (form : Form) (plain : form.fields = Form.queryFields) :
    reading form root criteria preset withMetadata =
      { root := root.map trimmed, criteria, preset } := by
  have unknown : form.fields.contains .includeMetadata = false := by
    rw [plain]
    rfl
  rw [reading, unknown, Bool.false_and]

theorem read_asked_iff (form : Form) (query : form ∈ Form.queries) :
    read form request = .ok next ↔
      (∃ query, Query.compile (criteria.map .token) preset = .ok query) ∧ ¬ IsBlankRoot root ∧
        next = reading form root criteria preset withMetadata := by
  have isMap : ∃ entries, request = .map entries := by
    have given := asks.criteria
    cases request with
    | map entries => exact ⟨entries, rfl⟩
    | _ => cases given
  have three := queryFields_iff asks
  have plain (form : Form) (plain : form.fields = Form.queryFields) :
      read form request = .ok next ↔
        (∃ query, Query.compile (criteria.map .token) preset = .ok query) ∧ ¬ IsBlankRoot root ∧
          next = reading form root criteria preset withMetadata := by
    rw [read_ok_iff, and_iff_right isMap, plain, three next, reading_plain form plain]
  simp only [Form.queries, List.mem_cons, List.not_mem_nil, or_false] at query
  rcases query with rfl | rfl | rfl | rfl
  · exact plain .baseQuery rfl
  · exact plain .which rfl
  · have fields : Form.list.fields = Form.queryFields ++ [.includeMetadata] := rfl
    rw [read_ok_iff, and_iff_right isMap, fields, List.foldlM_append, bind_ok_iff]
    simp only [List.foldlM_cons, List.foldlM_nil, three, accept_includeMetadata asks]
    constructor
    · rintro ⟨_, ⟨compiles, filled, rfl⟩, done⟩
      cases done
      exact ⟨compiles, filled, rfl⟩
    · rintro ⟨compiles, filled, rfl⟩
      exact ⟨_, ⟨compiles, filled, rfl⟩, rfl⟩
  · exact plain .readMetadata rfl

end Asked

section Again

theorem trimmed_isTrimmed (s : String) : Text.IsTrimmed s.toList (trimmed s).toList := by
  rw [trimmed, String.toList_ofList]
  exact Text.trim_isTrimmed s.toList

theorem trimmed_trimmed (s : String) : trimmed (trimmed s) = trimmed s := by
  obtain ⟨_, starts, stops⟩ := trimmed_isTrimmed s
  rw [trimmed, Text.trim_of_trimmed _ starts stops, String.ofList_toList]

theorem asks_again (form : Form) (query : form ∈ Form.queries) (input : Input) :
    Asks (input.toValue form) input.root input.criteria input.preset
      (if form.fields.contains .includeMetadata then some input.includeMetadata else none) := by
  have root : ∀ root : Option String,
      some ((root.map Value.plain).getD .null) = root.map .plain ∨
        root = none ∧ some ((root.map Value.plain).getD .null) = some .null := by
    intro root
    cases root with
    | none => exact Or.inr ⟨rfl, rfl⟩
    | some s => exact Or.inl rfl
  simp only [Form.queries, List.mem_cons, List.not_mem_nil, or_false] at query
  rcases query with rfl | rfl | rfl | rfl <;> exact ⟨root input.root, rfl, rfl, rfl⟩

theorem read_again (form : Form) (query : form ∈ Form.queries) (root : Option String)
    (criteria : List String) (preset : String) (withMetadata : Option Bool)
    (compiles : ∃ query, Query.compile (criteria.map .token) preset = .ok query)
    (filled : ¬ IsBlankRoot root) :
    let input := reading form root criteria preset withMetadata
    read form (input.toValue form) = .ok input := by
  intro input
  refine (read_asked_iff (asks_again form query input) input form query).mpr ⟨compiles, ?_, ?_⟩
  · rintro ⟨s, given, blank⟩
    obtain ⟨t, same, rfl⟩ := Option.map_eq_some_iff.mp given
    rw [← trimmed_eq_empty_iff, trimmed_trimmed, trimmed_eq_empty_iff] at blank
    exact filled ⟨t, same, blank⟩
  · have again : (root.map trimmed).map trimmed = root.map trimmed := by
      rw [Option.map_map]
      exact congrArg (Option.map · root) (funext trimmed_trimmed)
    simp only [input, reading, again]
    cases form.fields.contains .includeMetadata <;> rfl

end Again

/-- A request is accepted if and only if its query compiles and its root is not blank. Its criteria and
its preset stay as they are, its root loses the blanks at its ends, what was accepted is accepted
again, and no tool refuses its query later. -/
theorem requests_accepted_as_queries (form : Form) (query : form ∈ Form.queries) (request : Value)
    (root : Option String) (criteria : List String) (preset : String) (withMetadata : Option Bool)
    (asks : Asks request root criteria preset withMetadata) :
    ((∃ input, read form request = .ok input) ↔
      (∃ query, Query.compile (criteria.map .token) preset = .ok query) ∧ ¬ IsBlankRoot root) ∧
    ∀ input, read form request = .ok input →
      input.criteria = criteria ∧ input.preset = preset ∧
      (root = none → input.root = none) ∧
      (∀ s, root = some s → ∃ t, input.root = some t ∧ Text.IsTrimmed s.toList t.toList) ∧
      read form (input.toValue form) = .ok input ∧
      ∀ (tool : Tool) (tree : FileTree) (error : QueryError),
        (∀ found, (tool.answer tree found input).result ≠ .error (.finder (.query error))) ∧
          (tool.form = form →
            (tool.run tree request).result ≠ .error (.finder (.query error))) := by
  have accepted (input : Input) := read_asked_iff asks input form query
  constructor
  · constructor
    · rintro ⟨input, read⟩
      obtain ⟨compiles, filled, _⟩ := (accepted input).mp read
      exact ⟨compiles, filled⟩
    · rintro ⟨compiles, filled⟩
      exact ⟨_, (accepted _).mpr ⟨compiles, filled, rfl⟩⟩
  · intro input read
    obtain ⟨compiles, filled, rfl⟩ := (accepted input).mp read
    refine ⟨rfl, rfl, ?_, ?_, read_again form query root criteria preset _ compiles filled, ?_⟩
    · rintro rfl
      rfl
    · rintro s rfl
      exact ⟨trimmed s, rfl, trimmed_isTrimmed s⟩
    · intro tool tree error
      have answered (found : DocumentRoot) :
          (tool.answer tree found (reading form root criteria preset withMetadata)).result ≠
            .error (.finder (.query error)) := by
        by_cases describes : tool = .describe
        · rw [describes]
          exact nofun
        · intro refused
          rw [Tool.answer_query_iff tree found _ tool describes error] at refused
          obtain ⟨query, compiled⟩ := compiles
          simp only [reading, compiled] at refused
          cases refused
      refine ⟨answered, ?_⟩
      rintro rfl refused
      simp only [Tool.run, read] at refused
      split at refused
      · cases refused
      · exact answered _ refused

theorem root_between_blanks :
    let request : Value := .map [(.text "preset", .text ""), (.text "root", .text " notes\n"),
      (.text "criteria", .list [.text "k:v", .text "no"])]
    Form.list ∈ Form.queries ∧ Asks request (some " notes\n") ["k:v", "no"] "" none ∧
      ∃ input, read .list request = .ok input ∧ input.criteria = ["k:v", "no"] ∧
        read .list (input.toValue .list) = .ok input := by
  intro request
  have query : Form.list ∈ Form.queries := by decide
  have asks : Asks request (some " notes\n") ["k:v", "no"] "" none :=
    ⟨Or.inl rfl, rfl, rfl, rfl⟩
  have compiles : ∃ query, Query.compile (["k:v", "no"].map .token) "" = .ok query :=
    ⟨⟨some "no", [.field "k" (.equals "v")]⟩, by decide⟩
  have filled : ¬ IsBlankRoot (some " notes\n") := by
    rintro ⟨s, same, blank⟩
    cases same
    have letter := blank 'n' (by decide)
    cases letter
  obtain ⟨accepted, unchanged⟩ :=
    requests_accepted_as_queries .list query request _ _ _ _ asks
  obtain ⟨input, read⟩ := accepted.mpr ⟨compiles, filled⟩
  obtain ⟨criteria, _, _, _, again, _⟩ := unchanged input read
  exact ⟨query, asks, input, read, criteria, again⟩

end Input

end DocFinder
