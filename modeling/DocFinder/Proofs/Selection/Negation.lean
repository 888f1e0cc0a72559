import DocFinder.Proofs.Document.Sharing
import DocFinder.Proofs.Query.Compilation
import DocFinder.Proofs.Selection.TwoPhases

namespace DocFinder

namespace Criterion

theorem parse_marked (token : String) (condition : Condition) (negated : Bool)
    (unmarked : ¬ BeginsWith '!' token) (read : parse token = .ok (.simple condition negated)) :
    negated = false ∧ parse ("!" ++ token) = .ok (.simple condition true) := by
  obtain ⟨text, admits, mark⟩ := parse_sound token _ read
  have plain : negated = false := by
    rw [Bool.eq_false_iff]
    exact fun marked => unmarked (mark.mp marked)
  subst negated
  have letters : ("!" ++ token).toList = '!' :: token.toList := by simp
  have marked : BeginsWith '!' ("!" ++ token) := by
    rw [BeginsWith, letters]
    rfl
  have behind : bodyOf ("!" ++ token) = token := by
    simp only [bodyOf, letters, String.ofList_toList]
  rw [bodyOf_plain token unmarked] at admits
  refine ⟨rfl, parse_complete _ _ ?_ ⟨?_, ?_⟩⟩
  · simp only [Criterion.text, Bool.false_eq_true, if_false, String.empty_append] at text
    simp only [Criterion.text, if_true, text]
  · rw [behind]
    exact admits
  · exact ⟨fun _ => marked, fun _ => rfl⟩

end Criterion

namespace Query

def narrow (query : Query) (matcher : Matcher) : Query :=
  { query with matchers := query.matchers ++ [matcher] }

theorem compile_concat (tokens : List String) (token preset : String) (query : Query)
    (condition : Condition) (negated : Bool) (matcher : Matcher)
    (compiled : compile (tokens.map .token) preset = .ok query)
    (read : Criterion.parse token = .ok (.simple condition negated))
    (means : (Criterion.simple condition negated).Means matcher) :
    compile ((tokens ++ [token]).map .token) preset = .ok (query.narrow matcher) := by
  obtain ⟨known, _⟩ := (compile_iff _ _ _).mp compiled
  rw [compile_known _ _ known] at compiled ⊢
  rw [List.map_append, List.map_singleton, ofClauses_snoc_iff]
  refine ⟨query, compiled, (step_ok_iff _ _ _).mpr ⟨_, read, ?_⟩⟩
  exact (add_simple_iff _ _ _ _).mpr ⟨matcher, means, rfl⟩

end Query

namespace Matcher

theorem reaches_concat (path : Path) (matchers : List Matcher) (matcher : Matcher) :
    reachesMetadata path (matchers ++ [matcher]) =
      (reachesMetadata path matchers ||
        (matchers.all (·.holds path none) && matcher.needsMetadata)) := by
  induction matchers with
  | nil =>
      rw [List.nil_append, reaches_cons]
      simp [reachesMetadata]
  | cons first rest ih =>
      rw [List.cons_append, reaches_cons, reaches_cons, ih, List.all_cons]
      cases first.needsMetadata <;> cases first.holds path none <;> simp

theorem holds_not (path : Path) (metadata : Option Value) (matcher : Matcher) :
    (Matcher.not matcher).holds path metadata = !matcher.holds path metadata := rfl

theorem verdict_loaded (path : Path) (metadata : Option Value) (matcher : Matcher) :
    matcher.verdict path (.ok metadata) = .ok (matcher.holds path metadata) := by
  cases needs : matcher.needsMetadata with
  | true => rw [verdict, needs, if_pos rfl, Except.map]
  | false => rw [verdict, needs, if_neg Bool.false_ne_true, holds_of_unneeded path metadata _ needs]

end Matcher

namespace Selection

/-- Results that verdicts divide: a document goes to one side where it is accepted, to the other where
it is refused, and to both as an error where it cannot be judged. Errors stay on both sides, and the
order stays as it was. -/
inductive Divided (verdict : Path → Except Failure Bool) :
    (all accepted refused : List SelectionItem) → Prop
  | nil : Divided verdict [] [] []
  | error {all accepted refused : List SelectionItem} (error : DocumentError)
    (rest : Divided verdict all accepted refused) :
    Divided verdict (.error error :: all) (.error error :: accepted) (.error error :: refused)
  | accepted {all accepted refused : List SelectionItem} {document judged : Document}
    (same : judged.path = document.path) (accepts : verdict document.path = .ok true)
    (rest : Divided verdict all accepted refused) :
    Divided verdict (.ok document :: all) (.ok judged :: accepted) refused
  | refused {all accepted refused : List SelectionItem} {document judged : Document}
    (same : judged.path = document.path) (refuses : verdict document.path = .ok false)
    (rest : Divided verdict all accepted refused) :
    Divided verdict (.ok document :: all) accepted (.ok judged :: refused)
  | failed {all accepted refused : List SelectionItem} {document : Document} {error : DocumentError}
    (fails : verdict document.path = .error (.document error))
    (rest : Divided verdict all accepted refused) :
    Divided verdict (.ok document :: all) (.error error :: accepted) (.error error :: refused)

theorem Divided.one {verdict : Path → Except Failure Bool} {path : Path} {holds : Bool}
    {document first second : Document} (same : document.path = path)
    (same_first : first.path = path) (same_second : second.path = path)
    (judged : verdict path = .ok holds) :
    Divided verdict [.ok document]
      (if holds then some (Except.ok first : SelectionItem) else none).toList
      (if !holds then some (Except.ok second : SelectionItem) else none).toList := by
  subst path
  cases holds with
  | true => exact .accepted same_first judged .nil
  | false => exact .refused same_second judged .nil

theorem Divided.append {verdict : Path → Except Failure Bool}
    {all accepted refused more more_accepted more_refused : List SelectionItem}
    (first : Divided verdict all accepted refused)
    (second : Divided verdict more more_accepted more_refused) :
    Divided verdict (all ++ more) (accepted ++ more_accepted) (refused ++ more_refused) := by
  induction first with
  | nil => exact second
  | error error _ ih => exact .error error ih
  | accepted same accepts _ ih => exact .accepted same accepts ih
  | refused same refuses _ ih => exact .refused same refuses ih
  | failed fails _ ih => exact .failed fails ih

section

variable (opener : Opener) (matchers : List Matcher) (matcher : Matcher)

theorem contribution_divided (item : PathItem)
    (unbroken : breakdownAt? opener (matchers ++ [matcher]) item = none) :
    Divided (fun path => matcher.verdict path (opener.load path))
      (contribution opener matchers item).toList
      (contribution opener (matchers ++ [matcher]) item).toList
      (contribution opener (matchers ++ [.not matcher]) item).toList := by
  cases item with
  | error error => exact .error error .nil
  | ok path =>
      have opposite : (Matcher.not matcher).needsMetadata = matcher.needsMetadata := rfl
      simp only [breakdownAt?, Matcher.reaches_concat] at unbroken
      simp only [contribution, Matcher.reaches_concat, opposite, List.all_append, List.all_cons,
        List.all_nil, Bool.and_true, Matcher.holds_not]
      cases reached : Matcher.reachesMetadata path matchers with
      | true =>
          rw [reached, Bool.true_or, if_pos rfl] at unbroken
          simp only [Bool.true_or, if_true]
          cases outcome : opener.load path with
          | error failure =>
              cases failure with
              | document error => exact .error error .nil
              | breakdown breakdown =>
                  rw [outcome] at unbroken
                  cases unbroken
          | ok metadata =>
              have verdict := matcher.verdict_loaded path metadata
              rw [← outcome] at verdict
              simp only
              cases others : matchers.all (·.holds path metadata) with
              | false => exact .nil
              | true => exact .one rfl rfl rfl verdict
      | false =>
          simp only [Bool.false_or, Bool.false_eq_true, if_false]
          cases others : matchers.all (·.holds path none) with
          | false => exact .nil
          | true =>
              -- What was read for the matcher changes nothing of what the others accept.
              have still (metadata : Option Value) : matchers.all (·.holds path metadata) = true :=
                Matcher.holds_of_unreached path none metadata matchers reached others
              cases needs : matcher.needsMetadata with
              | false =>
                  have verdict : matcher.verdict path (opener.load path) =
                      .ok (matcher.holds path none) := by
                    rw [Matcher.verdict, needs, if_neg Bool.false_ne_true]
                  exact .one rfl rfl rfl verdict
              | true =>
                  simp only [reached, others, needs, Bool.and_true, Bool.or_true,
                    if_true] at unbroken
                  simp only [Bool.and_true, if_true, still, Bool.true_and]
                  cases outcome : opener.load path with
                  | error failure =>
                      cases failure with
                      | document error =>
                          refine .failed ?_ .nil
                          simp only [Matcher.verdict, needs, if_true, outcome, Except.map]
                      | breakdown breakdown =>
                          rw [outcome] at unbroken
                          cases unbroken
                  | ok metadata =>
                      have verdict := matcher.verdict_loaded path metadata
                      rw [← outcome] at verdict
                      exact .one rfl rfl rfl verdict

theorem contributions_divided (given : List PathItem)
    (unbroken : ∀ item ∈ given, breakdownAt? opener (matchers ++ [matcher]) item = none) :
    Divided (fun path => matcher.verdict path (opener.load path))
      (given.filterMap (contribution opener matchers))
      (given.filterMap (contribution opener (matchers ++ [matcher])))
      (given.filterMap (contribution opener (matchers ++ [.not matcher]))) := by
  simp only [List.filterMap_eq_flatMap_toList]
  induction given with
  | nil => exact .nil
  | cons item rest ih =>
      simp only [List.flatMap_cons]
      refine .append ?_ (ih fun other member => unbroken other (List.mem_cons_of_mem item member))
      exact contribution_divided opener matchers matcher item (unbroken item List.mem_cons_self)

end

section

variable (query : Query) (matcher : Matcher) (item : PathItem)

theorem bars_not_iff :
    Bars (query.narrow (.not matcher)) .always item ↔ Bars (query.narrow matcher) .always item := by
  simp only [Bars, Query.narrow, ← List.cons_append, Matcher.reaches_concat]
  rfl

theorem bars_narrow (bars : Bars query .always item) : Bars (query.narrow matcher) .always item := by
  obtain ⟨path, same, nul, reached⟩ := bars
  refine ⟨path, same, nul, ?_⟩
  rw [Query.narrow, ← List.cons_append, Matcher.reaches_concat, reached, Bool.true_or]

end

section

variable (tree : FileTree) (source : PathSource) (query : Query) (matcher : Matcher)
  (unnamed : query.smartName = none) (given : List PathItem)
  (gives : source.items tree = .ok given)
  (convertible : ∀ path fault, .ok path ∈ given →
    tree.opener.load path ≠ .error (.breakdown (.unconvertible fault)))

include unnamed gives convertible

theorem selection_divided (free : ∀ item ∈ given, ¬ Bars (query.narrow matcher) .always item) :
    (ofQuery tree source query).breakdown = none ∧
      (ofQuery tree source (query.narrow matcher)).breakdown = none ∧
      (ofQuery tree source (query.narrow (.not matcher))).breakdown = none ∧
      Divided (fun path => matcher.verdict path (tree.opener.load path))
        (ofQuery tree source query).items
        (ofQuery tree source (query.narrow matcher)).items
        (ofQuery tree source (query.narrow (.not matcher))).items := by
  have whole (query : Query) (unnamed : query.smartName = none)
      (free : ∀ item ∈ given, ¬ Bars query .always item) :
      (ofQuery tree source query).items =
          given.filterMap (contribution tree.opener (.always :: query.matchers)) ∧
        (ofQuery tree source query).breakdown = none := by
    rw [ofQuery_plain tree source query unnamed]
    exact (pass_isPass tree query .always _ given ((supply_items tree source query).trans gives)
      convertible).whole free
  obtain ⟨all, all_ends⟩ := whole query unnamed fun item member bars =>
    free item member (bars_narrow query matcher item bars)
  obtain ⟨accepted, accepted_ends⟩ := whole (query.narrow matcher) unnamed free
  obtain ⟨refused, refused_ends⟩ :=
    whole (query.narrow (.not matcher)) unnamed fun item member bars =>
      free item member ((bars_not_iff query matcher item).mp bars)
  refine ⟨all_ends, accepted_ends, refused_ends, ?_⟩
  rw [all, accepted, refused]
  apply contributions_divided tree.opener (.always :: query.matchers) matcher given
  intro item member
  apply (breakdownAt_convertible tree (query.narrow matcher) .always item _).2 (free item member)
  exact fun path fault same => convertible path fault (same ▸ member)

theorem selection_barred (barred : ∃ item ∈ given, Bars (query.narrow matcher) .always item) :
    (ofQuery tree source (query.narrow matcher)).breakdown = some .nulInPath ∧
      (ofQuery tree source (query.narrow (.not matcher))).breakdown = some .nulInPath := by
  have ends (query : Query) (unnamed : query.smartName = none)
      (barred : ∃ item ∈ given, Bars query .always item) :
      (ofQuery tree source query).breakdown = some .nulInPath := by
    rw [ofQuery_plain tree source query unnamed]
    exact ((pass_isPass tree query .always _ given ((supply_items tree source query).trans gives)
      convertible).barred barred).1
  refine ⟨ends (query.narrow matcher) unnamed barred, ends (query.narrow (.not matcher)) unnamed ?_⟩
  obtain ⟨item, member, bars⟩ := barred
  exact ⟨item, member, (bars_not_iff query matcher item).mpr bars⟩

end

theorem verdict_absent (path : Path) (key : String) (comparison : Comparison)
    (metadata : Option Value) (foreign : key ≠ pathKey)
    (absent : metadata.bind (·.field? key) = none ∨
      comparison.compare (fieldOf path metadata key) = none) :
    (Matcher.field key comparison).verdict path (.ok metadata) = .ok false := by
  rw [Matcher.verdict_loaded, Matcher.holds]
  rcases absent with missing | uncomparable
  · have null : comparison.compare .null = some false := by rw [Comparison.compare]
    rw [fieldOf, if_neg foreign, missing, Option.getD_none, null]
    rfl
  · rw [uncomparable]
    rfl

/-- A condition and its negation divide what is selected without them: every document is on one side,
or on both as an error if it cannot be judged, and errors stay on both. A document whose field is
absent or cannot be compared is on the negated side. If a path with a NUL has to be read, both sides
break off there. -/
theorem negation_divides_results (tree : FileTree) (source : PathSource) (tokens : List String)
    (token preset : String) (query : Query) (condition : Condition) (negated : Bool)
    (compiled : Query.compile (tokens.map .token) preset = .ok query)
    (unnamed : query.smartName = none) (unmarked : ¬ Criterion.BeginsWith '!' token)
    (read : Criterion.parse token = .ok (.simple condition negated)) :
    ∃ matcher accepting refusing, condition.Means matcher ∧
      Query.compile ((tokens ++ [token]).map .token) preset = .ok accepting ∧
      Query.compile ((tokens ++ ["!" ++ token]).map .token) preset = .ok refusing ∧
      let all := ofQuery tree source query
      let accepted := ofQuery tree source accepting
      let refused := ofQuery tree source refusing
      let verdict (path : Path) := matcher.verdict path (tree.opener.load path)
      (∀ breakdown, source.items tree = .error breakdown →
        ∀ selection ∈ [all, accepted, refused],
          selection.items = [] ∧ selection.breakdown = some breakdown) ∧
      (∀ given, source.items tree = .ok given →
        (∀ path fault, .ok path ∈ given →
          tree.opener.load path ≠ .error (.breakdown (.unconvertible fault))) →
        ((∀ item ∈ given, ¬ Bars accepting .always item) →
          all.breakdown = none ∧ accepted.breakdown = none ∧ refused.breakdown = none ∧
            Divided verdict all.items accepted.items refused.items) ∧
        ((∃ item ∈ given, Bars accepting .always item) →
          accepted.breakdown = some .nulInPath ∧ refused.breakdown = some .nulInPath)) ∧
      ∀ key comparison path metadata, matcher = .field key comparison → key ≠ pathKey →
        tree.opener.load path = .ok metadata →
        (metadata.bind (·.field? key) = none ∨
          comparison.compare (fieldOf path metadata key) = none) →
        verdict path = .ok false := by
  obtain ⟨rfl, marked⟩ := Criterion.parse_marked token condition negated unmarked read
  obtain ⟨matcher, asked⟩ := Query.parsed_means token condition false read
  have means := (Query.compile_ok_iff condition matcher).mp asked
  refine ⟨matcher, query.narrow matcher, query.narrow (.not matcher), means, ?_, ?_, ?_, ?_, ?_⟩
  · exact Query.compile_concat tokens token preset query condition false matcher compiled read
      (.plain means)
  · exact Query.compile_concat tokens _ preset query condition true _ compiled marked
      (.negated means)
  · intro breakdown fails selection member
    simp only [List.mem_cons, List.not_mem_nil, or_false] at member
    rcases member with rfl | rfl | rfl
    · exact ofQuery_fails tree source _ breakdown fails
    · exact ofQuery_fails tree source _ breakdown fails
    · exact ofQuery_fails tree source _ breakdown fails
  · intro given gives convertible
    exact ⟨selection_divided tree source query matcher unnamed given gives convertible,
      selection_barred tree source query matcher unnamed given gives convertible⟩
  · intro key comparison path metadata same foreign loaded absent
    have judged := verdict_absent path key comparison metadata foreign absent
    rw [← loaded, ← same] at judged
    exact judged

theorem absent_field_negated :
    let path (name : String) : Path := ⟨.relative, [name]⟩
    let tree : FileTree := { entries := [(["plain.md"], .file [120]),
      (["kept.md"], .file [45, 45, 45, 10, 107, 58, 32, 118, 10, 45, 45, 45, 10])] }
    let given : List PathItem := [.ok (path "plain.md"), .ok (path "kept.md"), .ok (path "lost.md")]
    ∃ accepting refusing,
      Query.compile [.token "k:v"] "" = .ok accepting ∧
      Query.compile [.token "!k:v"] "" = .ok refusing ∧
      Divided
        (fun path => (Matcher.field "k" (.equals "v")).verdict path (tree.opener.load path))
        (ofQuery tree (.list given) ⟨none, []⟩).items (ofQuery tree (.list given) accepting).items
        (ofQuery tree (.list given) refusing).items ∧
      (Matcher.field "k" (.equals "v")).verdict (path "plain.md")
        (tree.opener.load (path "plain.md")) = .ok false := by
  intro path tree given
  have read : Criterion.parse "k:v" = .ok (.simple (.fieldEquals "k" "v") false) := by decide
  obtain ⟨matcher, accepting, refusing, means, accepts, refuses, _, divided, absent⟩ :=
    negation_divides_results tree (.list given) [] "k:v" "" ⟨none, []⟩ _ false rfl rfl (by decide)
      read
  cases means
  have each (holds : Path → Prop) (plain : holds (path "plain.md")) (kept : holds (path "kept.md"))
      (lost : holds (path "lost.md")) : ∀ other, .ok other ∈ given → holds other := by
    intro other member
    simp only [given, List.mem_cons, List.not_mem_nil, or_false, Except.ok.injEq] at member
    rcases member with rfl | rfl | rfl
    · exact plain
    · exact kept
    · exact lost
  have settled := each (fun other => Document.settles (tree.opener.load other) = true)
    (by decide +kernel) (by decide +kernel) (by decide +kernel)
  have plain := each (·.hasNul = false) (by decide) (by decide) (by decide)
  obtain ⟨free, _⟩ := divided given rfl (by
    intro other fault member failed
    have closed := settled other member
    rw [failed] at closed
    cases closed)
  have parts := free (by
    rintro item member ⟨other, rfl, nul, _⟩
    rw [plain other member] at nul
    cases nul)
  have unmarked : tree.opener.load (path "plain.md") = .ok none :=
    tree.opener.load_none (path "plain.md") (by decide +kernel)
  exact ⟨accepting, refusing, accepts, refuses, parts.2.2.2,
    absent "k" _ (path "plain.md") none rfl (by decide) unmarked (Or.inl rfl)⟩

theorem nul_on_neither_side :
    let path : Path := ⟨.relative, ["a\x00b"]⟩
    let source : PathSource := .list [.ok path]
    let selected (query : Query) := ofQuery {} source query
    Query.compile [] "" = .ok ⟨none, []⟩ ∧
      Query.compile [.token "k:v"] "" = .ok ⟨none, [.field "k" (.equals "v")]⟩ ∧
      Query.compile [.token "!k:v"] "" = .ok ⟨none, [.not (.field "k" (.equals "v"))]⟩ ∧
      (selected ⟨none, []⟩).items = [.ok { path }] ∧
      (selected ⟨none, [.field "k" (.equals "v")]⟩).items = [] ∧
      (selected ⟨none, [.field "k" (.equals "v")]⟩).breakdown = some .nulInPath ∧
      (selected ⟨none, [.not (.field "k" (.equals "v"))]⟩).items = [] ∧
      (selected ⟨none, [.not (.field "k" (.equals "v"))]⟩).breakdown = some .nulInPath := by
  refine ⟨?_, ?_, ?_, ?_, ?_, ?_, ?_, ?_⟩
  · rfl
  · rfl
  · rfl
  · rfl
  · rfl
  · rfl
  · rfl
  · rfl

end Selection

end DocFinder
