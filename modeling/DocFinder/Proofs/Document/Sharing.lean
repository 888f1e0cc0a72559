import DocFinder.Proofs.Document.Memory
import DocFinder.Proofs.Judgement

namespace DocFinder

/-- A warning about a field that cannot be compared. -/
def Event.complaint? : Event → Option Warning
  | warned (.uncomparable key path) => some (.uncomparable key path)
  | _ => none

def Event.isScanWarning : Event → Bool
  | warned (.frontMatter _) => true
  | _ => false

/-- What a matcher complains of on the way to an answer. -/
def Answer.complaints {α : Type} (answer : Answer α) : List Warning :=
  answer.events.filterMap Event.complaint?

def Answer.said {α : Type} (answer : Answer α) : Except Failure α × List Warning :=
  (answer.result, answer.complaints)

/-- The first opening of a path is all that counts: it settles what the document holds, or every
opening gives the same. -/
def Opener.Lasting (opener : Opener) (path : Path) : Prop :=
  Document.settles (opener.load path) = true ∨ ∀ number, opener path number = opener path 0

def Comparison.objections (comparison : Comparison) (key : String) (path : Path) :
    Except Failure Value → List Warning
  | .ok value => if comparison.compare value = none then [.uncomparable key path] else []
  | .error _ => []

namespace Matcher

/-- What a matcher says of a path and of what reading gave there. -/
def verdict (path : Path) (loading : Except Failure (Option Value)) (matcher : Matcher) :
    Except Failure Bool :=
  if matcher.needsMetadata then loading.map fun metadata => matcher.holds path metadata
  else .ok (matcher.holds path none)

/-- What a matcher finds uncomparable. The text of a path never is. -/
def uncomparable (path : Path) (loading : Except Failure (Option Value)) : Matcher → List Warning
  | not inner => inner.uncomparable path loading
  | field key comparison =>
    comparison.objections key path (loading.map fun metadata => fieldOf path metadata key)
  | _ => []

end Matcher

namespace FrontMatter

theorem readBlock_warnings (closing : List UInt8) (size : Int) (taken : List UInt8)
    (source : Source) :
    let scan := readBlock closing size taken source
    scan.warnings = [] ∨ scan.warnings = [.unclosedBlock] ∧ scan.found = .ok none := by
  fun_induction readBlock closing size taken source with
  | case1 => exact Or.inl rfl
  | case2 => exact Or.inr ⟨rfl, rfl⟩
  | case3 => exact Or.inl rfl
  | case4 _ _ _ _ _ _ _ _ later => exact later

theorem findPreamble_warnings (source : Source) (size : Int) :
    let scan := findPreamble source size
    scan.warnings = [] ∨ scan.warnings = [.unclosedBlock] ∧ scan.found = .ok none := by
  unfold findPreamble
  split
  · exact Or.inl rfl
  · split
    · exact Or.inl rfl
    · split
      · exact Or.inl rfl
      · exact readBlock_warnings _ _ _ _

end FrontMatter

namespace Document

theorem read_warnings (path : Path) (opening : Opening) :
    (read path opening).2.length ≤ 1 ∧
      (settles (read path opening).1 = false → (read path opening).2 = []) := by
  cases opening with
  | nulInPath => exact ⟨Nat.zero_le 1, fun _ => rfl⟩
  | refused error => exact ⟨Nat.zero_le 1, fun _ => rfl⟩
  | source source =>
      simp only [read, FrontMatter.extract]
      rcases FrontMatter.findPreamble_warnings source FrontMatter.chunkSize with
        silent | ⟨warned, nothing⟩
      · cases (FrontMatter.findPreamble source FrontMatter.chunkSize).found with
        | error error => simp [silent]
        | ok found => cases found <;> simp [silent]
      · simp [warned, nothing, Except.mapError, settles]

/-- Matchers applied to a document one after the other. -/
def judgements (opener : Opener) (document : Document) : List Matcher → List (Answer Bool)
  | [] => []
  | matcher :: rest =>
    let answer := matcher.accepts opener document
    answer :: answer.document.judgements opener rest

/-- A document that stands for a path as well as a new one: its next opening gives what the first
one gave, or it keeps what that gave. -/
structure StandsFor (opener : Opener) (path : Path) (document : Document) : Prop where
  path_eq : document.path = path
  answers : (document.slot = .unfetched ∧ opener path document.opens = opener path 0) ∨
    (document.slot = slotOf (opener.load path) ∧ settles (opener.load path) = true)

def unread (document : Document) : Nat := if document.isLoaded then 0 else 1

theorem standsFor_new (opener : Opener) (path : Path) : StandsFor opener path { path } :=
  ⟨rfl, Or.inl ⟨rfl, rfl⟩⟩

end Document

/-- An answer about a shared document that is as good as one about a document of its own. -/
structure Answer.Transparent {α : Type} (opener : Opener) (path : Path) (document : Document)
    (answer : Answer α) (result : Except Failure α) (complaints : List Warning) : Prop where
  result_eq : answer.result = result
  complaints_eq : answer.complaints = complaints
  standsFor : answer.document.StandsFor opener path
  warned : answer.events.countP Event.isScanWarning + answer.document.unread ≤ document.unread
  opened : Document.settles (opener.load path) = true →
    answer.events.countP Event.isOpening + answer.document.unread = document.unread

section

variable {opener : Opener} {path : Path} {document : Document}

namespace Document

theorem fetch_events (opener : Opener) (document : Document) :
    let warnings := (read document.path (opener document.path document.opens)).2
    let events := (document.fetch opener).events
    events.filterMap Event.complaint? = [] ∧
      events.countP Event.isScanWarning = warnings.length ∧ events.countP Event.isOpening = 1 := by
  have plain (warnings : List FrontMatter.Warning) :
      (warnings.map (Event.warned <| .frontMatter ·)).filterMap Event.complaint? = [] ∧
        (warnings.map (Event.warned <| .frontMatter ·)).countP Event.isScanWarning =
          warnings.length ∧
        (warnings.map (Event.warned <| .frontMatter ·)).countP Event.isOpening = 0 := by
    induction warnings with
    | nil => exact ⟨rfl, rfl, rfl⟩
    | cons warning rest ih =>
        simp only [List.map_cons, List.filterMap_cons, Event.complaint?, List.countP_cons,
          Event.isScanWarning, Event.isOpening, ih, List.length_cons]
        simp
  obtain ⟨uncomplaining, warned, unopened⟩ :=
    plain (read document.path (opener document.path document.opens)).2
  simp only [fetch, List.filterMap_cons, List.countP_cons]
  refine ⟨uncomplaining, ?_, ?_⟩
  · rw [warned]
    simp [Event.isScanWarning]
  · rw [unopened]
    simp [Event.isOpening]

theorem unread_of_slot {result : Except Failure (Option Value)} (kept : document.slot = slotOf result) :
    document.unread = if settles result then 0 else 1 := by
  rw [unread, isLoaded_of_slot kept]

end Document

namespace Answer

variable {α β : Type} {answer : Answer α} {result : Except Failure α} {complaints : List Warning}

theorem transparent_still (stands : document.StandsFor opener path) (result : Except Failure α) :
    Transparent opener path document ⟨result, document, []⟩ result [] :=
  ⟨rfl, rfl, stands, by simp, fun _ => by simp⟩

theorem Transparent.map (transparent : answer.Transparent opener path document result complaints)
    (f : α → β) :
    Transparent opener path document ⟨answer.result.map f, answer.document, answer.events⟩
      (result.map f) complaints :=
  ⟨congrArg (Except.map f) transparent.result_eq, transparent.complaints_eq, transparent.standsFor,
    transparent.warned, transparent.opened⟩

end Answer

namespace Document

theorem metadata_transparent (lasting : opener.Lasting path)
    (stands : document.StandsFor opener path) :
    (document.metadata opener).Transparent opener path document (opener.load path) [] := by
  obtain ⟨rfl, ⟨unfetched, same⟩ | ⟨kept, settled⟩⟩ := stands
  · have loaded : (read document.path (opener document.path document.opens)).1 =
        opener.load document.path := by
      rw [same, Opener.load]
    have asked : document.metadata opener = document.fetch opener := by
      simp only [metadata, unfetched]
    have next : (document.fetch opener).document.slot = slotOf (opener.load document.path) :=
      congrArg slotOf loaded
    have closed : document.unread = 1 := by simp [unread, isLoaded, unfetched]
    obtain ⟨uncomplaining, warned, opened⟩ := fetch_events opener document
    obtain ⟨few, silent⟩ := read_warnings document.path (opener document.path document.opens)
    rw [loaded] at silent
    rw [asked]
    refine ⟨loaded, uncomplaining, ⟨rfl, ?_⟩, ?_, ?_⟩
    · cases settled : settles (opener.load document.path) with
      | true => exact Or.inr ⟨next, rfl⟩
      | false =>
          obtain ⟨breakdown, failed⟩ := settles_false _ settled
          have constant := lasting.resolve_left (by rw [settled]; exact Bool.false_ne_true)
          exact Or.inl ⟨by rw [next, failed]; rfl, constant _⟩
    · rw [warned, unread_of_slot next, closed]
      cases settled : settles (opener.load document.path) with
      | true => simpa using few
      | false => simp [silent settled]
    · intro settled
      rw [opened, unread_of_slot next, settled, closed]
      rfl
  · rw [metadata_settled opener kept settled]
    exact Answer.transparent_still ⟨rfl, Or.inr ⟨kept, settled⟩⟩ _

theorem field_transparent (lasting : opener.Lasting path)
    (stands : document.StandsFor opener path) (key : String) :
    (document.field opener key).Transparent opener path document
      (if key = pathKey then .ok (.text path.text)
        else (opener.load path).map fun metadata => fieldOf path metadata key) [] := by
  by_cases own : key = pathKey
  · rw [field, if_pos own, if_pos own, stands.path_eq]
    exact Answer.transparent_still stands _
  · rw [field, if_neg own, if_neg own]
    have read := (metadata_transparent lasting stands).map fun metadata => fieldOf path metadata key
    simpa only [fieldOf, if_neg own] using read

end Document

theorem judge_transparent (comparison : Comparison) (key : String) (answer : Answer Value)
    (result : Except Failure Value)
    (transparent : answer.Transparent opener path document result []) :
    (comparison.judge key answer).Transparent opener path document
      (result.map fun value => comparison.compare value == some true)
      (comparison.objections key path result) := by
  obtain ⟨rfl, uncomplaining, stands, warned, opened⟩ := transparent
  have verdict := (judge_result comparison key answer).1
  unfold Comparison.judge at verdict ⊢
  cases given : answer.result with
  | error failure =>
      simp only [given] at verdict ⊢
      exact ⟨verdict, uncomplaining, stands, warned, opened⟩
  | ok value =>
      cases compared : comparison.compare value with
      | some definite =>
          simp only [given, compared] at verdict ⊢
          have unobjectionable :
              comparison.objections key path (.ok value) = [] := by
            simp [Comparison.objections, compared]
          exact ⟨verdict, uncomplaining.trans unobjectionable.symm, stands, warned, opened⟩
      | none =>
          simp only [given, compared] at verdict ⊢
          refine ⟨verdict, ?_, stands, ?_, ?_⟩
          · have silent : answer.events.filterMap Event.complaint? = [] := uncomplaining
            simp [Answer.complaints, silent, Comparison.objections, compared, Event.complaint?,
              stands.path_eq]
          · simpa [Event.isScanWarning] using warned
          · simpa [Event.isOpening] using opened

namespace Matcher

theorem verdict_not (loading : Except Failure (Option Value)) (inner : Matcher) :
    (Matcher.not inner).verdict path loading = (inner.verdict path loading).map (!·) := by
  cases needs : inner.needsMetadata with
  | true =>
      simp only [verdict, needsMetadata, needs, if_true, holds]
      cases loading <;> rfl
  | false => simp [verdict, needsMetadata, needs, holds, Except.map]

theorem verdict_field (loading : Except Failure (Option Value)) (key : String)
    (comparison : Comparison) (foreign : key ≠ pathKey) :
    (Matcher.field key comparison).verdict path loading =
      loading.map fun metadata => comparison.compare (fieldOf path metadata key) == some true := by
  simp [verdict, needsMetadata, foreign, holds]

theorem verdict_path (loading : Except Failure (Option Value)) (comparison : Comparison) :
    (Matcher.field pathKey comparison).verdict path loading = .ok (comparison.test path.text) := by
  simp [verdict, needsMetadata, holds, fieldOf, Comparison.compare]

theorem accepts_transparent (lasting : opener.Lasting path)
    (stands : document.StandsFor opener path) (matcher : Matcher) :
    (matcher.accepts opener document).Transparent opener path document
      (matcher.verdict path (opener.load path)) (matcher.uncomparable path (opener.load path)) := by
  induction matcher with
  | not inner ih =>
      rw [verdict_not]
      exact ih.map (!·)
  | field key comparison =>
      have judged := judge_transparent comparison key _ _
        (Document.field_transparent lasting stands key)
      rw [accepts]
      by_cases own : key = pathKey
      · subst key
        rw [verdict_path]
        cases loading : opener.load path <;>
          simpa [uncomparable, Comparison.objections, fieldOf, Comparison.compare, Except.map]
            using judged
      · rw [verdict_field _ _ _ own]
        rw [if_neg own] at judged
        cases loading : opener.load path <;>
          simpa only [uncomparable, loading, Except.map] using judged
  | nameIs pattern =>
      have named := nameIs_any document pattern
      rw [accepts, named, Document.name?, stands.path_eq]
      exact Answer.transparent_still stands _
  | nameMatches _ | nameStartsWith _ =>
      rw [accepts, Document.name?, stands.path_eq]
      exact Answer.transparent_still stands _
  | always | never => exact Answer.transparent_still stands _

end Matcher

namespace Document

theorem judgements_transparent (lasting : opener.Lasting path)
    (stands : document.StandsFor opener path) (matchers : List Matcher) :
    let answers := document.judgements opener matchers
    let events := answers.flatMap (·.events)
    answers.map Answer.said =
        matchers.map (fun matcher =>
          (matcher.verdict path (opener.load path), matcher.uncomparable path (opener.load path))) ∧
      events.countP Event.isScanWarning ≤ document.unread ∧
      (settles (opener.load path) = true → events.countP Event.isOpening ≤ document.unread) := by
  induction matchers generalizing document with
  | nil => exact ⟨rfl, Nat.zero_le _, fun _ => Nat.zero_le _⟩
  | cons matcher rest ih =>
      have first := Matcher.accepts_transparent lasting stands matcher
      obtain ⟨said, warned, opened⟩ := ih first.standsFor
      have first_warned := first.warned
      simp only [judgements, List.map_cons, List.flatMap_cons, List.countP_append]
      refine ⟨?_, by omega, fun settled => ?_⟩
      · rw [said, Answer.said, first.result_eq, first.complaints_eq]
      · have first_opened := first.opened settled
        have later_opened := opened settled
        omega

end Document

end

namespace Matcher

theorem accepts_path (comparison : Comparison) (opener : Opener) (document : Document) :
    (Matcher.field pathKey comparison).accepts opener document =
      ⟨.ok (comparison.test document.path.text), document, []⟩ := by
  simp [accepts, Document.field, Comparison.judge, Comparison.compare]

/-- Matchers that share a document say of it what each would say of a document of its own, whatever
the order: what they say is told by the path and by what the first opening gave. The file is read
once for all of them. -/
theorem matchers_share_documents (opener : Opener) (path : Path) (lasting : opener.Lasting path) :
    let own (matcher : Matcher) := matcher.accepts opener { path }
    (∀ matchers,
      let answers := ({ path } : Document).judgements opener matchers
      let events := answers.flatMap (·.events)
      answers.map Answer.said = matchers.map (fun matcher => (own matcher).said) ∧
        events.countP Event.isScanWarning ≤ 1 ∧
        (Document.settles (opener.load path) = true → events.countP Event.isOpening ≤ 1)) ∧
    (∀ matcher, (own matcher).said =
      (matcher.verdict path (opener.load path), matcher.uncomparable path (opener.load path))) ∧
    (∀ inner, (own (.not inner)).said = ((own inner).result.map (!·), (own inner).complaints)) ∧
    (∀ comparison (other : Opener) (document : Document), document.path.text = path.text →
      (Matcher.field pathKey comparison).accepts other document =
        ⟨.ok (comparison.test path.text), document, []⟩) ∧
    ∀ key comparison, key ≠ pathKey →
      (∀ failure, opener.load path = .error failure →
        (own (.field key comparison)).said = (.error failure, [])) ∧
      ∀ metadata, opener.load path = .ok metadata →
        let value := (metadata.bind (·.field? key)).getD .null
        (own (.field key comparison)).said =
          (.ok (comparison.compare value == some true),
            if comparison.compare value = none then [.uncomparable key path] else []) := by
  have new := Document.standsFor_new opener path
  intro own
  have alone (matcher : Matcher) : (own matcher).said =
      (matcher.verdict path (opener.load path), matcher.uncomparable path (opener.load path)) := by
    have transparent := accepts_transparent lasting new matcher
    rw [Answer.said, transparent.result_eq, transparent.complaints_eq]
  refine ⟨fun matchers => ?_, alone, fun inner => rfl, ?_, fun key comparison foreign => ?_⟩
  · obtain ⟨said, warned, opened⟩ := Document.judgements_transparent lasting new matchers
    refine ⟨said.trans ?_, warned, opened⟩
    exact List.map_congr_left fun matcher _ => (alone matcher).symm
  · intro comparison other document same
    rw [accepts_path, same]
  · have field := alone (.field key comparison)
    rw [verdict_field _ _ _ foreign] at field
    constructor
    · intro failure failed
      rw [field, failed]
      rfl
    · intro metadata loaded
      rw [field, loaded]
      simp only [Except.map, uncomparable, Comparison.objections, fieldOf, if_neg foreign]

/-- The file ends within its block, which is told once. Later openings would be refused, but there
are none. -/
theorem unclosed_block_told_once :
    let path : Path := ⟨.relative, ["note.md"]⟩
    let opener : Opener := fun _ number =>
      if number = 0 then .source (.ofBytes "---\nk: v\n".toUTF8.toList)
      else .refused (.described "busy")
    let asks : Matcher := .field "k" (.equals "v")
    let answers := ({ path } : Document).judgements opener [.not asks, asks, .not (.not asks)]
    opener.Lasting path ∧
      answers.map Answer.said = [(.ok true, []), (.ok false, []), (.ok false, [])] ∧
      (answers.flatMap (·.events)).countP Event.isScanWarning ≤ 1 := by
  intro path opener asks answers
  have loaded : opener.load path = .ok none := opener.load_none path (by decide +kernel)
  have lasting : opener.Lasting path := Or.inl (by rw [loaded]; rfl)
  obtain ⟨share, _, negated, _, fields⟩ := matchers_share_documents opener path lasting
  obtain ⟨said, once, _⟩ := share [.not asks, asks, .not (.not asks)]
  have absent : (asks.accepts opener { path }).said = (.ok false, []) :=
    (fields "k" (.equals "v") (by decide)).2 none loaded
  have opposite : (Matcher.accepts opener { path } (.not asks)).said = (.ok true, []) := by
    have result := congrArg Prod.fst absent
    have complaints := congrArg Prod.snd absent
    simp only [Answer.said] at result complaints
    rw [negated, result, complaints]
    rfl
  have twice : (Matcher.accepts opener { path } (.not (.not asks))).said = (.ok false, []) := by
    have result := congrArg Prod.fst opposite
    have complaints := congrArg Prod.snd opposite
    simp only [Answer.said] at result complaints
    rw [negated, result, complaints]
    rfl
  refine ⟨lasting, said.trans ?_, once⟩
  simp only [List.map_cons, List.map_nil, absent, opposite, twice]

end Matcher

end DocFinder
