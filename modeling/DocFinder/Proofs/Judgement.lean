import DocFinder.Document.Matching

/-! What matchers say about a document, told from its path and its front matter, and how little of
it an unread document has to read to say the same. -/

namespace DocFinder

/-- What reading a document for the first time gives. -/
def Opener.load (opener : Opener) (path : Path) : Except Failure (Option Value) :=
  (Document.read path (opener path 0)).1

theorem Opener.load_none (opener : Opener) (path : Path)
    (nothing : (opener.load path).toOption.map Option.isNone = some true) :
    opener.load path = .ok none := by
  cases loaded : opener.load path with
  | error failure =>
      rw [loaded] at nothing
      cases nothing
  | ok metadata =>
      rw [loaded] at nothing
      cases metadata with
      | none => rfl
      | some value => cases nothing

def Opener.loaded (opener : Opener) (path : Path) : Document :=
  { path, slot := Document.slotOf (opener.load path), opens := 1 }

/-- The value under a key of front matter that was read. -/
def fieldOf (path : Path) (metadata : Option Value) (key : String) : Value :=
  if key = pathKey then .text path.text else (metadata.bind (·.field? key)).getD .null

namespace Matcher

def needsMetadata : Matcher → Bool
  | not inner => inner.needsMetadata
  | field key _ => key != pathKey
  | _ => false

/-- What a matcher says of a path and the front matter there. -/
def holds (path : Path) (metadata : Option Value) : Matcher → Bool
  | always => true
  | never => false
  | not inner => !inner.holds path metadata
  | nameMatches regex => (Document.name? { path }).any regex.search
  | nameIs pattern => Document.name? { path } == some pattern
  | nameStartsWith pattern =>
    (Document.name? { path }).any fun name => pattern.toList.isPrefixOf name.toList
  | field key comparison => comparison.compare (fieldOf path metadata key) == some true

def reachesMetadata (path : Path) (matchers : List Matcher) : Bool :=
  matchers.any (·.needsMetadata) &&
    (matchers.takeWhile (!·.needsMetadata)).all (·.holds path none)

theorem reaches_cons (path : Path) (matcher : Matcher) (rest : List Matcher) :
    reachesMetadata path (matcher :: rest) =
      (matcher.needsMetadata || (matcher.holds path none && reachesMetadata path rest)) := by
  cases needs : matcher.needsMetadata with
  | true => simp [reachesMetadata, needs]
  | false =>
      cases accepted : matcher.holds path none <;> simp [reachesMetadata, needs, accepted]

theorem holds_of_unneeded (path : Path) (metadata : Option Value) (matcher : Matcher)
    (unneeded : matcher.needsMetadata = false) :
    matcher.holds path metadata = matcher.holds path none := by
  induction matcher with
  | not inner ih => simp only [holds, ih unneeded]
  | field key comparison =>
      have own : key = pathKey := by simpa [needsMetadata] using unneeded
      simp only [holds, fieldOf, if_pos own]
  | _ => rfl

/-- Matchers that accept a document without reaching its front matter accept it whatever that is. -/
theorem holds_of_unreached (path : Path) (metadata other : Option Value) (matchers : List Matcher)
    (unreached : reachesMetadata path matchers = false)
    (accepted : matchers.all (·.holds path metadata) = true) :
    matchers.all (·.holds path other) = true := by
  induction matchers with
  | nil => rfl
  | cons matcher rest ih =>
      rw [List.all_cons, Bool.and_eq_true] at accepted
      rw [reaches_cons, Bool.or_eq_false_iff] at unreached
      have alike := holds_of_unneeded path
      have unread : matcher.holds path none = true := by
        rw [← alike metadata matcher unreached.1]
        exact accepted.1
      rw [unread, Bool.true_and] at unreached
      rw [List.all_cons, alike other matcher unreached.1, unread]
      exact ih unreached.2 accepted.2

end Matcher

def Document.Fresh (opener : Opener) (document : Document) : Prop :=
  (document.metadata opener).result = opener.load document.path

theorem fresh_unread (opener : Opener) (path : Path) : Document.Fresh opener { path } := rfl

theorem fresh_loaded (opener : Opener) (path : Path) (metadata : Option Value)
    (loaded : opener.load path = .ok metadata) : (opener.loaded path).Fresh opener := by
  have kept : (opener.loaded path).slot = .loaded metadata := by
    simp only [Opener.loaded, loaded, Document.slotOf]
  simp only [Document.Fresh, Document.metadata, kept]
  exact loaded.symm

theorem judge_result (comparison : Comparison) (key : String) (answer : Answer Value) :
    (comparison.judge key answer).result =
        answer.result.map (fun value => comparison.compare value == some true) ∧
      (comparison.judge key answer).document = answer.document := by
  unfold Comparison.judge
  cases answer.result with
  | error failure => exact ⟨rfl, rfl⟩
  | ok value => cases compared : comparison.compare value <;> simp [Except.map, compared]

namespace Document

theorem field_path (opener : Opener) (document : Document) (metadata : Option Value)
    (key : String) (own : key = pathKey) :
    document.field opener key = ⟨.ok (fieldOf document.path metadata key), document, []⟩ := by
  rw [field, fieldOf, if_pos own, if_pos own]

theorem field_loaded (opener : Opener) (document : Document) (metadata : Option Value)
    (key : String) (kept : document.slot = .loaded metadata) :
    document.field opener key = ⟨.ok (fieldOf document.path metadata key), document, []⟩ := by
  by_cases own : key = pathKey
  · exact field_path opener document metadata key own
  · rw [field, fieldOf, if_neg own, if_neg own, Document.metadata, kept]
    rfl

theorem field_unread (opener : Opener) (path : Path) (key : String) (foreign : key ≠ pathKey) :
    (Document.field opener { path } key).result =
        (opener.load path).map (fun metadata => fieldOf path metadata key) ∧
      (Document.field opener { path } key).document = opener.loaded path := by
  unfold field fieldOf
  rw [if_neg foreign]
  simp only [if_neg foreign]
  exact ⟨rfl, rfl⟩

end Document

namespace Matcher

theorem nameIs_any (document : Document) (pattern : String) :
    document.name?.any (· == pattern) = (document.name? == some pattern) := by
  cases document.name? with
  | none => rfl
  | some name => simp

theorem accepts_unneeded (opener : Opener) (document : Document) (matcher : Matcher)
    (unneeded : matcher.needsMetadata = false) :
    (matcher.accepts opener document).result = .ok (matcher.holds document.path none) ∧
      (matcher.accepts opener document).document = document := by
  induction matcher with
  | not inner ih =>
      obtain ⟨result, same⟩ := ih unneeded
      exact ⟨by simp only [accepts, result, Except.map, holds], same⟩
  | nameIs pattern => exact ⟨congrArg Except.ok (nameIs_any document pattern), rfl⟩
  | field key comparison =>
      have own : key = pathKey := by simpa [needsMetadata] using unneeded
      have judged := judge_result comparison key (document.field opener key)
      rw [document.field_path opener none key own] at judged
      rw [accepts, document.field_path opener none key own]
      exact judged
  | _ => exact ⟨rfl, rfl⟩

theorem accepts_loaded (opener : Opener) (document : Document) (metadata : Option Value)
    (matcher : Matcher) (kept : document.slot = .loaded metadata) :
    (matcher.accepts opener document).result = .ok (matcher.holds document.path metadata) ∧
      (matcher.accepts opener document).document = document := by
  induction matcher with
  | not inner ih =>
      obtain ⟨result, same⟩ := ih
      exact ⟨by simp only [accepts, result, Except.map, holds], same⟩
  | nameIs pattern => exact ⟨congrArg Except.ok (nameIs_any document pattern), rfl⟩
  | field key comparison =>
      have judged := judge_result comparison key (document.field opener key)
      rw [document.field_loaded opener metadata key kept] at judged
      rw [accepts, document.field_loaded opener metadata key kept]
      exact judged
  | _ => exact ⟨rfl, rfl⟩

theorem accepts_first (opener : Opener) (path : Path) (matcher : Matcher)
    (needs : matcher.needsMetadata = true) :
    (matcher.accepts opener { path }).result =
        (opener.load path).map (fun metadata => matcher.holds path metadata) ∧
      (matcher.accepts opener { path }).document = opener.loaded path := by
  induction matcher with
  | not inner ih =>
      obtain ⟨result, read⟩ := ih needs
      refine ⟨?_, read⟩
      simp only [accepts, result, holds]
      cases opener.load path <;> rfl
  | field key comparison =>
      have foreign : key ≠ pathKey := by simpa [needsMetadata] using needs
      obtain ⟨value, read⟩ := Document.field_unread opener path key foreign
      obtain ⟨result, same⟩ := judge_result comparison key (Document.field opener { path } key)
      refine ⟨result.trans ?_, same.trans read⟩
      rw [value]
      cases opener.load path <;> rfl
  | _ => cases needs

theorem allAccept_loaded (opener : Opener) (document : Document) (metadata : Option Value)
    (matchers : List Matcher) (kept : document.slot = .loaded metadata) :
    (allAccept opener document matchers).result =
        .ok (matchers.all (·.holds document.path metadata)) ∧
      (allAccept opener document matchers).document = document := by
  induction matchers with
  | nil => exact ⟨rfl, rfl⟩
  | cons matcher rest ih =>
      obtain ⟨result, same⟩ := accepts_loaded opener document metadata matcher kept
      cases accepted : matcher.holds document.path metadata with
      | true =>
          simp only [allAccept, result, accepted, same, List.all_cons, Bool.true_and]
          exact ih
      | false =>
          simp only [allAccept, result, accepted, same, List.all_cons, Bool.false_and, and_self]

/-- All matchers on an unread document: it is read if and only if one is reached that needs it. -/
theorem allAccept_unread (opener : Opener) (path : Path) (matchers : List Matcher) :
    (allAccept opener { path } matchers).result =
        (if reachesMetadata path matchers
          then (opener.load path).map fun metadata => matchers.all (·.holds path metadata)
          else .ok (matchers.all (·.holds path none))) ∧
      (allAccept opener { path } matchers).document =
        if reachesMetadata path matchers then opener.loaded path else { path } := by
  -- The document stays unread up to the first matcher that needs it; behind that one, what was read
  -- answers for all others.
  induction matchers with
  | nil => exact ⟨rfl, rfl⟩
  | cons matcher rest ih =>
      cases needs : matcher.needsMetadata with
      | true =>
          have reached : reachesMetadata path (matcher :: rest) = true := by
            rw [reaches_cons, needs, Bool.true_or]
          obtain ⟨result, read⟩ := accepts_first opener path matcher needs
          rw [reached, if_pos rfl, if_pos rfl]
          cases outcome : opener.load path with
          | error failure =>
              simp only [allAccept, result, read, outcome, Except.map, and_self]
          | ok metadata =>
              have kept : (opener.loaded path).slot = .loaded metadata := by
                simp only [Opener.loaded, outcome, Document.slotOf]
              have later := allAccept_loaded opener (opener.loaded path) metadata rest kept
              cases accepted : matcher.holds path metadata with
              | true =>
                  simp only [allAccept, result, read, outcome, Except.map, accepted, List.all_cons,
                    Bool.true_and]
                  exact later
              | false =>
                  simp only [allAccept, result, read, outcome, Except.map, accepted, List.all_cons,
                    Bool.false_and, and_self]
      | false =>
          obtain ⟨result, same⟩ := accepts_unneeded opener { path } matcher needs
          have unneeded (metadata : Option Value) := holds_of_unneeded path metadata matcher needs
          cases accepted : matcher.holds path none with
          | true =>
              have reached : reachesMetadata path (matcher :: rest) = reachesMetadata path rest := by
                rw [reaches_cons, needs, accepted, Bool.false_or, Bool.true_and]
              simp only [allAccept, result, same, reached, accepted, unneeded, List.all_cons,
                Bool.true_and]
              exact ih
          | false =>
              have unreached : reachesMetadata path (matcher :: rest) = false := by
                rw [reaches_cons, needs, accepted, Bool.false_or, Bool.false_and]
              simp only [allAccept, result, same, unreached, accepted, List.all_cons,
                Bool.false_and, Bool.false_eq_true, if_false, and_self]

end Matcher

end DocFinder
