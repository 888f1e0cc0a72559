import DocFinder.Proofs.Document.Memory
import DocFinder.Proofs.Judgement

namespace DocFinder

def Event.opening? : Event → Option Path
  | opened path => some path
  | warned _ => none

structure Answer.Opens {α : Type} (document : Document) (n : Nat) (answer : Answer α) : Prop where
  path_eq : answer.document.path = document.path
  counted : answer.document.opens = document.opens + n
  openings : answer.events.filterMap Event.opening? = List.replicate n document.path

theorem Answer.opens_still {α : Type} (document : Document) (result : Except Failure α) :
    Answer.Opens document 0 ⟨result, document, []⟩ :=
  ⟨rfl, rfl, rfl⟩

section

variable (opener : Opener) (document : Document)

theorem fetch_opens : (document.fetch opener).Opens document 1 := by
  refine ⟨rfl, rfl, ?_⟩
  calc
    (document.fetch opener).events.filterMap Event.opening? =
        ((document.fetch opener).events.filter Event.isOpening).filterMap Event.opening? := by
      rw [List.filterMap_filter]
      congr 1
      funext event
      cases event <;> rfl
    _ = [document.path] := by
      rw [Document.openings_fetch]
      rfl

theorem metadata_opens : ∃ n, (document.metadata opener).Opens document n := by
  unfold Document.metadata
  cases document.slot with
  | unfetched => exact ⟨1, fetch_opens opener document⟩
  | loaded metadata => exact ⟨0, Answer.opens_still document _⟩
  | failed error => exact ⟨0, Answer.opens_still document _⟩

theorem field_opens (key : String) : ∃ n, (document.field opener key).Opens document n := by
  unfold Document.field
  by_cases own : key = pathKey
  · rw [if_pos own]
    exact ⟨0, Answer.opens_still document _⟩
  · rw [if_neg own]
    obtain ⟨n, same, counted, openings⟩ := metadata_opens opener document
    exact ⟨n, same, counted, openings⟩

theorem judge_opens (comparison : Comparison) (key : String) (answer : Answer Value) (n : Nat)
    (opens : answer.Opens document n) : (comparison.judge key answer).Opens document n := by
  obtain ⟨same, counted, openings⟩ := opens
  unfold Comparison.judge
  cases given : answer.result with
  | error failure => exact ⟨same, counted, openings⟩
  | ok value =>
      cases compared : comparison.compare value with
      | some verdict =>
          simp only [compared]
          exact ⟨same, counted, openings⟩
      | none =>
          simp only [compared]
          refine ⟨same, counted, ?_⟩
          rw [List.filterMap_append, openings]
          exact List.append_nil _

namespace Matcher

theorem accepts_opens (matcher : Matcher) :
    ∃ n, (matcher.accepts opener document).Opens document n := by
  induction matcher with
  | not inner ih =>
      obtain ⟨n, same, counted, openings⟩ := ih
      exact ⟨n, same, counted, openings⟩
  | field key comparison =>
      obtain ⟨n, opens⟩ := field_opens opener document key
      exact ⟨n, judge_opens document comparison key _ n opens⟩
  | _ => exact ⟨0, Answer.opens_still document _⟩

theorem allAccept_opens (matchers : List Matcher) :
    ∃ n, (allAccept opener document matchers).Opens document n := by
  induction matchers generalizing document with
  | nil => exact ⟨0, Answer.opens_still document _⟩
  | cons matcher rest ih =>
      obtain ⟨n, first⟩ := accepts_opens opener document matcher
      simp only [allAccept]
      split
      · obtain ⟨m, later⟩ := ih (matcher.accepts opener document).document
        refine ⟨n + m, later.path_eq.trans first.path_eq, ?_, ?_⟩
        · calc
            _ = (matcher.accepts opener document).document.opens + m := later.counted
            _ = document.opens + (n + m) := by rw [first.counted, Nat.add_assoc]
        · rw [List.filterMap_append, first.openings, later.openings, first.path_eq,
            List.replicate_append_replicate]
      · exact ⟨n, first⟩

/-- A new document is opened once if a matcher that needs its front matter is reached, and else not
at all. -/
theorem openings_unread (path : Path) (matchers : List Matcher) :
    (allAccept opener { path } matchers).events.filterMap Event.opening? =
      if reachesMetadata path matchers then [path] else [] := by
  obtain ⟨n, _, counted, openings⟩ := allAccept_opens opener { path } matchers
  have document := (allAccept_unread opener path matchers).2
  rw [openings]
  cases reached : reachesMetadata path matchers with
  | true =>
      rw [document, reached] at counted
      have once : 1 = 0 + n := counted
      obtain rfl : n = 1 := by omega
      rfl
  | false =>
      rw [document, reached] at counted
      have never : 0 = 0 + n := counted
      obtain rfl : n = 0 := by omega
      rfl

end Matcher

end

section

variable (opener other : Opener)

theorem metadata_congr (document : Document) (alike : opener document.path = other document.path) :
    document.metadata opener = document.metadata other := by
  unfold Document.metadata Document.fetch
  rw [alike]

namespace Matcher

theorem accepts_congr (document : Document) (matcher : Matcher)
    (alike : matcher.needsMetadata = true → opener document.path = other document.path) :
    matcher.accepts opener document = matcher.accepts other document := by
  induction matcher with
  | not inner ih => simp only [accepts, ih alike]
  | field key comparison =>
      unfold accepts Document.field
      by_cases own : key = pathKey
      · rw [if_pos own, if_pos own]
      · have needs : (Matcher.field key comparison).needsMetadata = true := by
          simpa [needsMetadata] using own
        rw [metadata_congr opener other document (alike needs)]
  | _ => rfl

theorem allAccept_congr_path (document : Document) (matchers : List Matcher)
    (alike : opener document.path = other document.path) :
    allAccept opener document matchers = allAccept other document matchers := by
  induction matchers generalizing document with
  | nil => rfl
  | cons matcher rest ih =>
      obtain ⟨_, opens⟩ := accepts_opens other document matcher
      have later := ih (matcher.accepts other document).document (by rw [opens.path_eq, alike])
      simp only [allAccept, accepts_congr opener other document matcher fun _ => alike, later]

/-- What is in a file does not matter to matchers that do not come to need its front matter. -/
theorem allAccept_congr (path : Path) (matchers : List Matcher)
    (alike : reachesMetadata path matchers = true → opener path = other path) :
    allAccept opener { path } matchers = allAccept other { path } matchers := by
  induction matchers with
  | nil => rfl
  | cons matcher rest ih =>
      cases needs : matcher.needsMetadata with
      | true =>
          apply allAccept_congr_path
          apply alike
          rw [reaches_cons, needs, Bool.true_or]
      | false =>
          have same := accepts_congr opener other { path } matcher fun needed => by
            rw [needs] at needed
            cases needed
          obtain ⟨result, left⟩ := accepts_unneeded other { path } matcher needs
          cases accepted : matcher.holds path none with
          | false => simp only [allAccept, same, result, accepted]
          | true =>
              have reached : reachesMetadata path (matcher :: rest) = reachesMetadata path rest := by
                rw [reaches_cons, needs, accepted, Bool.false_or, Bool.true_and]
              rw [reached] at alike
              simp only [allAccept, same, result, accepted, left, ih alike]

end Matcher

end

end DocFinder
