import DocFinder.Document
import Mathlib.Data.Nat.Find

/-! Documents over whole courses of questions. A document is opened for each request of its front
matter until one opening settles what it holds; from then on it answers from memory. -/

namespace DocFinder

/-- What a document is asked. -/
inductive Question
  | name
  | text
  | inspection
  | loaded
  | metadata
  deriving DecidableEq, Repr

inductive Reply
  | name (name : Option String)
  | text (text : String)
  | loaded (loaded : Bool)
  | metadata (result : Except Failure (Option Value))

def Reply.metadata? : Reply → Option (Except Failure (Option Value))
  | metadata result => some result
  | _ => none

def Event.isOpening : Event → Bool
  | opened _ => true
  | warned _ => false

structure Turn where
  reply : Reply
  document : Document
  events : List Event := []

structure Conversation where
  replies : List Reply
  document : Document
  events : List Event

namespace Document

def ask (opener : Opener) (document : Document) : Question → Turn
  | .name => ⟨.name document.name?, document, []⟩
  | .text => ⟨.text document.path.text, document, []⟩
  | .inspection => ⟨.text document.inspect, document, []⟩
  | .loaded => ⟨.loaded document.isLoaded, document, []⟩
  | .metadata =>
    let answer := document.metadata opener
    ⟨.metadata answer.result, answer.document, answer.events⟩

def converse (opener : Opener) (document : Document) : List Question → Conversation
  | [] => ⟨[], document, []⟩
  | question :: rest =>
    let turn := document.ask opener question
    let later := turn.document.converse opener rest
    ⟨turn.reply :: later.replies, later.document, turn.events ++ later.events⟩

/-- A value and a failure of the document's own are kept, any other failure is not. -/
def settles : Except Failure (Option Value) → Bool
  | .error (.breakdown _) => false
  | _ => true

/-- What the opening of this number gives, counted from zero. -/
def outcome (opener : Opener) (path : Path) (number : Nat) : Except Failure (Option Value) :=
  (read path (opener path number)).1

/-- A document that answers with one result, whatever is asked and whatever openings would give. -/
structure Keeps (document : Document) (result : Except Failure (Option Value)) : Prop where
  loaded : document.isLoaded = true
  later : ∀ opener questions,
    (document.converse opener questions).document = document ∧
      (document.converse opener questions).events = [] ∧
      ∀ other ∈ (document.converse opener questions).replies.filterMap Reply.metadata?,
        other = result

/-- What has become of a document after some requests, when the opening `settled` is the first one
that settles it. -/
def after (opener : Opener) (path : Path) (settled requests : Nat) : Document :=
  { path
    slot := if settled < requests then slotOf (outcome opener path settled) else .unfetched
    opens := min requests (settled + 1) }

theorem not_breakdown (result : Except Failure (Option Value)) (settled : settles result = true)
    (breakdown : Breakdown) : result ≠ .error (.breakdown breakdown) := by
  rintro rfl
  cases settled

theorem settles_false (result : Except Failure (Option Value)) (unsettled : settles result = false) :
    ∃ breakdown, result = .error (.breakdown breakdown) := by
  cases result with
  | ok metadata => cases unsettled
  | error failure =>
      cases failure with
      | document error => cases unsettled
      | breakdown breakdown => exact ⟨breakdown, rfl⟩

section

variable {document : Document} {result : Except Failure (Option Value)}

theorem isLoaded_of_slot (slot : document.slot = slotOf result) :
    document.isLoaded = settles result := by
  unfold isLoaded
  rw [slot]
  cases result with
  | ok metadata => rfl
  | error failure => cases failure <;> rfl

theorem metadata_settled (opener : Opener) (slot : document.slot = slotOf result)
    (settled : settles result = true) : document.metadata opener = ⟨result, document, []⟩ := by
  unfold metadata
  rw [slot]
  cases result with
  | ok metadata => rfl
  | error failure =>
      cases failure with
      | document error => rfl
      | breakdown breakdown => cases settled

theorem ask_quiet (opener : Opener) (document : Document) (question : Question)
    (other : question ≠ .metadata) :
    (document.ask opener question).document = document ∧
      (document.ask opener question).events = [] ∧
      (document.ask opener question).reply.metadata? = none := by
  cases question with
  | metadata => exact absurd rfl other
  | _ => exact ⟨rfl, rfl, rfl⟩

theorem ask_settled (opener : Opener) (question : Question) (slot : document.slot = slotOf result)
    (settled : settles result = true) :
    (document.ask opener question).document = document ∧
      (document.ask opener question).events = [] ∧
      ∀ other, (document.ask opener question).reply.metadata? = some other → other = result := by
  by_cases request : question = .metadata
  · subst question
    simp only [ask, metadata_settled opener slot settled, Reply.metadata?, Option.some.injEq,
      true_and]
    exact fun other same => same.symm
  · obtain ⟨same, silent, nothing⟩ := ask_quiet opener document question request
    refine ⟨same, silent, fun other given => ?_⟩
    rw [nothing] at given
    cases given

theorem keeps_settled (slot : document.slot = slotOf result) (settled : settles result = true) :
    Keeps document result := by
  refine ⟨(isLoaded_of_slot slot).trans settled, fun opener questions => ?_⟩
  induction questions with
  | nil => exact ⟨rfl, rfl, by simp [converse]⟩
  | cons question rest ih =>
      obtain ⟨same, silent, answer⟩ := ask_settled opener question slot settled
      obtain ⟨later_same, later_silent, later_answers⟩ := ih
      refine ⟨?_, ?_, ?_⟩
      · simp only [converse, same, later_same]
      · simp only [converse, same, silent, later_silent, List.append_nil]
      · intro other member
        simp only [converse, same, List.mem_filterMap, List.mem_cons] at member
        obtain ⟨reply, rfl | inside, given⟩ := member
        · exact answer other given
        · exact later_answers other (List.mem_filterMap.mpr ⟨reply, inside, given⟩)

end

theorem openings_fetch (opener : Opener) (document : Document) :
    (document.fetch opener).events.filter Event.isOpening = [.opened document.path] := by
  have silent (warnings : List FrontMatter.Warning) :
      (warnings.map (Event.warned <| .frontMatter ·)).filter Event.isOpening = [] := by
    induction warnings with
    | nil => rfl
    | cons warning rest ih => exact ih
  exact congrArg (Event.opened document.path :: ·) (silent _)

theorem slot_unloaded (document : Document) (unloaded : document.isLoaded = false) :
    document.slot = .unfetched := by
  cases slot : document.slot with
  | unfetched => rfl
  | _ => simp [isLoaded, slot] at unloaded

theorem ask_unloaded (opener : Opener) (document : Document) (unloaded : document.isLoaded = false) :
    let turn := document.ask opener .metadata
    let result := outcome opener document.path document.opens
    turn.reply = .metadata result ∧ turn.events.filter Event.isOpening = [.opened document.path] ∧
      turn.document = { document with slot := slotOf result, opens := document.opens + 1 } := by
  have read : document.metadata opener = document.fetch opener := by
    simp only [metadata, slot_unloaded document unloaded]
  simp only [ask, read]
  exact ⟨rfl, openings_fetch opener document, rfl⟩

theorem metadata_after (opener : Opener) (path : Path) (settled requests : Nat)
    (early : requests < settled → settles (outcome opener path requests) = false)
    (settling : settled ≤ requests → settles (outcome opener path settled) = true) :
    let answer := (after opener path settled requests).metadata opener
    answer.result = outcome opener path (min requests settled) ∧
      answer.document = after opener path settled (requests + 1) ∧
      (after opener path settled requests).opens + answer.events.countP Event.isOpening =
        answer.document.opens := by
  by_cases done : settled < requests
  · have slot : (after opener path settled requests).slot = slotOf (outcome opener path settled) := by
      simp only [after, if_pos done]
    have later : settled < requests + 1 := Nat.lt_succ_of_lt done
    rw [metadata_settled opener slot (settling (Nat.le_of_lt done))]
    refine ⟨?_, ?_, rfl⟩
    · rw [Nat.min_eq_right (Nat.le_of_lt done)]
    · simp only [after, if_pos done, if_pos later]
      congr 1
      omega
  · have unread : after opener path settled requests = ⟨path, .unfetched, requests⟩ := by
      simp only [after, if_neg done]
      congr 1
      omega
    have read : (after opener path settled requests).metadata opener =
        fetch opener ⟨path, .unfetched, requests⟩ := by
      rw [unread]
      rfl
    have opened := openings_fetch opener ⟨path, .unfetched, requests⟩
    rw [read]
    refine ⟨?_, ?_, ?_⟩
    · rw [Nat.min_eq_left (Nat.le_of_not_lt done)]
      rfl
    · change (⟨path, slotOf (outcome opener path requests), requests + 1⟩ : Document) = _
      by_cases here : settled = requests
      · subst settled
        simp only [after, Nat.lt_succ_self, if_true, Nat.min_self]
      · have before : requests < settled := by omega
        obtain ⟨breakdown, failed⟩ := settles_false _ (early before)
        have still : ¬ settled < requests + 1 := by omega
        simp only [after, if_neg still, failed, slotOf]
        congr 1
        omega
    · rw [List.countP_eq_length_filter, opened, unread]
      rfl

theorem converse_after (opener : Opener) (path : Path) (settled total : Nat)
    (early : ∀ number < settled, number < total → settles (outcome opener path number) = false)
    (settling : settled < total → settles (outcome opener path settled) = true)
    (questions : List Question) (requests : Nat)
    (count : requests + questions.count .metadata = total) :
    let course := (after opener path settled requests).converse opener questions
    course.document = after opener path settled total ∧
      course.replies.filterMap Reply.metadata? =
        (List.range' requests (questions.count .metadata)).map
          (fun number => outcome opener path (min number settled)) ∧
      (after opener path settled requests).opens + course.events.countP Event.isOpening =
        course.document.opens := by
  induction questions generalizing requests with
  | nil =>
      obtain rfl : requests = total := count
      exact ⟨rfl, rfl, rfl⟩
  | cons question rest ih =>
      intro course
      let document := after opener path settled requests
      by_cases request : question = .metadata
      · subst question
        rw [List.count_cons_self] at count
        obtain ⟨result, next, opened⟩ := metadata_after opener path settled requests
          (fun before => early requests before (by omega)) (fun reached => settling (by omega))
        obtain ⟨last, answers, openings⟩ := ih (requests + 1) (by omega)
        rw [← next] at last answers openings
        refine ⟨last, ?_, ?_⟩
        · simp only [course, converse, ask, List.filterMap_cons, Reply.metadata?, result,
            List.count_cons_self, List.range'_succ, List.map_cons, answers]
        · simp only [course, converse, ask, List.countP_append]
          rw [← Nat.add_assoc, opened, openings]
      · obtain ⟨same, silent, nothing⟩ :=
          ask_quiet opener (after opener path settled requests) question request
        have none_more : (question :: rest).count .metadata = rest.count .metadata :=
          List.count_cons_of_ne request
        rw [none_more] at count ⊢
        obtain ⟨last, answers, openings⟩ := ih requests count
        refine ⟨?_, ?_, ?_⟩
        · simp only [course, converse, same, last]
        · simp only [course, converse, List.filterMap_cons, nothing, same, answers]
        · simp only [course, converse, same, silent, List.nil_append, openings]

/-- The first opening that settles a document, unless all of the first ones leave it open. -/
theorem first_settling (opener : Opener) (path : Path) (total : Nat) :
    ∃ settled ≤ total, (∀ number < settled, settles (outcome opener path number) = false) ∧
      (settled < total → settles (outcome opener path settled) = true) := by
  have some_end : ∃ number, total ≤ number ∨ settles (outcome opener path number) = true :=
    ⟨total, Or.inl (Nat.le_refl total)⟩
  refine ⟨Nat.find some_end, Nat.find_min' some_end (Or.inl (Nat.le_refl total)), ?_, ?_⟩
  · intro number before
    have unsettled := Nat.find_min some_end before
    rw [not_or, Bool.not_eq_true] at unsettled
    exact unsettled.2
  · intro within
    exact (Nat.find_spec some_end).resolve_left (Nat.not_le_of_lt within)

theorem outcome_failed (opener : Opener) (path : Path) (number : Nat) (error : DocumentError)
    (failed : outcome opener path number = .error (.document error)) :
    (∃ cause, error = .unreadable path cause) ∨ (∃ fault, error = .undecodable (some path) fault) ∨
      error = .malformed (some path) := by
  unfold outcome read at failed
  split at failed
  · cases failed
  · cases failed
    exact Or.inl ⟨_, rfl⟩
  · next source _ =>
    cases extracted : (FrontMatter.extract source FrontMatter.chunkSize).outcome with
    | ok metadata =>
        simp only [extracted] at failed
        cases failed
    | error problem =>
        simp only [extracted] at failed
        cases problem with
        | unreadable cause =>
            cases failed
            exact Or.inl ⟨cause, rfl⟩
        | undecodable fault =>
            cases failed
            exact Or.inr (Or.inl ⟨fault, rfl⟩)
        | malformed =>
            cases failed
            exact Or.inr (Or.inr rfl)
        | unconvertible fault => cases failed

/-- A document that was asked anything any number of times: it was opened once for each request of
its front matter up to the first opening that gave a value or a failure of its own, and what that
gave is the answer from then on. Any other failure leaves it as it was. -/
theorem opened_until_settled (opener : Opener) (path : Path) (questions : List Question) :
    let course := ({ path } : Document).converse opener questions
    let requests := questions.count .metadata
    ({ path } : Document).isLoaded = false ∧
    (∀ question, question ≠ .metadata →
      (course.document.ask opener question).document = course.document ∧
        (course.document.ask opener question).events = []) ∧
    (course.document.isLoaded = false →
      let turn := course.document.ask opener .metadata
      let result := outcome opener path course.document.opens
      turn.reply = .metadata result ∧ turn.events.filter Event.isOpening = [.opened path] ∧
        (settles result = true → Keeps turn.document result) ∧
        (∀ breakdown, result = .error (.breakdown breakdown) →
          turn.document = { course.document with opens := course.document.opens + 1 })) ∧
    (∀ number error, outcome opener path number = .error (.document error) →
      (∃ cause, error = .unreadable path cause) ∨ (∃ fault, error = .undecodable (some path) fault) ∨
        error = .malformed (some path)) ∧
    ∃ settled ≤ requests, (∀ number < settled, settles (outcome opener path number) = false) ∧
      (settled < requests → settles (outcome opener path settled) = true ∧
        Keeps course.document (outcome opener path settled)) ∧
      course.document.isLoaded = decide (settled < requests) ∧
      course.document.opens = min requests (settled + 1) ∧
      course.events.countP Event.isOpening = course.document.opens ∧
      course.replies.filterMap Reply.metadata? =
        (List.range requests).map fun number => outcome opener path (min number settled) := by
  intro course requests
  obtain ⟨settled, within, early, settling⟩ := first_settling opener path requests
  obtain ⟨last, answers, openings⟩ := converse_after opener path settled requests
    (fun number before _ => early number before) settling questions 0 (Nat.zero_add _)
  have start : after opener path settled 0 = { path } := by
    simp only [after, Nat.not_lt_zero, if_false, Nat.zero_min]
  rw [start] at last answers openings
  change course.document = _ at last
  have here : course.document.path = path := by rw [last, after]
  refine ⟨rfl, ?_, ?_, outcome_failed opener path, settled, within, early, ?_, ?_, ?_, ?_, ?_⟩
  · intro question other
    obtain ⟨same, silent, _⟩ := ask_quiet opener course.document question other
    exact ⟨same, silent⟩
  · intro unloaded turn result
    obtain ⟨reply, opened, next⟩ := ask_unloaded opener course.document unloaded
    rw [here] at reply opened next
    refine ⟨reply, opened, ?_, ?_⟩
    · intro settles_now
      exact keeps_settled (congrArg Document.slot next) settles_now
    · intro breakdown failed
      calc
        turn.document = ⟨path, slotOf result, course.document.opens + 1⟩ := next
        _ = ⟨course.document.path, course.document.slot, course.document.opens + 1⟩ := by
          rw [failed, here, slot_unloaded course.document unloaded]
          rfl
  · intro reached
    refine ⟨settling reached, keeps_settled ?_ (settling reached)⟩
    rw [last, after, if_pos reached]
  · by_cases reached : settled < requests
    · have slot : course.document.slot = slotOf (outcome opener path settled) := by
        rw [last, after, if_pos reached]
      rw [isLoaded_of_slot slot, settling reached, decide_eq_true reached]
    · rw [last, after, if_neg reached, decide_eq_false reached]
      rfl
  · rw [last, after]
  · exact (Nat.zero_add _).symm.trans openings
  · rw [List.range_eq_range']
    exact answers

/-- The first opening breaks down and leaves the document open. The second one is refused, and that
stays the answer although a third one would give the file. -/
theorem refusal_remembered :
    let path : Path := ⟨.relative, ["note.md"]⟩
    let opener : Opener := fun _ number =>
      match number with
      | 0 => .nulInPath
      | 1 => .refused (.described "busy")
      | _ => .source (.ofBytes [])
    let course := ({ path } : Document).converse opener [.metadata, .name, .metadata, .metadata]
    course.document.opens = 2 ∧
      Keeps course.document (.error (.document (.unreadable path (.described "busy")))) := by
  intro path opener course
  obtain ⟨_, _, _, _, settled, within, early, reached, _, opens, _⟩ :=
    opened_until_settled opener path [.metadata, .name, .metadata, .metadata]
  have only : settled = 1 := by
    rcases settled with _ | _ | later
    · exact absurd (reached (by decide)).1 (by decide)
    · rfl
    · exact absurd (early 1 (by omega)) (by decide)
  subst settled
  exact ⟨opens, (reached (by decide)).2⟩

end Document

end DocFinder
