import DocFinder.Proofs.Selection.Course
import DocFinder.Proofs.Selection.Outcome

namespace DocFinder.Selection

theorem untilError_barren (events : List Event) (breakdown : Option Breakdown)
    (quiet : events.filterMap Event.item? = []) :
    untilError ⟨events, breakdown⟩ = ⟨events, breakdown⟩ := by
  have nothing : items ⟨events, breakdown⟩ = [] := quiet
  rw [untilError, nothing, List.findIdx?_nil]

theorem untilError_first (silent : List Event) (error : DocumentError) (rest : Selection)
    (quiet : silent.filterMap Event.item? = []) :
    untilError (andThen ⟨silent ++ [.yielded (.error error)], none⟩ rest) =
      ⟨silent ++ [.yielded (.error error)], none⟩ := by
  have left := untilError_error silent rest.events [] error rest.breakdown quiet
  simp only [andThen, List.append_assoc]
  exact left

theorem untilError_document (silent : List Event) (document : Document) (rest : Selection)
    (quiet : silent.filterMap Event.item? = []) :
    untilError (andThen ⟨silent ++ [.yielded (.ok document)], none⟩ rest) =
      andThen ⟨silent ++ [.yielded (.ok document)], none⟩ rest.untilError := by
  have first : items ⟨silent ++ [.yielded (.ok document)], none⟩ = [.ok document] := by
    rw [items_append, quiet]
    rfl
  have both := (andThen_spec ⟨silent ++ [.yielded (.ok document)], none⟩ rest).1
  rw [first] at both
  have sound : isError (.ok document) = false := rfl
  have index : (andThen ⟨silent ++ [.yielded (.ok document)], none⟩ rest).items.findIdx? isError =
      (rest.items.findIdx? isError).map (· + 1) := by
    rw [both]
    simp only [Option.isNone_none, if_true, List.cons_append, List.nil_append, List.findIdx?_cons,
      sound, Bool.false_eq_true, if_false]
  unfold untilError
  rw [index]
  cases rest.items.findIdx? isError with
  | none => rfl
  | some place => exact take_item silent (.ok document) rest (place + 1) quiet

namespace Asking

theorem bind_apply {α β : Type} (first : Asking α) (next : α → Asking β) (course : Course) :
    (first >>= next) course = match first course with
      | (.ok (.ok a), course) => next a course
      | (.ok (.error error), course) => (.ok (.error error), course)
      | (.error breakdown, course) => (.error breakdown, course) := by
  simp only [bind, ExceptT.bind, ExceptT.mk, StateT.bind]
  rcases first course with ⟨_ | _ | _, reached⟩ <;> rfl

def conclude : List Document → Asking Document
  | [] => throw .empty
  | [document] => return document
  | candidates =>
    if shown < candidates.length then throw (.ambiguous candidates.dropLast true)
    else throw (.ambiguous candidates false)

theorem single_eq (tree : FileTree) :
    single tree = documents tree (shown + 1) >>= conclude := by
  have count : shown + 1 = (shown - 1) + 1 + 1 := rfl
  funext course
  rw [count, single, documents, documents]
  generalize shown - 1 = more
  simp only [bind_apply]
  rcases document tree course with ⟨_ | _ | _ | first, reached⟩
  · rfl
  · rfl
  · rfl
  · simp only [bind_apply]
    rcases document tree reached with ⟨_ | _ | _ | second, further⟩
    · rfl
    · rfl
    · rfl
    · simp only [bind_apply]
      rcases documents tree more further with ⟨_ | _ | rest, last⟩
      · rfl
      · rfl
      · rfl

def answer (seen : Selection) : Except Breakdown (Except SelectionError (List Document)) :=
  match seen.breakdown with
  | some breakdown => .error breakdown
  | none =>
    match firstError? seen.items with
    | some error => .ok (.error (.failed error))
    | none => .ok (.ok (Selection.documents seen.items))

theorem answer_document (silent : List Event) (document : Document) (rest : Selection)
    (quiet : silent.filterMap Event.item? = []) :
    answer (andThen ⟨silent ++ [.yielded (.ok document)], none⟩ rest) =
      (answer rest).map (·.map (document :: ·)) := by
  have both := (andThen_spec ⟨silent ++ [.yielded (.ok document)], none⟩ rest).1
  have first : items ⟨silent ++ [.yielded (.ok document)], none⟩ = [.ok document] := by
    rw [items_append, quiet]
    rfl
  rw [first] at both
  have same : (andThen ⟨silent ++ [.yielded (.ok document)], none⟩ rest).breakdown =
      rest.breakdown := rfl
  simp only [answer, same, both]
  cases rest.breakdown with
  | some breakdown => rfl
  | none =>
      change (match firstError? rest.items with | some _ => _ | none => _) = _
      cases firstError? rest.items with
      | some error => rfl
      | none => rfl

theorem documents_succ (tree : FileTree) (n : Nat) (course : Course) :
    documents tree (n + 1) course =
      match course.next tree with
      | (.ok none, course) => (.ok (.ok []), course)
      | (.ok (some (.error error)), course) => (.ok (.error (.failed error)), course)
      | (.ok (some (.ok document)), course) =>
        let later := documents tree n course
        (later.1.map (·.map (document :: ·)), later.2)
      | (.error breakdown, course) => (.error breakdown, course) := by
  rw [documents, bind_apply, document]
  rcases course.next tree with ⟨_ | _ | _ | first, reached⟩
  · rfl
  · rfl
  · rfl
  · simp only [bind_apply]
    rcases documents tree n reached with ⟨_ | _ | rest, last⟩
    · rfl
    · rfl
    · rfl

theorem documents_answer (tree : FileTree) (n : Nat) (course : Course) :
    (documents tree n course).1 = answer ((course.toCome tree).untilError.take n) ∧
      (documents tree n course).2.log =
        course.log ++ ((course.toCome tree).untilError.take n).events := by
  induction n generalizing course with
  | zero =>
      simp only [take_zero]
      exact ⟨rfl, (List.append_nil _).symm⟩
  | succ n ih =>
      have goes := Course.goOn_goes tree course
      rw [documents_succ, Course.next]
      generalize Course.goOn tree course.phases course = asked at goes ⊢
      cases goes with
      | item silent item reached quiet seen parts =>
          rw [parts]
          cases item with
          | error error =>
              have only := take_item silent (.error error) ⟨[], none⟩ n quiet
              rw [andThen_nothing, take_nothing, andThen_nothing] at only
              rw [untilError_first silent error _ quiet, only]
              have yielded : items ⟨silent ++ [.yielded (.error error)], none⟩ = [.error error] := by
                rw [items_append, quiet]
                rfl
              refine ⟨?_, seen⟩
              simp only [answer, yielded]
              rfl
          | ok document =>
              obtain ⟨later, log⟩ := ih reached
              rw [untilError_document silent document _ quiet, take_item silent _ _ n quiet,
                answer_document silent document _ quiet, ← later]
              refine ⟨rfl, log.trans ?_⟩
              simp only [seen, andThen, List.append_assoc]
      | ended silent reached quiet seen parts =>
          have nothing : items ⟨silent, none⟩ = [] := quiet
          rw [parts, untilError_barren silent none quiet, take_barren silent none n quiet]
          refine ⟨?_, seen⟩
          simp only [answer, nothing]
          rfl
      | broken silent reached breakdown quiet seen parts =>
          rw [parts, untilError_barren silent _ quiet, take_barren silent _ n quiet]
          exact ⟨rfl, seen⟩

theorem conclude_documents (found : List Document) (few : found.length ≤ shown + 1)
    (course : Course) :
    conclude found course = (.ok (Selection.single (found.map Except.ok)), course) := by
  rw [single_documents]
  rcases found with _ | ⟨first, _ | ⟨second, rest⟩⟩
  · rfl
  · rfl
  · simp only [conclude]
    by_cases more : shown < (first :: second :: rest).length
    · have last : (first :: second :: rest).length - 1 = shown := by omega
      rw [if_pos more, List.dropLast_eq_take, last, decide_eq_true more]
      rfl
    · rw [if_neg more, List.take_of_length_le (Nat.le_of_not_lt more), decide_eq_false more]
      rfl

/-- A caller who asks step by step for the single document comes to what is told from the whole
selection, and has seen no more of it. -/
theorem single_forOne (tree : FileTree) (source : PathSource) (query : Query) :
    let asked := single tree (Course.start source query)
    let whole := ofQuery tree source query
    asked.1 = whole.forOne.outcome ∧ asked.2.log = whole.forOne.events := by
  intro asked whole
  obtain ⟨found, log⟩ := documents_answer tree (shown + 1) (Course.start source query)
  rw [Course.toCome_start] at found log
  have few : whole.forOne.items.length ≤ shown + 1 := by
    rw [forOne, take_items]
    exact List.length_take_le _ _
  simp only [asked, single_eq, bind_apply]
  generalize documents tree (shown + 1) (Course.start source query) = reached at found log
  obtain ⟨result, course⟩ := reached
  change result = answer whole.forOne at found
  subst result
  unfold answer outcome
  cases whole.forOne.breakdown with
  | some breakdown => exact ⟨rfl, log⟩
  | none =>
      rcases documents_or_error whole.forOne.items with ⟨all, same⟩ | ⟨before, error, rest, parts⟩
      · rw [same, List.length_map] at few
        simp only [same, firstError_none, documents_of_items, conclude_documents all few]
        exact ⟨trivial, log⟩
      · simp only [parts, single_error, firstError_documents]
        exact ⟨rfl, log⟩

end Asking
end DocFinder.Selection
