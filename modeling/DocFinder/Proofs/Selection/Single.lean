import DocFinder.Selection
import Mathlib.Data.List.Induction

namespace DocFinder.Selection

theorem cut_through (front rest : List Event) (item : SelectionItem) (more : Nat) :
    cut ((front.filterMap Event.item?).length + 1 + more) (front ++ .yielded item :: rest) =
      front ++ .yielded item :: cut more rest := by
  induction front with
  | nil =>
      rw [List.filterMap_nil, List.length_nil, Nat.zero_add, Nat.add_comm]
      rfl
  | cons event front ih =>
      cases event with
      | yielded first =>
          have count : ((Event.yielded first :: front).filterMap Event.item?).length + 1 + more =
              (front.filterMap Event.item?).length + 1 + more + 1 := by
            simp only [List.filterMap_cons, Event.item?, List.length_cons]
            omega
          rw [count]
          exact congrArg (Event.yielded first :: ·) ih
      | _ =>
          simp only [List.filterMap_cons, Event.item?, List.cons_append]
          rw [Nat.add_right_comm]
          rw [Nat.add_right_comm] at ih
          exact congrArg (_ :: ·) ih

theorem items_through (front rest : List Event) (item : SelectionItem)
    (breakdown : Option Breakdown) :
    items ⟨front ++ .yielded item :: rest, breakdown⟩ =
      front.filterMap Event.item? ++ item :: rest.filterMap Event.item? := by
  simp [items, Event.item?]

theorem take_through (front rest : List Event) (item : SelectionItem)
    (breakdown : Option Breakdown) (more : Nat) (within : more ≤ (rest.filterMap Event.item?).length) :
    take ⟨front ++ .yielded item :: rest, breakdown⟩
        ((front.filterMap Event.item?).length + 1 + more) =
      ⟨front ++ .yielded item :: cut more rest, none⟩ := by
  unfold take
  rw [items_through, if_pos (by simp only [List.length_append, List.length_cons]; omega), cut_through]

theorem take_at (front rest : List Event) (item : SelectionItem) (breakdown : Option Breakdown) :
    take ⟨front ++ .yielded item :: rest, breakdown⟩ ((front.filterMap Event.item?).length + 1) =
      ⟨front ++ [.yielded item], none⟩ := by
  have left := take_through front rest item breakdown 0 (Nat.zero_le _)
  rw [Nat.add_zero, cut] at left
  exact left

theorem findIdx_documents (documents : List Document) (rest : List SelectionItem) :
    (documents.map Except.ok ++ rest).findIdx? isError =
      (rest.findIdx? isError).map (documents.length + ·) := by
  induction documents with
  | nil => simp
  | cons document documents ih =>
      have here : isError (.ok document) = false := rfl
      rw [List.map_cons, List.cons_append, List.findIdx?_cons, here, if_neg Bool.false_ne_true, ih,
        Option.map_map]
      congr 1
      funext index
      simp only [Function.comp_apply, List.length_cons]
      omega

structure Decides (front : List Event) (documents : List Document) (item : SelectionItem) : Prop where
  before : front.filterMap Event.item? = documents.map Except.ok
  few : documents.length ≤ shown
  last : (∃ error, item = .error error) ∨ documents.length = shown

theorem untilError_error (front rest : List Event) (documents : List Document)
    (error : DocumentError) (breakdown : Option Breakdown)
    (before : front.filterMap Event.item? = documents.map Except.ok) :
    untilError ⟨front ++ .yielded (.error error) :: rest, breakdown⟩ =
      ⟨front ++ [.yielded (.error error)], none⟩ := by
  have index : (items ⟨front ++ .yielded (.error error) :: rest, breakdown⟩).findIdx? isError =
      some documents.length := by
    rw [items_through, before, findIdx_documents]
    rfl
  have left := take_at front rest (.error error) breakdown
  rw [before, List.length_map] at left
  simp only [untilError, index]
  exact left

theorem untilError_reaches (front rest : List Event) (documents : List Document)
    (item : SelectionItem) (breakdown : Option Breakdown)
    (before : front.filterMap Event.item? = documents.map Except.ok) :
    ∃ tail ending, untilError ⟨front ++ .yielded item :: rest, breakdown⟩ =
      ⟨front ++ .yielded item :: tail, ending⟩ := by
  unfold untilError
  cases failed : (items ⟨front ++ .yielded item :: rest, breakdown⟩).findIdx? isError with
  | none => exact ⟨rest, breakdown, rfl⟩
  | some index =>
      rw [items_through, before, findIdx_documents, Option.map_eq_some_iff] at failed
      obtain ⟨more, found, rfl⟩ := failed
      obtain ⟨within, _⟩ := List.findIdx?_eq_some_iff_getElem.mp found
      have left := take_through front rest item breakdown more (Nat.le_of_lt_succ within)
      rw [before, List.length_map, Nat.add_right_comm] at left
      exact ⟨cut more rest, none, left⟩

theorem forOne_decided (front rest : List Event) (documents : List Document) (item : SelectionItem)
    (breakdown : Option Breakdown) (decides : Decides front documents item) :
    forOne ⟨front ++ .yielded item :: rest, breakdown⟩ = ⟨front ++ [.yielded item], none⟩ := by
  obtain ⟨before, few, last⟩ := decides
  have stops (tail : List Event) (ending : Option Breakdown)
      (eleventh : documents.length = shown) :
      take ⟨front ++ .yielded item :: tail, ending⟩ (shown + 1) = ⟨front ++ [.yielded item], none⟩ := by
    have left := take_at front tail item ending
    rw [before, List.length_map, eleventh] at left
    exact left
  rcases last with ⟨error, rfl⟩ | eleventh
  · rw [forOne, untilError_error front rest documents error breakdown before]
    by_cases eleventh : documents.length = shown
    · exact stops [] none eleventh
    · have whole : items ⟨front ++ [.yielded (.error error)], none⟩ =
          documents.map Except.ok ++ [.error error] := by
        rw [items_through, before]
        rfl
      rw [take, whole, if_neg]
      simp only [List.length_append, List.length_map, List.length_singleton]
      omega
  · obtain ⟨tail, ending, same⟩ := untilError_reaches front rest documents item breakdown before
    rw [forOne, same]
    exact stops tail ending eleventh

theorem findIdx_none (documents : List Document) :
    (documents.map Except.ok).findIdx? isError = none := by
  have found := findIdx_documents documents []
  rwa [List.append_nil] at found

theorem forOne_undecided (selection : Selection) (documents : List Document)
    (all : selection.items = documents.map Except.ok) (few : documents.length ≤ shown) :
    forOne selection = selection := by
  have until_error : untilError selection = selection := by
    simp only [untilError, all, findIdx_none]
  rw [forOne, until_error, take, all, if_neg]
  rw [List.length_map]
  omega

theorem decided_or_few (events : List Event) :
    (∃ documents : List Document, events.filterMap Event.item? = documents.map Except.ok ∧
        documents.length ≤ shown) ∨
      ∃ front rest documents item, events = front ++ .yielded item :: rest ∧
        Decides front documents item := by
  -- From the end, so that whatever decides first still does when events are added.
  induction events using List.reverseRecOn with
  | nil => exact Or.inl ⟨[], rfl, Nat.zero_le _⟩
  | append_singleton events event ih =>
      rcases ih with ⟨documents, all, few⟩ | ⟨front, rest, documents, item, parts, decides⟩
      · cases event with
        | yielded item =>
            cases item with
            | error error =>
                exact Or.inr ⟨events, [], documents, .error error, rfl, all, few, Or.inl ⟨error, rfl⟩⟩
            | ok document =>
                by_cases full : documents.length = shown
                · exact Or.inr ⟨events, [], documents, .ok document, rfl, all, few, Or.inr full⟩
                · left
                  refine ⟨documents ++ [document], by simp [all, Event.item?], ?_⟩
                  rw [List.length_append, List.length_singleton]
                  omega
        | _ => exact Or.inl ⟨documents, by simp [all, Event.item?], few⟩
      · right
        exact ⟨front, rest ++ [event], documents, item, by simp [parts], decides⟩

theorem split_at_item (events : List Event) (before after : List SelectionItem)
    (item : SelectionItem) (parts : events.filterMap Event.item? = before ++ item :: after) :
    ∃ front rest, events = front ++ .yielded item :: rest ∧ front.filterMap Event.item? = before := by
  obtain ⟨first, last, rfl, yielded, later⟩ := List.filterMap_eq_append_iff.mp parts
  obtain ⟨silent, event, rest, rfl, quiet, here, _⟩ := List.filterMap_eq_cons_iff.mp later
  have this_item : event = .yielded item := by
    cases event <;> cases here
    rfl
  subst event
  refine ⟨first ++ silent, rest, by rw [List.append_assoc], ?_⟩
  rw [List.filterMap_append, yielded, List.filterMap_eq_nil_iff.mpr quiet, List.append_nil]

theorem documents_of_items (found : List Document) : documents (found.map Except.ok) = found := by
  induction found with
  | nil => rfl
  | cons document rest ih => exact congrArg (document :: ·) ih

theorem firstError_documents (found : List Document) (rest : List SelectionItem) :
    firstError? (found.map Except.ok ++ rest) = firstError? rest := by
  induction found with
  | nil => rfl
  | cons document found ih => exact ih

theorem firstError_none (found : List Document) : firstError? (found.map Except.ok) = none := by
  have none_left := firstError_documents found []
  rwa [List.append_nil] at none_left

theorem single_documents (found : List Document) :
    single (found.map Except.ok) =
      match found with
      | [] => .error .empty
      | [document] => .ok document
      | _ => .error (.ambiguous (found.take shown) (shown < found.length)) := by
  simp only [single, firstError_none, documents_of_items]
  rcases found with _ | ⟨first, _ | ⟨second, rest⟩⟩ <;> rfl

theorem single_ambiguous (found : List Document) (many : 2 ≤ found.length) :
    single (found.map Except.ok) =
      .error (.ambiguous (found.take shown) (shown < found.length)) := by
  rw [single_documents]
  rcases found with _ | ⟨first, _ | ⟨second, rest⟩⟩
  · exact absurd many (by decide)
  · exact absurd many (by simp)
  · rfl

theorem single_error (found : List Document) (error : DocumentError) (rest : List SelectionItem) :
    single (found.map Except.ok ++ .error error :: rest) = .error (.failed error) := by
  simp only [single, firstError_documents]
  rfl

/-- Nothing behind an error or behind the eleventh item is asked for. -/
theorem forOne_settled (front : List Event) (item : SelectionItem)
    (settles : (∃ error, item = .error error) ∨ (front.filterMap Event.item?).length = shown) :
    ∃ asked, asked <+: front ++ [.yielded item] ∧
      ∀ later breakdown, forOne ⟨front ++ .yielded item :: later, breakdown⟩ = ⟨asked, none⟩ := by
  rcases decided_or_few front with
    ⟨found, all, few⟩ | ⟨first, rest, found, decider, rfl, decides⟩
  · rw [all, List.length_map] at settles
    have decides : Decides front found item := ⟨all, few, settles⟩
    exact ⟨_, List.prefix_refl _, fun later breakdown =>
      forOne_decided front later found item breakdown decides⟩
  · refine ⟨first ++ [.yielded decider], ?_, fun later breakdown => ?_⟩
    · exact ⟨rest ++ [.yielded item], by simp⟩
    · have left := forOne_decided first (rest ++ .yielded item :: later) found decider breakdown decides
      rwa [List.append_assoc]

/-- What a selection for one asks for: at most eleven items, of which only the last may be an error. -/
theorem forOne_asks_little (selection : Selection) :
    selection.forOne.events <+: selection.events ∧ selection.forOne.items.length ≤ shown + 1 ∧
      ∀ item ∈ selection.forOne.items.dropLast, ∃ document, item = .ok document := by
  obtain ⟨events, breakdown⟩ := selection
  rcases decided_or_few events with ⟨found, all, few⟩ | ⟨front, rest, found, item, rfl, decides⟩
  · rw [forOne_undecided ⟨events, breakdown⟩ found all few]
    have yielded : items ⟨events, breakdown⟩ = found.map Except.ok := all
    refine ⟨List.prefix_refl _, by rw [yielded, List.length_map]; omega, ?_⟩
    intro item member
    have inside := List.dropLast_subset _ member
    rw [yielded] at inside
    obtain ⟨document, _, rfl⟩ := List.mem_map.mp inside
    exact ⟨document, rfl⟩
  · rw [forOne_decided front rest found item breakdown decides]
    have yielded : items ⟨front ++ [.yielded item], none⟩ = found.map Except.ok ++ [item] := by
      rw [items_through, decides.before]
      rfl
    refine ⟨⟨rest, by simp⟩, ?_, ?_⟩
    · have few := decides.few
      rw [yielded, List.length_append, List.length_map, List.length_singleton]
      omega
    · intro first member
      rw [yielded, List.dropLast_concat] at member
      obtain ⟨document, _, rfl⟩ := List.mem_map.mp member
      exact ⟨document, rfl⟩

theorem outcome_undecided (selection : Selection) (found : List Document)
    (all : selection.items = found.map Except.ok) (few : found.length ≤ shown) :
    selection.forOne.outcome =
      match selection.breakdown with
      | some breakdown => .error breakdown
      | none => .ok (single (found.map Except.ok)) := by
  rw [forOne_undecided selection found all few]
  cases broken : selection.breakdown with
  | some breakdown => simp only [outcome, broken]
  | none => simp only [outcome, broken, all]

theorem outcome_decided (front rest : List Event) (found : List Document) (item : SelectionItem)
    (breakdown : Option Breakdown) (decides : Decides front found item) :
    (forOne ⟨front ++ .yielded item :: rest, breakdown⟩).outcome =
      .ok (single (found.map Except.ok ++ [item])) := by
  rw [forOne_decided front rest found item breakdown decides, outcome, items_through, decides.before]
  rfl

theorem outcome_failed (selection : Selection) (before : List Document) (error : DocumentError)
    (rest : List SelectionItem)
    (parts : selection.items = before.map Except.ok ++ .error error :: rest)
    (few : before.length ≤ shown) :
    selection.forOne.outcome = .ok (.error (.failed error)) := by
  obtain ⟨front, later, events, yielded⟩ := split_at_item selection.events _ rest _ parts
  have decides : Decides front before (.error error) := ⟨yielded, few, Or.inl ⟨error, rfl⟩⟩
  have settled := outcome_decided front later before _ selection.breakdown decides
  rw [← events, single_error] at settled
  exact settled

theorem outcome_full (selection : Selection) (found : List Document) (rest : List SelectionItem)
    (parts : selection.items = found.map Except.ok ++ rest) (full : found.length = shown + 1) :
    selection.forOne.outcome = .ok (.error (.ambiguous (found.take shown) true)) := by
  obtain ⟨last, eleventh⟩ : ∃ last, found.drop shown = [last] :=
    List.length_eq_one_iff.mp (by rw [List.length_drop]; omega)
  have joined : (found.take shown).map Except.ok ++ [(.ok last : SelectionItem)] =
      found.map Except.ok := by
    rw [← List.map_singleton, ← List.map_append, ← eleventh, List.take_append_drop]
  have split : selection.items = (found.take shown).map Except.ok ++ .ok last :: rest := by
    calc
      selection.items = found.map Except.ok ++ rest := parts
      _ = ((found.take shown).map Except.ok ++ [.ok last]) ++ rest := by rw [joined]
      _ = (found.take shown).map Except.ok ++ .ok last :: rest := List.append_cons _ _ _ |>.symm
  obtain ⟨front, later, events, yielded⟩ := split_at_item selection.events _ _ _ split
  have width : (found.take shown).length = shown := by
    rw [List.length_take]
    omega
  have decides : Decides front (found.take shown) (.ok last) :=
    ⟨yielded, Nat.le_of_eq width, Or.inr width⟩
  have settled := outcome_decided front later _ _ selection.breakdown decides
  have many : 2 ≤ found.length := by
    rw [full, shown]
    decide
  rw [← events, joined, single_ambiguous found many, full] at settled
  exact settled

/-- The single document of a selection is told from what the whole selection yields. An error among
the first eleven items comes first, then the number of documents counts. The selection is left at the
first error or at the eleventh item, and what would have come later is without effect. -/
theorem single_of_selection (tree : FileTree) (source : PathSource) (query : Query) :
    let selection := ofQuery tree source query
    let results := selection.items
    let outcome := selection.forOne.outcome
    (results = [] → selection.breakdown = none → outcome = .ok (.error .empty)) ∧
    (∀ (before : List Document) error rest, results = before.map Except.ok ++ .error error :: rest →
      before.length < 11 → outcome = .ok (.error (.failed error))) ∧
    (∀ document, results = [.ok document] → selection.breakdown = none →
      outcome = .ok (.ok document)) ∧
    (∀ found : List Document, results.take 11 = found.map Except.ok → 2 ≤ results.length →
      11 ≤ results.length ∨ selection.breakdown = none →
      outcome = .ok (.error (.ambiguous (found.take 10) (10 < results.length)))) ∧
    (∀ (found : List Document) breakdown, results = found.map Except.ok → found.length ≤ 10 →
      selection.breakdown = some breakdown → outcome = .error breakdown) ∧
    selection.forOne.events <+: selection.events ∧ selection.forOne.items.length ≤ 11 ∧
    (∀ item ∈ selection.forOne.items.dropLast, ∃ document, item = .ok document) ∧
    (∀ front rest item, selection.events = front ++ .yielded item :: rest →
      (∃ error, item = .error error) ∨ (front.filterMap Event.item?).length = 10 →
      selection.forOne.events <+: front ++ [.yielded item] ∧
      ∀ later breakdown, (forOne ⟨front ++ .yielded item :: later, breakdown⟩).outcome = outcome) := by
  intro selection results outcome
  obtain ⟨asked, few_asked, sound_asked⟩ := forOne_asks_little selection
  refine ⟨?_, ?_, ?_, ?_, ?_, asked, few_asked, sound_asked, ?_⟩
  · intro nothing unbroken
    have settled := outcome_undecided selection [] nothing (Nat.zero_le _)
    rw [unbroken] at settled
    exact settled
  · intro before error rest parts few
    exact outcome_failed selection before error rest parts (Nat.le_of_lt_succ few)
  · intro document only unbroken
    have settled := outcome_undecided selection [document] only (Nat.le_add_left 1 9)
    rw [unbroken, single_documents] at settled
    exact settled
  · intro found first_items many whole
    have width : found.length = min 11 results.length := by
      rw [← List.length_take, first_items, List.length_map]
    by_cases full : 11 ≤ results.length
    · have parts : results = found.map Except.ok ++ results.drop 11 := by
        rw [← first_items, List.take_append_drop]
      have more : decide (10 < results.length) = true := decide_eq_true (by omega)
      rw [more]
      exact outcome_full selection found (results.drop 11) parts (by rw [shown]; omega)
    · have all : results = found.map Except.ok := by
        rw [← first_items, List.take_of_length_le (by omega)]
      have unbroken := whole.resolve_left full
      have settled := outcome_undecided selection found all (by rw [shown]; omega)
      have count : found.length = results.length := by omega
      rw [unbroken, single_ambiguous found (by omega), count] at settled
      exact settled
  · intro found breakdown all few broken
    have settled := outcome_undecided selection found all few
    rw [broken] at settled
    exact settled
  · intro front rest item parts settles
    obtain ⟨stop, before, left⟩ := forOne_settled front item settles
    have here := left rest selection.breakdown
    rw [← parts] at here
    have same : selection.forOne = ⟨stop, none⟩ := here
    refine ⟨by rw [same]; exact before, fun later breakdown => ?_⟩
    simp only [outcome, same, left later breakdown]

theorem late_error_unmet :
    let note : Path := ⟨.relative, ["note.md"]⟩
    let given : List PathItem := List.replicate 11 (.ok note) ++ [.error (.loop note)]
    (ofQuery {} (.list given) ⟨none, []⟩).forOne.outcome =
      .ok (.error (.ambiguous (List.replicate 10 { path := note }) true)) := by
  intro note given
  have results : (ofQuery {} (.list given) ⟨none, []⟩).items =
      List.replicate 11 (.ok { path := note }) ++ [.error (.loop note)] := by
    rfl
  obtain ⟨_, _, _, ambiguous, _⟩ := single_of_selection {} (.list given) ⟨none, []⟩
  have first : ((ofQuery {} (.list given) ⟨none, []⟩).items).take 11 =
      (List.replicate 11 { path := note }).map Except.ok := by
    rw [results]
    rfl
  have settled := ambiguous (List.replicate 11 { path := note }) first (by rw [results]; decide)
    (Or.inl (by rw [results]; decide))
  rw [results] at settled
  exact settled

end DocFinder.Selection
