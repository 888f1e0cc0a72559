import DocFinder.Proofs.Selection.Single

namespace DocFinder.Selection

theorem documents_or_error (results : List SelectionItem) :
    (∃ found : List Document, results = found.map Except.ok) ∨
      ∃ (found : List Document) (error : DocumentError) (rest : List SelectionItem),
        results = found.map Except.ok ++ .error error :: rest := by
  induction results with
  | nil => exact Or.inl ⟨[], rfl⟩
  | cons result results ih =>
      cases result with
      | error error => exact Or.inr ⟨[], error, results, rfl⟩
      | ok document =>
          rcases ih with ⟨found, all⟩ | ⟨found, error, rest, parts⟩
          · exact Or.inl ⟨document :: found, by rw [all]; rfl⟩
          · exact Or.inr ⟨document :: found, error, rest, by rw [parts]; rfl⟩

theorem take_past (before rest : List SelectionItem) (item : SelectionItem) (n : Nat)
    (within : before.length ≤ n) :
    (before ++ item :: rest).take (n + 1) = before ++ item :: rest.take (n - before.length) := by
  have left : n + 1 - before.length = n - before.length + 1 := by omega
  rw [List.take_append, List.take_of_length_le (by omega), left, List.take_succ_cons]

theorem outcome_whole (selection : Selection) (whole : selection.breakdown = none) :
    selection.forOne.outcome = .ok (single (selection.items.take (shown + 1))) := by
  obtain ⟨events, breakdown⟩ := selection
  rcases decided_or_few events with ⟨found, all, few⟩ | ⟨front, rest, found, item, rfl, decides⟩
  · have settled := outcome_undecided ⟨events, breakdown⟩ found all few
    have yielded : items ⟨events, breakdown⟩ = found.map Except.ok := all
    rw [whole] at settled
    rw [settled, yielded, List.take_of_length_le (by rw [List.length_map]; omega)]
  · have few := decides.few
    rw [outcome_decided front rest found item breakdown decides, items_through, decides.before,
      take_past _ _ item shown (by rw [List.length_map]; exact few)]
    rcases decides.last with ⟨error, rfl⟩ | full
    · rw [single_error, single_error]
    · rw [List.length_map, full, Nat.sub_self, List.take_zero]

theorem chosen_alone (selection : Selection) (document : Document)
    (chosen : selection.forOne.outcome = .ok (.ok document)) :
    selection.items = [.ok document] ∧ selection.breakdown = none := by
  obtain ⟨events, breakdown⟩ := selection
  rcases decided_or_few events with ⟨found, all, few⟩ | ⟨front, rest, found, item, rfl, decides⟩
  · have yielded : items ⟨events, breakdown⟩ = found.map Except.ok := all
    rw [outcome_undecided ⟨events, breakdown⟩ found all few] at chosen
    cases breakdown with
    | some breakdown => cases chosen
    | none =>
        rw [single_documents] at chosen
        rcases found with _ | ⟨first, _ | ⟨second, more⟩⟩
        · cases chosen
        · cases chosen
          exact ⟨yielded, rfl⟩
        · cases chosen
  · rw [outcome_decided front rest found item breakdown decides] at chosen
    cases item with
    | error error =>
        rw [single_error] at chosen
        cases chosen
    | ok last =>
        have full : found.length = shown := by
          rcases decides.last with ⟨error, failed⟩ | full
          · cases failed
          · exact full
        have joined : found.map Except.ok ++ [(.ok last : SelectionItem)] =
            (found ++ [last]).map Except.ok := by simp
        rw [joined, single_ambiguous _ (by simp [full, shown])] at chosen
        cases chosen

inductive Kind (results : List SelectionItem) : Except SelectionError Document → Prop
  | nothing (none_there : results = []) : Kind results (.error .empty)
  | one (document : Document) (alone : results = [.ok document]) : Kind results (.ok document)
  | several (found : List Document) (rest : List SelectionItem)
      (parts : results = found.map Except.ok ++ rest) (many : 2 ≤ found.length)
      (reach : rest = [] ∨ shown < found.length) :
      Kind results (.error (.ambiguous (found.take shown) (shown < found.length)))
  | failed (found : List Document) (error : DocumentError) (rest : List SelectionItem)
      (parts : results = found.map Except.ok ++ .error error :: rest)
      (near : found.length ≤ shown) : Kind results (.error (.failed error))

theorem single_kind (results : List SelectionItem) :
    Kind results (single (results.take (shown + 1))) := by
  have whole := List.take_append_drop (shown + 1) results
  rcases documents_or_error (results.take (shown + 1)) with
    ⟨found, all⟩ | ⟨found, error, rest, parts⟩
  · have width : found.length = min (shown + 1) results.length := by
      rw [← List.length_take, all, List.length_map]
    rw [all] at whole
    by_cases many : 2 ≤ found.length
    · rw [all, single_ambiguous found many]
      refine .several found _ whole.symm many ?_
      rw [List.drop_eq_nil_iff]
      omega
    · have few : results.length ≤ shown + 1 := by
        rw [shown] at width ⊢
        omega
      rw [List.drop_of_length_le few, List.append_nil] at whole
      rw [all, single_documents]
      rcases found with _ | ⟨document, _ | ⟨second, more⟩⟩
      · exact .nothing whole.symm
      · exact .one document whole.symm
      · exact absurd (Nat.le_add_left 2 more.length) many
  · have near : found.length ≤ shown := by
      have bound := List.length_take_le (shown + 1) results
      rw [parts, List.length_append, List.length_map, List.length_cons] at bound
      omega
    rw [parts, List.append_assoc, List.cons_append] at whole
    rw [parts, single_error]
    exact .failed found error _ whole.symm near

theorem outcome_kind (selection : Selection) (whole : selection.breakdown = none) :
    ∃ outcome, selection.forOne.outcome = .ok outcome ∧ Kind selection.items outcome :=
  ⟨_, outcome_whole selection whole, single_kind selection.items⟩

end DocFinder.Selection
