import DocFinder.Proofs.Finder.Agreement
import DocFinder.Proofs.Finder.Reading
import DocFinder.Tool

namespace DocFinder

open Selection Listing

namespace Listing

theorem gather_error {α : Type} (entry : α → Except FinderError Listing) (items : List α)
    (error : FinderError) (failed : gather entry items = .error error) :
    ∃ item ∈ items, entry item = .error error := by
  induction items with
  | nil => cases failed
  | cons item rest ih =>
      rw [gather] at failed
      cases one : entry item with
      | error other =>
          rw [one] at failed
          cases failed
          exact ⟨item, List.mem_cons_self, one⟩
      | ok listing =>
          rw [one] at failed
          cases later : gather entry rest with
          | error other =>
              rw [later] at failed
              cases failed
              obtain ⟨found, member, same⟩ := ih later
              exact ⟨found, List.mem_cons_of_mem item member, same⟩
          | ok more =>
              rw [later] at failed
              cases failed

theorem jsonOf_error (metadata : Option Value) (error : FinderError)
    (failed : jsonOf metadata = .error error) : error = .breakdown .keyTooLong := by
  unfold jsonOf at failed
  split at failed
  · cases failed
  · cases failed
    rfl

theorem ofItem_error (opener : Opener) (withMetadata : Bool) (item : SelectionItem)
    (error : FinderError) (failed : ofItem opener withMetadata item = .error error) :
    ∃ breakdown, error = .breakdown breakdown := by
  cases item with
  | error other => cases failed
  | ok document =>
      change (ofDocument opener withMetadata document).result = .error error at failed
      unfold ofDocument at failed
      split at failed
      · simp only at failed
        split at failed
        · cases failed
          exact ⟨_, rfl⟩
        · cases failed
        · rename_i metadata _
          cases written : jsonOf metadata with
          | ok value =>
              rw [written] at failed
              cases failed
          | error other =>
              rw [written] at failed
              cases failed
              exact ⟨_, jsonOf_error metadata _ written⟩
      · cases failed

theorem ofSelection_error (opener : Opener) (withMetadata : Bool) (selection : Selection)
    (error : FinderError) (failed : (ofSelection opener withMetadata selection).result = .error error) :
    ∃ breakdown, error = .breakdown breakdown := by
  rw [ofSelection_result] at failed
  cases gathered : gather (ofItem opener withMetadata) selection.items with
  | error other =>
      rw [gathered] at failed
      cases failed
      obtain ⟨item, _, one⟩ := gather_error _ _ _ gathered
      exact ofItem_error opener withMetadata item _ one
  | ok listing =>
      rw [gathered] at failed
      change stopAt selection.breakdown listing = .error error at failed
      unfold stopAt at failed
      split at failed
      · cases failed
        exact ⟨_, rfl⟩
      · cases failed

end Listing

namespace DocumentRoot

variable (tree : FileTree) (root : DocumentRoot) (clauses : List Clause) (preset : String)
  (error : QueryError)

theorem which_query_iff :
    (root.which tree clauses preset).result = .error (.query error) ↔
      Query.compile clauses preset = .error error := by
  cases compiled : Query.compile clauses preset with
  | error other => simp [which, compiled]
  | ok query =>
      rw [which_result tree root clauses preset query compiled]
      cases (root.selectOne tree query).1 with
      | error breakdown => simp
      | ok outcome =>
          cases outcome with
          | ok document => simp [Choice.ofOutcome]
          | error reason => cases reason <;> simp [Choice.ofOutcome]

theorem list_query_iff (withMetadata : Bool) :
    (root.list tree clauses preset withMetadata).result = .error (.query error) ↔
      Query.compile clauses preset = .error error := by
  cases compiled : Query.compile clauses preset with
  | error other => simp [list, compiled]
  | ok query =>
      refine iff_of_false ?_ (by simp)
      simp only [list, compiled]
      intro failed
      obtain ⟨breakdown, other⟩ := ofSelection_error _ _ _ _ failed
      cases other

theorem readMetadata_query_iff :
    (root.readMetadata tree clauses preset).result = .error (.query error) ↔
      Query.compile clauses preset = .error error := by
  cases compiled : Query.compile clauses preset with
  | error other => simp [readMetadata, compiled]
  | ok query =>
      refine iff_of_false ?_ (by simp)
      rw [read_result tree root clauses preset query compiled]
      intro failed
      split at failed
      · cases failed
      · cases failed
      · rename_i document _
        cases loaded : tree.opener.load document.path with
        | error failure =>
            rw [loaded] at failed
            cases failure <;> cases failed
        | ok metadata =>
            rw [loaded, Reading.ofLoaded] at failed
            cases written : jsonOf metadata with
            | ok value =>
                rw [written] at failed
                cases failed
            | error other =>
                rw [written, jsonOf_error metadata other written] at failed
                cases failed

end DocumentRoot

namespace Tool

theorem answer_query_iff (tree : FileTree) (root : DocumentRoot) (input : Input) (tool : Tool)
    (asks : tool ≠ .describe) (error : QueryError) :
    (tool.answer tree root input).result = .error (.finder (.query error)) ↔
      Query.compile (input.criteria.map .token) input.preset = .error error := by
  have worded {α : Type} (report : Report α) (payload : α → Value) :
      (report.answer payload).result = .error (.finder (.query error)) ↔
        report.result = .error (.query error) := by
    unfold Report.answer
    cases report.result <;> simp [Except.map, Except.mapError]
  cases tool with
  | describe => exact absurd rfl asks
  | which => rw [answer, worded, DocumentRoot.which_query_iff]
  | list => rw [answer, worded, DocumentRoot.list_query_iff]
  | readMetadata => rw [answer, worded, DocumentRoot.readMetadata_query_iff]

end Tool

end DocFinder
