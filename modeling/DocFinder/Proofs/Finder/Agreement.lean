import DocFinder.Proofs.Finder.Account
import DocFinder.Proofs.Selection.Asking

namespace DocFinder

open Selection

def Choice.ofOutcome : Except SelectionError Document → Except FinderError Choice
  | .ok document => .ok (.selected document.path)
  | .error .empty => .ok .empty
  | .error (.ambiguous candidates truncated) => .ok (.ambiguous candidates truncated)
  | .error (.failed error) => .error (.selection error)

/-- How the answer to which document a query means follows from its results and their listing. -/
structure Agrees (results : List SelectionItem) (listing : Listing)
    (answer : Except FinderError Choice) : Prop where
  selected : ∀ path, answer = .ok (.selected path) ↔
    listing.found = [{ path }] ∧ listing.errors = []
  empty : answer = .ok .empty ↔ listing.found = [] ∧ listing.errors = []
  ambiguous : (∃ candidates truncated, answer = .ok (.ambiguous candidates truncated)) ↔
    2 ≤ results.length ∧ ∀ result ∈ results.take (shown + 1), isError result = false
  candidates : ∀ candidates truncated, answer = .ok (.ambiguous candidates truncated) →
    candidates.map (·.path) <+: listing.found.map (·.path) ∧
      candidates.length = min shown listing.found.length ∧
      (truncated = true ↔ shown < listing.found.length) ∧
      (truncated = false → listing.errors = [])
  failed : (∃ error rest, listing.errors = error :: rest ∧ answer = .error (.selection error)) ↔
    ∀ choice, answer ≠ .ok choice
  /-- Nothing and several matches are answers. -/
  answered : ∀ error, answer ≠ .error (.unselected error)

namespace Listing

theorem documents_append (found : List Document) (rest : List SelectionItem) :
    documents (found.map Except.ok ++ rest) = found ++ documents rest := by
  rw [documents, List.filterMap_append]
  exact congrArg (· ++ documents rest) (documents_of_items found)

theorem failures_after (opener : Opener) (found : List Document) (rest : List SelectionItem) :
    (found.map Except.ok ++ rest).filterMap (failureOf opener false) =
      rest.filterMap (failureOf opener false) := by
  induction found with
  | nil => rfl
  | cons document found ih => exact ih

theorem plain_after (opener : Opener) (listing : Listing) (found : List Document)
    (rest : List SelectionItem)
    (listed : gather (ofItem opener false) (found.map Except.ok ++ rest) = .ok listing) :
    listing.found.map (·.path) = found.map (·.path) ++ (documents rest).map (·.path) ∧
      listing.errors = rest.filterMap (failureOf opener false) := by
  rw [gather_plain, documents_append, failures_after] at listed
  cases listed
  simp [Function.comp_def]

theorem not_error (found : List Document) (result : SelectionItem)
    (member : result ∈ found.map Except.ok) : isError result = false := by
  obtain ⟨document, _, rfl⟩ := List.mem_map.mp member
  rfl

section

variable (opener : Opener) (listing : Listing)

theorem agrees_nothing (listed : gather (ofItem opener false) [] = .ok listing) :
    Agrees [] listing (Choice.ofOutcome (.error .empty)) := by
  cases listed
  constructor <;> simp [Choice.ofOutcome]

theorem agrees_one (document : Document)
    (listed : gather (ofItem opener false) [.ok document] = .ok listing) :
    Agrees [.ok document] listing (Choice.ofOutcome (.ok document)) := by
  cases listed
  constructor <;> simp [Choice.ofOutcome, append]

theorem agrees_several (found : List Document) (rest : List SelectionItem)
    (many : 2 ≤ found.length) (reach : rest = [] ∨ shown < found.length)
    (listed : gather (ofItem opener false) (found.map Except.ok ++ rest) = .ok listing) :
    Agrees (found.map Except.ok ++ rest) listing
      (Choice.ofOutcome (.error (.ambiguous (found.take shown) (shown < found.length)))) := by
  obtain ⟨paths, errors⟩ := plain_after opener listing found rest listed
  have count : listing.found.length = found.length + (documents rest).length := by
    simpa using congrArg List.length paths
  -- Either nothing is left behind the candidates, or there are more of them than are shown, and then
  -- the rest has no part in any count.
  have whole (short : ¬ shown < found.length) : rest = [] := reach.resolve_right short
  constructor
  · intro path
    refine ⟨fun same => (by cases same), fun alone => ?_⟩
    have single := congrArg List.length alone.1
    rw [count, List.length_singleton] at single
    omega
  · refine ⟨fun same => (by cases same), fun neither => ?_⟩
    have nothing := congrArg List.length neither.1
    rw [count, List.length_nil] at nothing
    omega
  · refine ⟨fun _ => ⟨?_, fun result member => ?_⟩, fun _ => ⟨_, _, rfl⟩⟩
    · rw [List.length_append, List.length_map]
      omega
    · apply not_error found
      rcases reach with rfl | more
      · rw [List.append_nil] at member
        exact (List.take_sublist _ _).subset member
      · rw [List.take_append_of_le_length (by rw [List.length_map]; omega)] at member
        exact (List.take_sublist _ _).subset member
  · intro candidates truncated same
    cases same
    refine ⟨?_, ?_, ?_, fun short => ?_⟩
    · rw [paths, List.map_take]
      exact (List.take_prefix _ _).trans (List.prefix_append _ _)
    · rw [List.length_take, count]
      rcases reach with rfl | more
      · rfl
      · omega
    · rw [decide_eq_true_iff, count]
      rcases reach with rfl | more
      · rfl
      · omega
    · rw [errors, whole (of_decide_eq_false short)]
      rfl
  · constructor
    · rintro ⟨_, _, _, same⟩
      cases same
    · intro unanswered
      exact absurd rfl (unanswered _)
  · intro error same
    cases same

theorem agrees_failed (found : List Document) (error : DocumentError) (rest : List SelectionItem)
    (near : found.length ≤ shown)
    (listed : gather (ofItem opener false) (found.map Except.ok ++ .error error :: rest) =
      .ok listing) :
    Agrees (found.map Except.ok ++ .error error :: rest) listing
      (Choice.ofOutcome (.error (.failed error))) := by
  obtain ⟨_, errors⟩ := plain_after opener listing found _ listed
  rw [List.filterMap_cons_some (rfl : failureOf opener false (.error error) = some error)] at errors
  have reported : listing.errors ≠ [] := by
    rw [errors]
    exact List.cons_ne_nil _ _
  constructor
  · intro path
    exact ⟨fun same => (by cases same), fun alone => absurd alone.2 reported⟩
  · exact ⟨fun same => (by cases same), fun neither => absurd neither.2 reported⟩
  · constructor
    · rintro ⟨_, _, same⟩
      cases same
    · rintro ⟨_, sound⟩
      rw [take_past _ rest _ shown (by rwa [List.length_map])] at sound
      have bad := sound (.error error) (List.mem_append_right _ (List.mem_cons_self ..))
      cases bad
  · intro candidates truncated same
    cases same
  · exact ⟨fun _ choice same => (by cases same), fun _ => ⟨error, _, errors, rfl⟩⟩
  · intro other same
    cases same

theorem agrees_of_kind (results : List SelectionItem) (outcome : Except SelectionError Document)
    (kind : Kind results outcome) (listed : gather (ofItem opener false) results = .ok listing) :
    Agrees results listing (Choice.ofOutcome outcome) := by
  cases kind with
  | nothing none_there =>
      rw [none_there] at listed ⊢
      exact agrees_nothing opener listing listed
  | one document alone =>
      rw [alone] at listed ⊢
      exact agrees_one opener listing document listed
  | several found rest parts many reach =>
      rw [parts] at listed ⊢
      exact agrees_several opener listing found rest many reach listed
  | failed found error rest parts near =>
      rw [parts] at listed ⊢
      exact agrees_failed opener listing found error rest near listed

end

end Listing

namespace DocumentRoot

open Listing

section

variable (tree : FileTree) (root : DocumentRoot) (clauses : List Clause) (preset : String)
variable (query : Query) (compiled : Query.compile clauses preset = .ok query)

theorem selectOne_outcome :
    (root.selectOne tree query).1 = (ofQuery tree (.tree root) query).forOne.outcome :=
  (Asking.single_forOne tree (.tree root) query).1

theorem selectOne_fails (breakdown : Breakdown) (fails : root.items tree = .error breakdown) :
    (root.selectOne tree query).1 = .error breakdown := by
  obtain ⟨items, ended⟩ := ofQuery_fails tree (.tree root) query breakdown fails
  have settled := outcome_undecided (ofQuery tree (.tree root) query) [] items (Nat.zero_le _)
  rw [ended] at settled
  exact (selectOne_outcome tree root query).trans settled

include compiled

theorem which_result :
    (root.which tree clauses preset).result =
      match (root.selectOne tree query).1 with
      | .error breakdown => .error (.breakdown breakdown)
      | .ok outcome => Choice.ofOutcome outcome := by
  simp only [which, compiled]
  cases (root.selectOne tree query).1 with
  | error breakdown => rfl
  | ok outcome =>
      cases outcome with
      | ok document => rfl
      | error error => cases error <;> rfl

end

/-- Which document a query means can be told from the listing of the documents that it matches. -/
theorem which_agrees_with_list (tree : FileTree) (root : DocumentRoot) (clauses : List Clause)
    (preset : String) (query : Query) (compiled : Query.compile clauses preset = .ok query) :
    let results := (ofQuery tree (.tree root) query).items
    let answer := (root.which tree clauses preset).result
    let listed := (root.list tree clauses preset false).result
    (∀ breakdown, root.items tree = .error breakdown →
      answer = .error (.breakdown breakdown) ∧ listed = .error (.breakdown breakdown)) ∧
    (∀ given, root.items tree = .ok given → tree.WellNamed →
      (∀ path fault, .ok path ∈ given →
        tree.opener.load path ≠ .error (.breakdown (.unconvertible fault))) →
      ∃ listing, listed = .ok listing) ∧
    ∀ listing, listed = .ok listing → Agrees results listing answer := by
  intro results answer listed
  refine ⟨?_, ?_, ?_⟩
  · intro breakdown fails
    have broken : answer = .error (.breakdown breakdown) := by
      simp only [answer, which_result tree root clauses preset query compiled,
        selectOne_fails tree root query breakdown fails]
    exact ⟨broken, list_fails tree root clauses preset query compiled false breakdown fails⟩
  · intro given gives named convertible
    obtain ⟨plain, spec, _, enumerated⟩ := items_given tree root given gives
    apply list_unended tree root clauses preset query compiled given gives
    rintro path breakdown member ⟨matchers, _, crash⟩
    cases crash with
    | writing metadata asked loaded accepted unwritable => cases asked
    | reading _ needed failed =>
        rcases load_breakdown tree path breakdown failed with nul | ⟨fault, rfl⟩
        · rw [enumerated] at member
          rw [itemsBelow_askable tree spec.verdict? root.path named plain path member] at nul
          cases nul
        · exact convertible path fault member failed
  · intro listing shown_all
    obtain ⟨whole, gathered, _⟩ :=
      list_gathered tree root clauses preset query compiled false listing shown_all
    obtain ⟨outcome, reached, kind⟩ := outcome_kind _ whole
    have selected : (root.selectOne tree query).1 = .ok outcome :=
      (selectOne_outcome tree root query).trans reached
    have same : answer = Choice.ofOutcome outcome := by
      simp only [answer, which_result tree root clauses preset query compiled, selected]
    rw [same]
    exact agrees_of_kind tree.opener listing results outcome kind gathered

theorem bracket_unanswered :
    let root : DocumentRoot := { path := ⟨.relative, ["docs"]⟩ }
    let clauses : List Clause := [.token "k:v"]
    let query : Query := ⟨none, [.field "k" (.equals "v")]⟩
    let tree := treeWith [91]
    Query.compile clauses Query.defaultPreset = .ok query ∧ tree.WellNamed ∧
      ∃ listing error, (root.list tree clauses Query.defaultPreset false).result = .ok listing ∧
        listing.found.map (·.path) = [⟨.relative, ["docs", "good.md"]⟩] ∧
        listing.errors = [error] ∧
        (root.which tree clauses Query.defaultPreset).result = .error (.selection error) := by
  intro root clauses query tree
  have compiled : Query.compile clauses Query.defaultPreset = .ok query := by rfl
  obtain ⟨_, complete, agrees⟩ :=
    which_agrees_with_list tree root clauses Query.defaultPreset query compiled
  obtain ⟨given, gives, own⟩ := bracket_own
  obtain ⟨listing, listed⟩ := complete given gives bracket_named
    fun path fault member => own.reading path _ member
  have agreement := agrees listing listed
  have contents : (root.list tree clauses Query.defaultPreset false).result.toOption.map
      (fun listing => (listing.found.map (·.path), listing.errors)) =
        some ([⟨.relative, ["docs", "good.md"]⟩],
          [.malformed (some ⟨.relative, ["docs", "bad.md"]⟩)]) := by
    decide +kernel
  rw [listed] at contents
  obtain ⟨found, errors⟩ := Prod.mk.inj (Option.some.inj contents)
  have first : (ofQuery tree (.tree root) query).items.head?.map isError = some true := by
    decide +kernel
  have unanswered : ∀ choice,
      (root.which tree clauses Query.defaultPreset).result ≠ .ok choice := by
    intro choice same
    cases choice with
    | selected path =>
        have silent := ((agreement.selected path).mp same).2
        rw [errors] at silent
        cases silent
    | empty =>
        have silent := (agreement.empty.mp same).2
        rw [errors] at silent
        cases silent
    | ambiguous candidates truncated =>
        obtain ⟨_, sound⟩ := agreement.ambiguous.mp ⟨candidates, truncated, same⟩
        cases results : (ofQuery tree (.tree root) query).items with
        | nil =>
            rw [results] at first
            cases first
        | cons result later =>
            rw [results] at first sound
            have calm := sound result (List.mem_cons_self ..)
            rw [List.head?_cons, Option.map_some, calm] at first
            cases first
  obtain ⟨error, rest, reported, answer⟩ := agreement.failed.mpr unanswered
  rw [errors] at reported
  cases reported
  exact ⟨compiled, bracket_named, listing, _, listed, found, errors, answer⟩

end DocumentRoot

end DocFinder
