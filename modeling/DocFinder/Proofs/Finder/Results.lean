import DocFinder.Proofs.Finder.Containment

namespace DocFinder

namespace Selection

def resultPath? : SelectionItem → Option Path
  | .ok document => some document.path
  | .error error => error.path?

theorem mem_documents (results : List SelectionItem) (document : Document) :
    document ∈ documents results ↔ .ok document ∈ results :=
  mem_values_iff results document

inductive Yields (opener : Opener) : PathItem → SelectionItem → Prop
  | reported (error : DocumentError) : Yields opener (.error error) (.error error)
  | failed (path : Path) (error : DocumentError)
      (unread : opener.load path = .error (.document error)) :
      Yields opener (.ok path) (.error error)
  | selected (document : Document) (fresh : document.Fresh opener) :
      Yields opener (.ok document.path) (.ok document)

theorem contribution_yields (opener : Opener) (matchers : List Matcher) (item : PathItem)
    (result : SelectionItem) (added : contribution opener matchers item = some result) :
    Yields opener item result := by
  cases item with
  | error error =>
      cases added
      exact .reported error
  | ok path =>
      rw [contribution] at added
      split at added
      · split at added
        · rename_i metadata loaded
          split at added
          · cases added
            exact .selected _ (fresh_loaded opener path metadata loaded)
          · cases added
        · rename_i error unread
          cases added
          exact .failed path error unread
        · cases added
      · split at added
        · cases added
          exact .selected _ (fresh_unread opener path)
        · cases added

theorem yields_path (opener : Opener) (item : PathItem) (result : SelectionItem)
    (yields : Yields opener item result) : resultPath? result = itemPath? item := by
  cases yields with
  | reported error => rfl
  | failed path error unread => exact Listing.failure_path opener path error unread
  | selected document fresh => rfl

theorem contributions_in_order (opener : Opener) (matchers : List Matcher) (items : List PathItem) :
    ((items.filterMap (contribution opener matchers)).map resultPath?).Sublist
      (items.map itemPath?) := by
  induction items with
  | nil => exact List.Sublist.slnil
  | cons item rest ih =>
      cases added : contribution opener matchers item with
      | none =>
          rw [List.filterMap_cons_none added]
          exact ih.cons _
      | some result =>
          have path := yields_path opener item result
            (contribution_yields opener matchers item result added)
          rw [List.filterMap_cons_some added, List.map_cons, List.map_cons, path]
          exact ih.cons_cons _

section

variable (tree : FileTree) (query : Query) (given : List PathItem) (source : PathSource)
variable (gives : source.items tree = .ok given)

include gives

theorem result_yielded (result : SelectionItem)
    (member : result ∈ (ofQuery tree source query).items) :
    ∃ item ∈ given, Yields tree.opener item result := by
  obtain ⟨last, _, items, _⟩ := Listing.ofQuery_last tree query given source gives
  rw [items] at member
  obtain ⟨item, within, added⟩ := List.mem_filterMap.mp member
  exact ⟨item, (List.takeWhile_sublist _).subset within,
    contribution_yields tree.opener last item result added⟩

theorem selected_fresh (document : Document)
    (member : .ok document ∈ (ofQuery tree source query).items) :
    document.Fresh tree.opener := by
  obtain ⟨item, _, yields⟩ := result_yielded tree query given source gives _ member
  cases yields with
  | selected _ fresh => exact fresh

theorem results_in_order :
    ((ofQuery tree source query).items.map resultPath?).Sublist (given.map itemPath?) := by
  obtain ⟨last, _, items, _⟩ := Listing.ofQuery_last tree query given source gives
  rw [items]
  exact (contributions_in_order tree.opener last _).trans
    ((List.takeWhile_sublist _).map itemPath?)

end

end Selection

namespace Listing

open Selection

/-- The error that a result leads to: its own, or that of reading the front matter for its entry. -/
def failureOf (opener : Opener) (withMetadata : Bool) : SelectionItem → Option DocumentError
  | .error error => some error
  | .ok document =>
    if withMetadata then DocumentRoot.ownFailure? (opener.load document.path) else none

theorem ofItem_spec (opener : Opener) (withMetadata : Bool) (result : SelectionItem)
    (one : Listing) (fresh : ∀ document, result = .ok document → document.Fresh opener)
    (listed : ofItem opener withMetadata result = .ok one) :
    one.errors = (failureOf opener withMetadata result).toList ∧
      one.found.map (fun found => some found.path) =
        if (failureOf opener withMetadata result).isSome then [] else [resultPath? result] := by
  cases result with
  | error error =>
      cases listed
      exact ⟨rfl, rfl⟩
  | ok document =>
      cases withMetadata with
      | false =>
          cases listed
          exact ⟨rfl, rfl⟩
      | true =>
          rw [ofItem_fresh opener document (fresh document rfl)] at listed
          simp only [failureOf, if_true]
          cases loaded : opener.load document.path with
          | error failure =>
              rw [loaded] at listed
              cases failure <;> cases listed
              exact ⟨rfl, rfl⟩
          | ok metadata =>
              simp only [loaded, ofAccepted, jsonOf, if_true] at listed
              split at listed
              · cases listed
                exact ⟨rfl, rfl⟩
              · cases listed

/-- What results add up to: the errors that they lead to, and a match for each of the others. -/
theorem gather_results (opener : Opener) (withMetadata : Bool) (results : List SelectionItem)
    (listing : Listing) (fresh : ∀ document, .ok document ∈ results → document.Fresh opener)
    (gathered : gather (ofItem opener withMetadata) results = .ok listing) :
    listing.errors = results.filterMap (failureOf opener withMetadata) ∧
      listing.found.map (fun found => some found.path) =
        (results.filter fun result => (failureOf opener withMetadata result).isNone).map
          resultPath? := by
  induction results generalizing listing with
  | nil =>
      cases gathered
      exact ⟨rfl, rfl⟩
  | cons result rest ih =>
      obtain ⟨front, one, back, nothing, here, later, rfl⟩ :=
        gather_parts (ofItem opener withMetadata) [] rest result listing gathered
      cases nothing
      obtain ⟨own_errors, own_found⟩ := ofItem_spec opener withMetadata result one
        (fun document same => fresh document (by simp [same])) here
      obtain ⟨more_errors, more_found⟩ := ih back
        (fun document member => fresh document (List.mem_cons_of_mem result member)) later
      simp only [append, List.nil_append, List.map_append, own_errors, own_found, more_errors,
        more_found]
      cases failed : failureOf opener withMetadata result <;> simp [failed]

theorem gather_plain (opener : Opener) (results : List SelectionItem) :
    gather (ofItem opener false) results =
      .ok ⟨(documents results).map fun document => { path := document.path },
        results.filterMap (failureOf opener false)⟩ := by
  induction results with
  | nil => rfl
  | cons result rest ih =>
      rw [gather, ih]
      cases result <;> rfl

theorem failureOf_path (opener : Opener) (withMetadata : Bool) (result : SelectionItem)
    (error : DocumentError) (failed : failureOf opener withMetadata result = some error) :
    error.path? = resultPath? result := by
  cases result with
  | error own =>
      cases failed
      rfl
  | ok document =>
      cases withMetadata with
      | false => cases failed
      | true =>
          simp only [failureOf, if_true] at failed
          exact failure_path opener document.path error
            (DocumentRoot.eq_of_ownFailure _ error failed)

theorem failures_paths (opener : Opener) (withMetadata : Bool) (results : List SelectionItem) :
    (results.filterMap (failureOf opener withMetadata)).map (·.path?) =
      (results.filter fun result => !(failureOf opener withMetadata result).isNone).map
        resultPath? := by
  induction results with
  | nil => rfl
  | cons result rest ih =>
      cases failed : failureOf opener withMetadata result with
      | none =>
          rw [List.filterMap_cons_none failed, List.filter_cons_of_neg (by simp [failed])]
          exact ih
      | some error =>
          have path := failureOf_path opener withMetadata result error failed
          rw [List.filterMap_cons_some failed, List.filter_cons_of_pos (by simp [failed]),
            List.map_cons, List.map_cons, path, ih]

theorem gather_paths (opener : Opener) (withMetadata : Bool) (results : List SelectionItem)
    (listing : Listing) (fresh : ∀ document, .ok document ∈ results → document.Fresh opener)
    (gathered : gather (ofItem opener withMetadata) results = .ok listing) :
    (listing.found.map (fun found => some found.path) ++ listing.errors.map (·.path?)).Perm
      (results.map resultPath?) := by
  obtain ⟨errors, found⟩ := gather_results opener withMetadata results listing fresh gathered
  rw [found, errors, failures_paths, ← List.map_append]
  exact (List.filter_append_perm _ _).map resultPath?

end Listing

/-- Reading the front matter of a document, and writing it, fails in ways only that are the
document's own. -/
structure OwnFailuresOnly (opener : Opener) (given : List PathItem) : Prop where
  reading : ∀ path breakdown, .ok path ∈ given →
    opener.load path ≠ .error (.breakdown breakdown)
  writing : ∀ path metadata, .ok path ∈ given → opener.load path = .ok metadata →
    (metadata.getD .null).json? ≠ none

namespace DocumentRoot

open Selection Listing

section

variable (tree : FileTree) (root : DocumentRoot) (clauses : List Clause) (preset : String)
variable (query : Query) (compiled : Query.compile clauses preset = .ok query)

theorem items_given (given : List PathItem) (gives : root.items tree = .ok given) :
    root.path.hasNul = false ∧
      ∃ spec, FileSpec.ofLines root.files = .ok spec ∧
        given = itemsBelow tree spec.verdict? root.path := by
  obtain ⟨spec, patterns, plain, enumerated⟩ := (items_ok_iff tree root given).mp gives
  exact ⟨plain, spec, patterns, enumerated⟩

include compiled

theorem list_result (withMetadata : Bool) :
    (root.list tree clauses preset withMetadata).result =
      (gather (ofItem tree.opener withMetadata) (ofQuery tree (.tree root) query).items).bind
        (stopAt (ofQuery tree (.tree root) query).breakdown) := by
  simp only [list, compiled]
  exact ofSelection_result tree.opener withMetadata _

theorem list_fails (withMetadata : Bool) (breakdown : Breakdown)
    (fails : root.items tree = .error breakdown) :
    (root.list tree clauses preset withMetadata).result = .error (.breakdown breakdown) := by
  obtain ⟨items, ended⟩ := ofQuery_fails tree (.tree root) query breakdown fails
  rw [list_result tree root clauses preset query compiled, items, ended]
  rfl

theorem list_gathered (withMetadata : Bool) (listing : Listing)
    (listed : (root.list tree clauses preset withMetadata).result = .ok listing) :
    (ofQuery tree (.tree root) query).breakdown = none ∧
      gather (ofItem tree.opener withMetadata) (ofQuery tree (.tree root) query).items =
        .ok listing ∧
      ∃ given, root.items tree = .ok given := by
  cases enumerated : root.items tree with
  | error breakdown =>
      rw [list_fails tree root clauses preset query compiled withMetadata breakdown enumerated]
        at listed
      cases listed
  | ok given =>
      rw [list_result tree root clauses preset query compiled] at listed
      cases gathered : gather (ofItem tree.opener withMetadata)
          (ofQuery tree (.tree root) query).items with
      | error error =>
          rw [gathered] at listed
          cases listed
      | ok found =>
          cases ended : (ofQuery tree (.tree root) query).breakdown with
          | some breakdown =>
              rw [gathered, ended] at listed
              cases listed
          | none =>
              rw [gathered, ended] at listed
              cases listed
              exact ⟨rfl, rfl, given, rfl⟩

theorem list_unended (given : List PathItem) (gives : root.items tree = .ok given)
    (withMetadata : Bool)
    (free : ∀ path breakdown, .ok path ∈ given →
      ¬ Ends tree.opener query given withMetadata path breakdown) :
    ∃ listing, (root.list tree clauses preset withMetadata).result = .ok listing := by
  have source : (PathSource.tree root).items tree = .ok given := gives
  simp only [list, compiled]
  exact listing_complete source free

theorem list_whole (given : List PathItem) (gives : root.items tree = .ok given)
    (own : OwnFailuresOnly tree.opener given) (withMetadata : Bool) :
    ∃ listing, (root.list tree clauses preset withMetadata).result = .ok listing := by
  apply list_unended tree root clauses preset query compiled given gives
  rintro path breakdown member ⟨matchers, _, crash⟩
  cases crash with
  | reading _ needed failed => exact own.reading path breakdown member failed
  | writing metadata asked loaded accepted unwritable =>
      exact own.writing path metadata member loaded unwritable

end

theorem bracket_own : ∃ given,
    DocumentRoot.items (treeWith [91]) { path := ⟨.relative, ["docs"]⟩ } = .ok given ∧
      OwnFailuresOnly (treeWith [91]).opener given := by
  have listed : (DocumentRoot.items (treeWith [91]) { path := ⟨.relative, ["docs"]⟩ }).toOption.map
      FileTree.documents =
        some [⟨.relative, ["docs", "bad.md"]⟩, ⟨.relative, ["docs", "good.md"]⟩] := by
    decide +kernel
  have failed : ownFailure? ((treeWith [91]).opener.load ⟨.relative, ["docs", "bad.md"]⟩) =
      some (.malformed (some ⟨.relative, ["docs", "bad.md"]⟩)) := by
    decide +kernel
  have written : ((treeWith [91]).opener.load ⟨.relative, ["docs", "good.md"]⟩).toOption.map
      (fun metadata => (metadata.getD .null).json?.isSome) = some true := by
    decide +kernel
  have unread := eq_of_ownFailure _ _ failed
  cases enumerated : DocumentRoot.items (treeWith [91]) { path := ⟨.relative, ["docs"]⟩ } with
  | error breakdown =>
      rw [enumerated] at listed
      cases listed
  | ok given =>
      rw [enumerated] at listed
      have either (path : Path) (member : .ok path ∈ given) :
          path = ⟨.relative, ["docs", "bad.md"]⟩ ∨ path = ⟨.relative, ["docs", "good.md"]⟩ := by
        rw [← FileTree.mem_documents_iff, Option.some.inj listed] at member
        simpa using member
      refine ⟨given, rfl, fun path breakdown member broken => ?_,
        fun path metadata member loaded unwritable => ?_⟩
      · rcases either path member with rfl | rfl
        · rw [unread] at broken
          cases broken
        · rw [broken] at written
          cases written
      · rcases either path member with rfl | rfl
        · rw [unread] at loaded
          cases loaded
        · rw [loaded, Except.toOption, Option.map_some, unwritable] at written
          cases written

end DocumentRoot

end DocFinder
