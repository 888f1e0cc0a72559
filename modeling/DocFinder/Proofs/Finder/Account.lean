import DocFinder.Proofs.DocumentRoot.Reported
import DocFinder.Proofs.Finder.Results

namespace DocFinder

namespace Listing

open Selection

/-- How a listing with front matter stands to one without it: the documents that cannot be read have
left the matches for the errors, and nothing else has changed. -/
structure Moves (opener : Opener) (plain full : Listing) : Prop where
  found : full.found.map (·.path) =
    (plain.found.map (·.path)).filter fun path => (opener.load path).isOk
  moved : ∀ found ∈ plain.found, (opener.load found.path).isOk = false →
    ∃ error ∈ full.errors, opener.load found.path = .error (.document error) ∧
      error.path? = some found.path
  kept : plain.errors.Sublist full.errors
  nothing_else : ∀ error ∈ full.errors, error ∈ plain.errors ∨
    ∃ found ∈ plain.found, opener.load found.path = .error (.document error)

theorem gather_reads (opener : Opener) (results : List SelectionItem) (full : Listing)
    (fresh : ∀ document, .ok document ∈ results → document.Fresh opener)
    (gathered : gather (ofItem opener true) results = .ok full) (document : Document)
    (member : .ok document ∈ results) (breakdown : Breakdown) :
    opener.load document.path ≠ .error (.breakdown breakdown) := by
  intro failed
  obtain ⟨before, after, rfl⟩ := List.append_of_mem member
  obtain ⟨_, one, _, _, listed, _, _⟩ := gather_parts _ before after _ full gathered
  rw [ofItem_fresh opener document (fresh document member), failed] at listed
  cases listed

theorem read_paths (opener : Opener) (results : List SelectionItem)
    (reads : ∀ document, .ok document ∈ results → ∀ breakdown,
      opener.load document.path ≠ .error (.breakdown breakdown)) :
    (results.filter fun result => (failureOf opener true result).isNone).map resultPath? =
      (((documents results).map (·.path)).filter fun path => (opener.load path).isOk).map some := by
  induction results with
  | nil => rfl
  | cons result rest ih =>
      have later := ih fun document member => reads document (List.mem_cons_of_mem result member)
      cases result with
      | error error => exact later
      | ok document =>
          have own := reads document (List.mem_cons_self ..)
          have first : documents (.ok document :: rest) = document :: documents rest := rfl
          rw [first, List.map_cons]
          cases loaded : opener.load document.path with
          | ok metadata =>
              have silent : failureOf opener true (.ok document) = none := by
                simp only [failureOf, if_true, loaded, DocumentRoot.ownFailure?]
              rw [List.filter_cons_of_pos (by rw [silent]; rfl),
                List.filter_cons_of_pos (by rw [loaded]; rfl), List.map_cons, List.map_cons, later]
              rfl
          | error failure =>
              cases failure with
              | breakdown breakdown => exact absurd loaded (own breakdown)
              | document error =>
                  have fails : failureOf opener true (.ok document) = some error := by
                    simp only [failureOf, if_true, loaded, DocumentRoot.ownFailure?]
                  rw [List.filter_cons_of_neg (by simp [fails]),
                    List.filter_cons_of_neg (by rw [loaded]; simp [Except.isOk, Except.toBool])]
                  exact later

theorem failures_plain (opener : Opener) (results : List SelectionItem) :
    results.filterMap (failureOf opener false) =
      (results.filter isError).filterMap (failureOf opener true) := by
  rw [List.filterMap_filter]
  congr 1
  funext result
  cases result <;> rfl

theorem unread_reported (opener : Opener) (results : List SelectionItem)
    (reads : ∀ document, .ok document ∈ results → ∀ breakdown,
      opener.load document.path ≠ .error (.breakdown breakdown)) (document : Document)
    (member : .ok document ∈ results) (unread : (opener.load document.path).isOk = false) :
    ∃ error ∈ results.filterMap (failureOf opener true),
      opener.load document.path = .error (.document error) := by
  cases loaded : opener.load document.path with
  | ok metadata =>
      rw [loaded] at unread
      cases unread
  | error failure =>
      cases failure with
      | breakdown breakdown => exact absurd loaded (reads document member breakdown)
      | document error =>
          refine ⟨error, List.mem_filterMap.mpr ⟨_, member, ?_⟩, rfl⟩
          simp only [failureOf, if_true, loaded, DocumentRoot.ownFailure?]

/-- An error with front matter is one without it, or that of a document that cannot be read. -/
theorem failure_origin (opener : Opener) (results : List SelectionItem) (error : DocumentError)
    (member : error ∈ results.filterMap (failureOf opener true)) :
    error ∈ results.filterMap (failureOf opener false) ∨
      ∃ document ∈ documents results, opener.load document.path = .error (.document error) := by
  obtain ⟨result, within, failed⟩ := List.mem_filterMap.mp member
  cases result with
  | error own =>
      cases failed
      exact Or.inl (List.mem_filterMap.mpr ⟨_, within, rfl⟩)
  | ok document =>
      exact Or.inr ⟨document, (mem_documents results document).mpr within,
        DocumentRoot.eq_of_ownFailure _ error failed⟩

theorem gather_moves (opener : Opener) (results : List SelectionItem) (plain full : Listing)
    (fresh : ∀ document, .ok document ∈ results → document.Fresh opener)
    (plainly : gather (ofItem opener false) results = .ok plain)
    (fully : gather (ofItem opener true) results = .ok full) : Moves opener plain full := by
  obtain ⟨errors, found⟩ := gather_results opener true results full fresh fully
  have reads := gather_reads opener results full fresh fully
  rw [gather_plain] at plainly
  cases plainly
  constructor
  · rw [read_paths opener results reads] at found
    apply (List.map_inj_right fun _ _ => Option.some.inj).mp
    simpa [List.map_map, Function.comp_def] using found
  · intro entry member unread
    obtain ⟨document, listed, rfl⟩ := List.mem_map.mp member
    obtain ⟨error, reported, failed⟩ := unread_reported opener results reads document
      ((mem_documents results document).mp listed) unread
    rw [errors]
    exact ⟨error, reported, failed, failure_path opener document.path error failed⟩
  · rw [errors, failures_plain]
    exact List.filter_sublist.filterMap _
  · intro error member
    rw [errors] at member
    rcases failure_origin opener results error member with plain | ⟨document, listed, failed⟩
    · exact Or.inl plain
    · exact Or.inr ⟨_, List.mem_map_of_mem listed, failed⟩

end Listing

namespace DocumentRoot

open Selection Listing FileTree

/-- What an error below a root tells of its path. -/
inductive Explains (tree : FileTree) (root : Path) (path : Path) : DocumentError → Prop
  | entry (names : List String) (error : DocumentError) (here : path = root.below names)
      (fails : EntryFails tree root names error) : Explains tree root path error
  | document (error : DocumentError) (unread : tree.opener.load path = .error (.document error)) :
      Explains tree root path error

/-- A listing holds each of some results once, in their order, and each error under the path of what
failed. -/
structure Accounts (tree : FileTree) (root : Path) (results : List SelectionItem)
    (listing : Listing) : Prop where
  count : listing.found.length + listing.errors.length = results.length
  complete : (listing.found.map (fun found => some found.path) ++
    listing.errors.map (·.path?)).Perm (results.map resultPath?)
  found_order : (listing.found.map fun found => some found.path).Sublist (results.map resultPath?)
  errors_order : (listing.errors.map (·.path?)).Sublist (results.map resultPath?)
  explained : ∀ error ∈ listing.errors,
    ∃ path, error.path? = some path ∧ Explains tree root path error
  once : (listing.found.map (fun found => some found.path) ++ listing.errors.map (·.path?)).Nodup
  /-- Paths are told apart by what is written for them. -/
  written_once : tree.WellNamed → (listing.found.map (fun found => some found.path.text) ++
    listing.errors.map (·.path?.map Path.text)).Nodup

section

variable (tree : FileTree) (root : DocumentRoot) (query : Query) (given : List PathItem)
variable (gives : root.items tree = .ok given)

include gives

theorem error_explained (error : DocumentError)
    (member : .error error ∈ (ofQuery tree (.tree root) query).items) :
    ∃ path, error.path? = some path ∧ Explains tree root.path path error := by
  obtain ⟨_, spec, _, enumerated⟩ := items_given tree root given gives
  obtain ⟨item, within, yields⟩ := result_yielded tree query given (.tree root) gives _ member
  cases yields with
  | reported _ =>
      rw [enumerated] at within
      obtain ⟨names, fails⟩ := error_of_entry tree spec.verdict? root.path error within
      exact ⟨_, entryFails_path tree root.path names error fails, .entry names error rfl fails⟩
  | failed path _ unread =>
      exact ⟨path, failure_path tree.opener path error unread, .document error unread⟩

theorem failureOf_explained (withMetadata : Bool) (result : SelectionItem) (error : DocumentError)
    (member : result ∈ (ofQuery tree (.tree root) query).items)
    (failed : failureOf tree.opener withMetadata result = some error) :
    ∃ path, error.path? = some path ∧ Explains tree root.path path error := by
  cases result with
  | error own =>
      cases failed
      exact error_explained tree root query given gives error member
  | ok document =>
      cases withMetadata with
      | false => cases failed
      | true =>
          have unread := eq_of_ownFailure _ error failed
          exact ⟨document.path, failure_path tree.opener document.path error unread,
            .document error unread⟩

/-- The results of a selection below a root are about paths that an enumeration meets, in its
order. -/
theorem results_met : ∃ verdict,
    ((ofQuery tree (.tree root) query).items.map resultPath?).Sublist
      ((itemsBelow tree verdict root.path).map itemPath?) := by
  obtain ⟨_, spec, _, enumerated⟩ := items_given tree root given gives
  have order := results_in_order tree query given (.tree root) gives
  rw [enumerated] at order
  exact ⟨spec.verdict?, order⟩

theorem results_nodup : ((ofQuery tree (.tree root) query).items.map resultPath?).Nodup := by
  obtain ⟨verdict, met⟩ := results_met tree root query given gives
  exact (itemsBelow_nodup tree verdict root.path).sublist met

theorem results_texts_nodup (named : tree.WellNamed) :
    (((ofQuery tree (.tree root) query).items.map resultPath?).map (Option.map Path.text)).Nodup := by
  obtain ⟨verdict, met⟩ := results_met tree root query given gives
  exact (itemsBelow_texts_nodup tree verdict root.path named).sublist (met.map _)

theorem gathered_accounts (withMetadata : Bool) (listing : Listing)
    (gathered : gather (ofItem tree.opener withMetadata) (ofQuery tree (.tree root) query).items =
      .ok listing) :
    Accounts tree root.path (ofQuery tree (.tree root) query).items listing := by
  have fresh := selected_fresh tree query given (.tree root) gives
  obtain ⟨errors, found⟩ := gather_results tree.opener withMetadata _ listing fresh gathered
  have complete := gather_paths tree.opener withMetadata _ listing fresh gathered
  constructor
  · have count := complete.length_eq
    simpa using count
  · exact complete
  · rw [found]
    exact List.filter_sublist.map resultPath?
  · rw [errors, failures_paths]
    exact List.filter_sublist.map resultPath?
  · intro error member
    rw [errors] at member
    obtain ⟨result, within, failed⟩ := List.mem_filterMap.mp member
    exact failureOf_explained tree root query given gives withMetadata result error within failed
  · exact complete.nodup_iff.mpr (results_nodup tree root query given gives)
  · intro named
    have texts := results_texts_nodup tree root query given gives named
    rw [← (complete.map (Option.map Path.text)).nodup_iff] at texts
    simpa [List.map_append, List.map_map, Function.comp_def] using texts

end

theorem bracket_named : (treeWith [91]).WellNamed := by
  intro place entry member name within
  have listed : ∀ pair ∈ (treeWith [91]).entries, ∀ name ∈ pair.1,
      name ∈ ["docs", "bad.md", "good.md"] := by decide +kernel
  have usual : ∀ name ∈ ["docs", "bad.md", "good.md"],
      (name ≠ "." ∧ name ≠ "..") ∧ name ≠ "" ∧ '/' ∉ name.toList ∧ hasNul name = false := by
    decide +kernel
  obtain ⟨step, filled, unslashed, askable⟩ := usual name (listed _ member name within)
  exact ⟨step, filled, unslashed, askable⟩

/-- A root whose documents can be enumerated has a listing, with front matter and without it, unless a
document fails in a way that is not its own. Each listing accounts for what was selected, and the two
differ in the documents that cannot be read. -/
theorem listings_account (tree : FileTree) (root : DocumentRoot) (clauses : List Clause)
    (preset : String) (query : Query) (compiled : Query.compile clauses preset = .ok query) :
    let results := (ofQuery tree (.tree root) query).items
    let result := fun withMetadata => (root.list tree clauses preset withMetadata).result
    (∀ breakdown, root.items tree = .error breakdown → ∀ withMetadata,
      result withMetadata = .error (.breakdown breakdown)) ∧
    (∀ given, root.items tree = .ok given → OwnFailuresOnly tree.opener given → ∀ withMetadata,
      ∃ listing, result withMetadata = .ok listing) ∧
    (∀ withMetadata listing, result withMetadata = .ok listing →
      Accounts tree root.path results listing) ∧
    ∀ plain full, result false = .ok plain → result true = .ok full →
      Moves tree.opener plain full := by
  intro results result
  refine ⟨?_, ?_, ?_, ?_⟩
  · intro breakdown fails withMetadata
    exact list_fails tree root clauses preset query compiled withMetadata breakdown fails
  · intro given gives own withMetadata
    exact list_whole tree root clauses preset query compiled given gives own withMetadata
  · intro withMetadata listing listed
    obtain ⟨_, gathered, given, gives⟩ :=
      list_gathered tree root clauses preset query compiled withMetadata listing listed
    exact gathered_accounts tree root query given gives withMetadata listing gathered
  · intro plain full plainly fully
    obtain ⟨_, without, given, gives⟩ :=
      list_gathered tree root clauses preset query compiled false plain plainly
    obtain ⟨_, reading, _⟩ :=
      list_gathered tree root clauses preset query compiled true full fully
    exact gather_moves tree.opener results plain full
      (selected_fresh tree query given (.tree root) gives) without reading

theorem bracket_moves :
    let root : DocumentRoot := { path := ⟨.relative, ["docs"]⟩ }
    let query : Query := ⟨none, []⟩
    let tree := treeWith [91]
    let result := fun withMetadata =>
      (root.list tree [] Query.defaultPreset withMetadata).result
    Query.compile [] Query.defaultPreset = .ok query ∧ tree.WellNamed ∧
      ∃ plain full, result false = .ok plain ∧ result true = .ok full ∧
        Accounts tree root.path (ofQuery tree (.tree root) query).items plain ∧
        Accounts tree root.path (ofQuery tree (.tree root) query).items full ∧
        Moves tree.opener plain full ∧
        plain.found.map (·.path) =
          [⟨.relative, ["docs", "bad.md"]⟩, ⟨.relative, ["docs", "good.md"]⟩] ∧
        full.found.map (·.path) = [⟨.relative, ["docs", "good.md"]⟩] := by
  intro root query tree result
  have compiled : Query.compile [] Query.defaultPreset = .ok query := by rfl
  obtain ⟨_, complete, accounts, moves⟩ :=
    listings_account tree root [] Query.defaultPreset query compiled
  obtain ⟨given, gives, own⟩ := bracket_own
  obtain ⟨plain, plainly⟩ := complete given gives own false
  obtain ⟨full, fully⟩ := complete given gives own true
  have both : (result false).toOption.map (fun listing => listing.found.map (·.path)) =
      some [⟨.relative, ["docs", "bad.md"]⟩, ⟨.relative, ["docs", "good.md"]⟩] := by
    decide +kernel
  have left := (moves plain full plainly fully).found
  rw [show result false = .ok plain from plainly] at both
  rw [show plain.found.map (·.path) = _ from Option.some.inj both] at left
  refine ⟨compiled, bracket_named, plain, full, plainly, fully, accounts false plain plainly,
    accounts true full fully, moves plain full plainly fully, Option.some.inj both, ?_⟩
  rw [left]
  decide +kernel

end DocumentRoot

end DocFinder
