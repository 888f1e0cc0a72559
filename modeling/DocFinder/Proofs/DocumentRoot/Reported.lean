import DocFinder.Proofs.DocumentRoot.Distinct
import DocFinder.Proofs.FileTree.Names

namespace DocFinder

namespace FileTree

/-- Why an entry below a root is reported instead of being entered or taken for a document. -/
inductive EntryFails (tree : FileTree) (root : Path) (names : List String) : DocumentError → Prop
  | unknown (fault : LookupFault) (written : String)
      (looked : tree.lookup (root.below names) = .error fault) :
      EntryFails tree root names (.unknownState (root.below names) (fault.about written))
  | loop (place : Place) (k : Nat) (within : k < names.length)
      (above : tree.directoryAt? (root.below (names.take k)) = some place)
      (here : tree.directoryAt? (root.below names) = some place) :
      EntryFails tree root names (.loop (root.below names))
  | unlisted (place : Place) (looked : tree.lookup (root.below names) = .ok place)
      (error) (refused : tree.listFault? place (root.below names).text = some error) :
      EntryFails tree root names (.unlisted (root.below names) error)

theorem shape_unknown (tree : FileTree) (place : Place) (path : Path) (written : String)
    (error : FrontMatter.SystemError) (shape : tree.shape place path written = .unknown error) :
    ∃ fault, tree.lookup path = .error fault ∧ error = fault.about written := by
  unfold FileTree.shape at shape
  split at shape
  · cases shape
  · split at shape
    · split at shape <;> cases shape
    · cases shape
    · rename_i fault _ looked
      cases shape
      exact ⟨fault, looked, rfl⟩
  · cases shape

theorem found_failure (tree : FileTree) (verdict : Verdict) (root : Path) (above : List Place)
    (names : List String) (item : PathItem) (found : Found tree verdict root above names item)
    (error : DocumentError) (failed : item = .error error)
    (way : tree.OnTheWay root names above) : ∃ rest, EntryFails tree root (names ++ rest) error := by
  induction found with
  | lost above names fault looked =>
      cases failed
      exact ⟨[], by simpa using .unknown fault _ looked⟩
  | again above names place looked seen =>
      cases failed
      obtain ⟨k, within, higher⟩ := (way place).mp seen
      have inside := ((tree.directoryAt_iff _ _).mp higher).2
      have here := (tree.directoryAt_iff (root.below names) place).mpr ⟨looked, inside⟩
      exact ⟨[], by simpa using .loop place k within higher here⟩
  | unlisted above names place looked fresh error refused =>
      cases failed
      exact ⟨[], by simpa using .unlisted place looked error refused⟩
  | unknown above names place name error enters member shape kept =>
      cases failed
      obtain ⟨fault, looked, rfl⟩ := shape_unknown tree _ _ _ _ shape
      exact ⟨[name], .unknown fault _ looked⟩
  | file => cases failed
  | under above names place name item enters member shape kept further ih =>
      obtain ⟨rest, fails⟩ :=
        ih failed (onTheWay_step tree root above names place name enters way)
      rw [List.append_assoc, List.singleton_append] at fails
      exact ⟨name :: rest, fails⟩

theorem entryFails_path (tree : FileTree) (root : Path) (names : List String)
    (error : DocumentError) (fails : EntryFails tree root names error) :
    error.path? = some (root.below names) := by
  cases fails <;> rfl

end FileTree

namespace DocumentRoot

open FileTree

variable (tree : FileTree) (verdict : Verdict) (root : Path)

theorem error_of_entry (error : DocumentError) (reported : .error error ∈ itemsBelow tree verdict root) :
    ∃ names, EntryFails tree root names error := by
  rw [itemsBelow, List.mem_filter, mem_walk_iff] at reported
  have top : tree.OnTheWay root [] [] := by
    intro place
    simp
  exact found_failure tree verdict root [] [] _ reported.1 error rfl top

section

variable (named : tree.WellNamed)

include named

theorem itemsBelow_names (item : PathItem) (member : item ∈ itemsBelow tree verdict root) :
    ∃ names, itemPath? item = some (root.below names) ∧ ∀ name ∈ names, IsEntryName name := by
  rw [itemsBelow, List.mem_filter, mem_walk_iff] at member
  obtain ⟨names, path, steps⟩ := found_below tree verdict root [] [] item member.1
  refine ⟨names, path, fun name own => ?_⟩
  obtain ⟨place, stands⟩ := steps name own
  exact tree.entry_name named place name stands

theorem itemsBelow_texts_nodup :
    (((itemsBelow tree verdict root).map itemPath?).map (Option.map Path.text)).Nodup := by
  refine List.Nodup.map_on ?_ (itemsBelow_nodup tree verdict root)
  intro path first other second same
  obtain ⟨item, one, rfl⟩ := List.mem_map.mp first
  obtain ⟨another, two, rfl⟩ := List.mem_map.mp second
  obtain ⟨names, here, entry_names⟩ := itemsBelow_names tree verdict root named item one
  obtain ⟨others, there, other_names⟩ := itemsBelow_names tree verdict root named another two
  rw [here, there, Option.map_some, Option.map_some, Option.some.injEq] at same
  rw [here, there, text_below_injective entry_names root others other_names same]

theorem itemsBelow_askable (plain : root.hasNul = false) (path : Path)
    (member : .ok path ∈ itemsBelow tree verdict root) : path.hasNul = false := by
  obtain ⟨names, same, entry_names⟩ := itemsBelow_names tree verdict root named _ member
  obtain rfl : path = root.below names := Option.some.inj same
  have own : names.any DocFinder.hasNul = false :=
    List.any_eq_false.mpr fun name stands => by simpa using (entry_names name stands).askable
  simp only [Path.hasNul, Path.below, List.any_append, Bool.or_eq_false_iff]
  exact ⟨plain, own⟩

end

end DocumentRoot

end DocFinder
