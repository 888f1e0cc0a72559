import DocFinder.Proofs.Finder.Reading
import DocFinder.Proofs.Value.Fields
import DocFinder.Proofs.Yaml.Construction

namespace DocFinder

theorem FrontMatter.parse_keysDiffer (block : List UInt8) (value : Value)
    (parsed : parse block = .ok value) : value.KeysDiffer := by
  unfold parse at parsed
  split at parsed
  · cases parsed
  · rename_i text _
    split at parsed
    · cases parsed
    · cases parsed
    · rename_i own loaded
      cases parsed
      have differ := Yaml.load_keysDiffer schema text own loaded
      cases own with
      | null => exact (Value.eachMap_map_iff []).mpr ⟨List.Pairwise.nil, nofun⟩
      | _ => exact differ

theorem metadata_keysDiffer (tree : FileTree) (path : Path) (metadata : Option Value)
    (loaded : tree.opener.load path = .ok metadata) : (metadata.getD .null).KeysDiffer := by
  obtain ⟨bytes, _, told⟩ := load_told tree path metadata loaded
  cases metadata with
  | none => exact Value.eachMap_leaf _ rfl nofun
  | some own =>
      obtain ⟨block, first⟩ := (FrontMatter.hasBlock_iff_first bytes).mp (told.present.mp rfl)
      obtain ⟨value, same, parsed⟩ := told.parsed block first
      cases same
      exact FrontMatter.parse_keysDiffer block own parsed

theorem jsonOf_iff (metadata : Option Value) (form : Value) :
    jsonOf metadata = .ok form ↔ (metadata.getD .null).HasForm form := by
  unfold jsonOf Value.HasForm
  cases (metadata.getD .null).json? <;> simp

namespace Listing

theorem found_of_item {α : Type} (entry : α → Except FinderError Listing) (items : List α)
    (listing : Listing) (gathered : gather entry items = .ok listing) (found : Match)
    (member : found ∈ listing.found) :
    ∃ item ∈ items, ∃ one, entry item = .ok one ∧ found ∈ one.found := by
  induction items generalizing listing with
  | nil =>
      cases gathered
      cases member
  | cons item rest ih =>
      obtain ⟨front, one, back, nothing, here, later, rfl⟩ :=
        gather_parts entry [] rest item listing gathered
      cases nothing
      rcases List.mem_append.mp member with none | member
      · cases none
      · rcases List.mem_append.mp member with first | second
        · exact ⟨item, List.mem_cons_self, one, here, first⟩
        · obtain ⟨other, inside, added⟩ := ih back later second
          exact ⟨other, List.mem_cons_of_mem item inside, added⟩

end Listing

namespace DocumentRoot

open Selection Listing

section

variable (tree : FileTree) (root : DocumentRoot) (clauses : List Clause) (preset : String)

theorem carried_of_written (path : Path) (metadata : Option Value) (form : Value)
    (loaded : tree.opener.load path = .ok metadata) (written : jsonOf metadata = .ok form) :
    Value.Carried (metadata.getD .null) form :=
  Value.carried_of_form _ form (metadata_keysDiffer tree path metadata loaded)
    ((jsonOf_iff metadata form).mp written)

theorem found_carried (listing : Listing)
    (listed : (root.list tree clauses preset true).result = .ok listing) (found : Match)
    (member : found ∈ listing.found) :
    ∃ metadata form, tree.opener.load found.path = .ok metadata ∧ found.metadata = some form ∧
      Value.Carried (metadata.getD .null) form := by
  cases compiled : Query.compile clauses preset with
  | error error =>
      rw [list, compiled] at listed
      cases listed
  | ok query =>
      obtain ⟨_, gathered, given, gives⟩ :=
        list_gathered tree root clauses preset query compiled true listing listed
      obtain ⟨item, inside, one, added, stands⟩ := found_of_item _ _ listing gathered found member
      cases item with
      | error error =>
          cases added
          cases stands
      | ok document =>
          have fresh := selected_fresh tree query given (.tree root) gives document inside
          rw [ofItem_fresh tree.opener document fresh] at added
          cases loaded : tree.opener.load document.path with
          | error failure =>
              rw [loaded] at added
              cases failure <;> cases added
              cases stands
          | ok metadata =>
              simp only [loaded, ofAccepted, if_true] at added
              obtain ⟨form, written, rfl⟩ := (map_ok_iff _ _ _).mp added
              obtain rfl := List.mem_singleton.mp stands
              exact ⟨metadata, form, loaded, rfl,
                carried_of_written tree document.path metadata form loaded written⟩

theorem reading_carried (reading : Reading)
    (read : (root.readMetadata tree clauses preset).result = .ok reading) :
    ∃ metadata, tree.opener.load reading.path = .ok metadata ∧
      Value.Carried (metadata.getD .null) reading.metadata := by
  cases compiled : Query.compile clauses preset with
  | error error =>
      rw [readMetadata, compiled] at read
      cases read
  | ok query =>
      obtain ⟨document, metadata, form, _, loaded, written, rfl⟩ :=
        (read_iff tree root clauses preset query compiled reading).mp read
      exact ⟨metadata, loaded, carried_of_written tree document.path metadata form loaded written⟩

end

/-- What is listed and read of front matter is the form of its value. There is one if and only if the
keys can be written. No field is missing in it if and only if nowhere two keys of one map have the
same text; of entries whose keys have the same text, the last is left. Keys that are all texts lose
nothing. -/
theorem front_matter_fields (tree : FileTree) (root : DocumentRoot) (clauses : List Clause)
    (preset : String) :
    (∀ block value, FrontMatter.parse block = .ok value →
      ((∃ form, value.HasForm form) ↔ value.KeysWritable) ∧
        ∀ form, value.HasForm form → Value.Carried value form) ∧
    (∀ listing, (root.list tree clauses preset true).result = .ok listing →
      ∀ found ∈ listing.found, ∃ metadata form, tree.opener.load found.path = .ok metadata ∧
        found.metadata = some form ∧ Value.Carried (metadata.getD .null) form) ∧
    ∀ reading, (root.readMetadata tree clauses preset).result = .ok reading →
      ∃ metadata, tree.opener.load reading.path = .ok metadata ∧
        Value.Carried (metadata.getD .null) reading.metadata := by
  refine ⟨?_, found_carried tree root clauses preset, reading_carried tree root clauses preset⟩
  intro block value parsed
  have differ := FrontMatter.parse_keysDiffer block value parsed
  refine ⟨?_, fun form => Value.carried_of_form value form differ⟩
  rw [← Value.json_isSome_iff, Option.isSome_iff_exists]
  rfl

def entryCount : Value → Nat
  | .map entries => entries.length
  | _ => 0

def fieldCounts (listing : Listing) : List (Path × Option Nat) :=
  listing.found.map fun found => (found.path, found.metadata.map entryCount)

theorem lost_of_counts (value form : Value) (fewer : entryCount form < entryCount value) :
    ¬ value.LosesNothing form := by
  intro whole
  cases value with
  | map entries =>
      obtain ⟨fields, originals, here, order, each⟩ := whole [] entries rfl
      cases here
      have width : fields.length = entries.length := each.length_eq.symm.trans order.length_eq
      exact absurd width (Nat.ne_of_lt fewer)
  | _ => cases fewer

theorem other_digits_kept :
    let tree := treeWith [49, 58, 32, 97, 10, 34, 50, 34, 58, 32, 98]
    let root : DocumentRoot := { path := ⟨.relative, ["docs"]⟩ }
    let clauses : List Clause := [.token "bad"]
    ∃ reading metadata, (root.readMetadata tree clauses Query.defaultPreset).result = .ok reading ∧
      tree.opener.load reading.path = .ok metadata ∧ entryCount reading.metadata = 2 ∧
        Value.Carried (metadata.getD .null) reading.metadata := by
  intro tree root clauses
  have counted : (root.readMetadata tree clauses Query.defaultPreset).result.toOption.map
      (fun reading => entryCount reading.metadata) = some 2 := by decide +kernel
  obtain ⟨_, _, read⟩ := front_matter_fields tree root clauses Query.defaultPreset
  cases answer : (root.readMetadata tree clauses Query.defaultPreset).result with
  | error error =>
      rw [answer] at counted
      cases counted
  | ok reading =>
      rw [answer] at counted
      obtain ⟨metadata, loaded, carried⟩ := read reading answer
      exact ⟨reading, metadata, rfl, loaded, Option.some.inj counted, carried⟩

/-- A number and the text of the same digits are two keys: `1: a` and `"1": b`. Only one field of them
is listed. -/
theorem same_digits_lost :
    let tree := treeWith [49, 58, 32, 97, 10, 34, 49, 34, 58, 32, 98]
    let root : DocumentRoot := { path := ⟨.relative, ["docs"]⟩ }
    let bad : Path := ⟨.relative, ["docs", "bad.md"]⟩
    ∃ listing found metadata form, (root.list tree [] Query.defaultPreset true).result = .ok listing ∧
      found ∈ listing.found ∧ found.path = bad ∧ found.metadata = some form ∧
        tree.opener.load bad = .ok metadata ∧ (metadata.getD .null).HasForm form ∧
          ¬ (metadata.getD .null).LosesNothing form := by
  intro tree root bad
  have listed : (root.list tree [] Query.defaultPreset true).result.toOption.map fieldCounts =
      some [(bad, some 1), (⟨.relative, ["docs", "good.md"]⟩, some 1)] := by decide +kernel
  have loaded : (tree.opener.load bad).toOption.map (fun metadata =>
      entryCount (metadata.getD .null)) = some 2 := by decide +kernel
  cases answer : (root.list tree [] Query.defaultPreset true).result with
  | error error =>
      rw [answer] at listed
      cases listed
  | ok listing =>
      rw [answer] at listed
      have counts : fieldCounts listing = _ := Option.some.inj listed
      obtain ⟨found, member, same⟩ : ∃ found ∈ listing.found,
          (found.path, found.metadata.map entryCount) = (bad, some 1) := by
        apply List.mem_map.mp
        change _ ∈ fieldCounts listing
        rw [counts]
        exact List.mem_cons_self
      obtain ⟨path, single⟩ := Prod.mk.inj same
      obtain ⟨metadata, form, own, written, carried⟩ :=
        found_carried tree root [] Query.defaultPreset listing answer found member
      rw [path] at own
      rw [own] at loaded
      rw [written] at single
      refine ⟨listing, found, metadata, form, rfl, member, path, written, own, carried.formed, ?_⟩
      apply lost_of_counts
      have before : entryCount (metadata.getD .null) = 2 := Option.some.inj loaded
      have after : entryCount form = 1 := Option.some.inj single
      omega

end DocumentRoot

end DocFinder
