import DocFinder.Proofs.Attempts
import DocFinder.Proofs.Finder.Agreement
import DocFinder.Proofs.FrontMatter.Extraction

namespace DocFinder

open Selection Listing

namespace Reading

def ofLoaded (path : Path) : Except Failure (Option Value) → Except FinderError Reading
  | .ok metadata => (jsonOf metadata).map fun value => ⟨path, value, metadata.isSome⟩
  | .error (.document error) => .error (.document error)
  | .error (.breakdown breakdown) => .error (.breakdown breakdown)

theorem ofLoaded_iff (path : Path) (loaded : Except Failure (Option Value)) (reading : Reading) :
    ofLoaded path loaded = .ok reading ↔ ∃ metadata value, loaded = .ok metadata ∧
      jsonOf metadata = .ok value ∧ reading = ⟨path, value, metadata.isSome⟩ := by
  cases loaded with
  | error failure => cases failure <;> exact ⟨nofun, fun ⟨_, _, same, _⟩ => nomatch same⟩
  | ok metadata =>
      rw [ofLoaded, map_ok_iff]
      constructor
      · rintro ⟨value, written, rfl⟩
        exact ⟨metadata, value, rfl, written, rfl⟩
      · rintro ⟨_, value, same, written, rfl⟩
        cases same
        exact ⟨value, written, rfl⟩

/-- What a reading says of the bytes of its file. -/
structure Tells (reading : Reading) (bytes : List UInt8) : Prop where
  present : reading.hasMetadata = true ↔ FrontMatter.HasBlock bytes
  absent : reading.hasMetadata = false ↔ reading.metadata = .null
  /-- A block that holds no value is an empty map, and there. -/
  empty : ∀ block text, FrontMatter.IsBlock bytes block → Text.Utf8.decode block = .ok text →
    Yaml.load FrontMatter.schema text = .ok .null →
      reading.metadata = .map [] ∧ reading.hasMetadata = true

theorem tells_of_extracted (bytes : List UInt8) (path : Path) (metadata : Option Value)
    (value : Value) (told : FrontMatter.Tells bytes metadata)
    (written : jsonOf metadata = .ok value) : Tells ⟨path, value, metadata.isSome⟩ bytes := by
  have json : (metadata.getD .null).json? = some value := by
    unfold jsonOf at written
    split at written
    · rename_i other same
      cases written
      exact same
    · cases written
  refine ⟨told.present, ?_, ?_⟩
  · change metadata.isSome = false ↔ value = .null
    cases metadata with
    | none =>
        cases json
        exact ⟨fun _ => rfl, fun _ => rfl⟩
    | some own =>
        refine ⟨nofun, fun null => ?_⟩
        rw [null, Option.getD_some, Value.json_null_iff] at json
        exact absurd (congrArg some json) told.filled
  · intro block text first decoded nothing
    obtain ⟨own, rfl, parsed⟩ := told.parsed block first
    rw [FrontMatter.parse_empty block text decoded nothing] at parsed
    cases parsed
    cases json
    exact ⟨rfl, rfl⟩

end Reading

theorem load_told (tree : FileTree) (path : Path) (metadata : Option Value)
    (loaded : tree.opener.load path = .ok metadata) :
    ∃ bytes, tree.content path = .ok bytes ∧ FrontMatter.Tells bytes metadata := by
  unfold Opener.load FileTree.opener at loaded
  split at loaded
  · cases loaded
  · cases found : tree.content path with
    | error fault =>
        rw [found] at loaded
        cases loaded
    | ok bytes =>
        rw [found] at loaded
        simp only [Document.read] at loaded
        cases extracted :
            (FrontMatter.extract (.ofBytes bytes) FrontMatter.chunkSize).outcome with
        | error problem =>
            rw [extracted] at loaded
            cases loaded
        | ok own =>
            rw [extracted] at loaded
            cases loaded
            exact ⟨bytes, rfl, FrontMatter.extract_tells bytes _ (by decide) _ extracted⟩

namespace Listing

theorem gather_single {α : Type} (entry : α → Except FinderError Listing) (item : α) :
    gather entry [item] = entry item := by
  rw [gather]
  cases entry item with
  | error error => rfl
  | ok listing =>
      change Except.ok (append listing {}) = _
      simp [append]

theorem gather_alone (opener : Opener) (withMetadata : Bool) (results : List SelectionItem)
    (one : Match) (fresh : ∀ document, .ok document ∈ results → document.Fresh opener)
    (gathered : gather (ofItem opener withMetadata) results = .ok ⟨[one], []⟩) :
    ∃ document, results = [.ok document] := by
  have paths := gather_paths opener withMetadata results _ fresh gathered
  obtain ⟨result, rfl⟩ : ∃ result, results = [result] :=
    List.length_eq_one_iff.mp (by simpa using paths.length_eq.symm)
  cases result with
  | error error =>
      rw [gather_single] at gathered
      cases gathered
  | ok document => exact ⟨document, rfl⟩

end Listing

namespace DocumentRoot

section

variable (tree : FileTree) (root : DocumentRoot) (clauses : List Clause) (preset : String)
variable (query : Query) (compiled : Query.compile clauses preset = .ok query)

theorem chosen_iff (document : Document) :
    (root.selectOne tree query).1 = .ok (.ok document) ↔
      (ofQuery tree (.tree root) query).items = [.ok document] ∧
        (ofQuery tree (.tree root) query).breakdown = none := by
  rw [selectOne_outcome]
  constructor
  · exact chosen_alone (ofQuery tree (.tree root) query) document
  · rintro ⟨alone, whole⟩
    have outcome := outcome_whole (ofQuery tree (.tree root) query) whole
    rw [alone] at outcome
    exact outcome

theorem given_of_chosen (outcome : Except SelectionError Document)
    (reached : (root.selectOne tree query).1 = .ok outcome) :
    ∃ given, root.items tree = .ok given := by
  cases enumerated : root.items tree with
  | ok given => exact ⟨given, rfl⟩
  | error breakdown =>
      rw [selectOne_fails tree root query breakdown enumerated] at reached
      cases reached

theorem chosen_fresh (document : Document)
    (chosen : (root.selectOne tree query).1 = .ok (.ok document)) :
    document.Fresh tree.opener := by
  obtain ⟨given, gives⟩ := given_of_chosen tree root query _ chosen
  obtain ⟨alone, _⟩ := (chosen_iff tree root query document).mp chosen
  apply selected_fresh tree query given (.tree root) gives
  rw [alone]
  exact List.mem_singleton_self _

include compiled

theorem read_result :
    (root.readMetadata tree clauses preset).result =
      match (root.selectOne tree query).1 with
      | .error breakdown => .error (.breakdown breakdown)
      | .ok (.error error) => .error (.unselected error)
      | .ok (.ok document) => Reading.ofLoaded document.path (tree.opener.load document.path) := by
  cases chosen : (root.selectOne tree query).1 with
  | error breakdown => simp only [readMetadata, compiled, chosen]
  | ok outcome =>
      cases outcome with
      | error error => simp only [readMetadata, compiled, chosen]
      | ok document =>
          have read : (document.metadata tree.opener).result = tree.opener.load document.path :=
            chosen_fresh tree root query document chosen
          simp only [readMetadata, compiled, chosen, read]
          cases tree.opener.load document.path with
          | ok metadata => rfl
          | error failure => cases failure <;> rfl

theorem list_chosen (withMetadata : Bool) (document : Document)
    (chosen : (root.selectOne tree query).1 = .ok (.ok document)) :
    (root.list tree clauses preset withMetadata).result =
      ofItem tree.opener withMetadata (.ok document) := by
  obtain ⟨alone, whole⟩ := (chosen_iff tree root query document).mp chosen
  rw [list_result tree root clauses preset query compiled, alone, whole, gather_single]
  cases ofItem tree.opener withMetadata (.ok document) <;> rfl

theorem chosen_of_list (withMetadata : Bool) (one : Match)
    (listed : (root.list tree clauses preset withMetadata).result = .ok ⟨[one], []⟩) :
    ∃ document, (root.selectOne tree query).1 = .ok (.ok document) ∧
      ofItem tree.opener withMetadata (.ok document) = .ok ⟨[one], []⟩ := by
  obtain ⟨whole, gathered, given, gives⟩ :=
    list_gathered tree root clauses preset query compiled withMetadata _ listed
  obtain ⟨document, alone⟩ := gather_alone tree.opener withMetadata _ one
    (selected_fresh tree query given (.tree root) gives) gathered
  have chosen := (chosen_iff tree root query document).mpr ⟨alone, whole⟩
  rw [list_chosen tree root clauses preset query compiled withMetadata document chosen] at listed
  exact ⟨document, chosen, listed⟩

theorem read_iff (reading : Reading) :
    (root.readMetadata tree clauses preset).result = .ok reading ↔
      ∃ document metadata value, (root.selectOne tree query).1 = .ok (.ok document) ∧
        tree.opener.load document.path = .ok metadata ∧ jsonOf metadata = .ok value ∧
        reading = ⟨document.path, value, metadata.isSome⟩ := by
  rw [read_result tree root clauses preset query compiled]
  constructor
  · intro read
    cases chosen : (root.selectOne tree query).1 with
    | error breakdown =>
        rw [chosen] at read
        cases read
    | ok outcome =>
        cases outcome with
        | error error =>
            rw [chosen] at read
            cases read
        | ok document =>
            rw [chosen] at read
            obtain ⟨metadata, value, loaded, written, same⟩ :=
              (Reading.ofLoaded_iff document.path _ reading).mp read
            exact ⟨document, metadata, value, rfl, loaded, written, same⟩
  · rintro ⟨document, metadata, value, chosen, loaded, written, same⟩
    rw [chosen]
    exact (Reading.ofLoaded_iff document.path _ reading).mpr
      ⟨metadata, value, loaded, written, same⟩

theorem read_iff_listed (path : Path) (value : Value) :
    (∃ hasMetadata,
        (root.readMetadata tree clauses preset).result = .ok ⟨path, value, hasMetadata⟩) ↔
      (root.list tree clauses preset true).result =
        .ok ⟨[{ path, metadata := some value }], []⟩ := by
  constructor
  · rintro ⟨hasMetadata, read⟩
    obtain ⟨document, metadata, own, chosen, loaded, written, same⟩ :=
      (read_iff tree root clauses preset query compiled _).mp read
    cases same
    rw [list_chosen tree root clauses preset query compiled true document chosen,
      ofItem_fresh tree.opener document (chosen_fresh tree root query document chosen), loaded]
    simp only [ofAccepted, if_true, written]
    rfl
  · intro listed
    obtain ⟨document, chosen, entry⟩ :=
      chosen_of_list tree root clauses preset query compiled true _ listed
    rw [ofItem_fresh tree.opener document (chosen_fresh tree root query document chosen)] at entry
    cases loaded : tree.opener.load document.path with
    | error failure =>
        rw [loaded] at entry
        cases failure <;> cases entry
    | ok metadata =>
        simp only [loaded, ofAccepted, if_true] at entry
        cases written : jsonOf metadata with
        | error error =>
            rw [written] at entry
            cases entry
        | ok own =>
            rw [written] at entry
            cases entry
            exact ⟨metadata.isSome, (read_iff tree root clauses preset query compiled _).mpr
              ⟨document, metadata, value, chosen, loaded, written, rfl⟩⟩

theorem unselected_iff (error : SelectionError) :
    (root.readMetadata tree clauses preset).result = .error (.unselected error) ↔
      (root.selectOne tree query).1 = .ok (.error error) := by
  rw [read_result tree root clauses preset query compiled]
  constructor
  · intro read
    cases chosen : (root.selectOne tree query).1 with
    | error breakdown =>
        rw [chosen] at read
        cases read
    | ok outcome =>
        rw [chosen] at read
        cases outcome with
        | error own =>
            cases read
            rfl
        | ok document =>
            cases loaded : tree.opener.load document.path with
            | error failure =>
                simp only [loaded] at read
                cases failure <;> cases read
            | ok metadata =>
                simp only [loaded, Reading.ofLoaded, jsonOf] at read
                split at read <;> cases read
  · intro chosen
    rw [chosen]

/-- Where documents fail in their own ways only, a reading fails for the selection or for the one
document. -/
theorem read_whole (given : List PathItem) (gives : root.items tree = .ok given)
    (own : OwnFailuresOnly tree.opener given) :
    (∃ reading, (root.readMetadata tree clauses preset).result = .ok reading) ∨
      (∃ error, (root.selectOne tree query).1 = .ok (.error error)) ∨
      ∃ document error, (root.selectOne tree query).1 = .ok (.ok document) ∧
        tree.opener.load document.path = .error (.document error) := by
  obtain ⟨listing, listed⟩ :=
    list_whole tree root clauses preset query compiled given gives own false
  obtain ⟨whole, _⟩ := list_gathered tree root clauses preset query compiled false listing listed
  obtain ⟨outcome, reached, _⟩ := outcome_kind _ whole
  have selected : (root.selectOne tree query).1 = .ok outcome :=
    (selectOne_outcome tree root query).trans reached
  cases outcome with
  | error error => exact Or.inr (Or.inl ⟨error, selected⟩)
  | ok document =>
      obtain ⟨alone, _⟩ := (chosen_iff tree root query document).mp selected
      -- The chosen document is one of those that fail in their own ways only.
      obtain ⟨item, member, yields⟩ := result_yielded tree query given (.tree root) gives
        (.ok document) (by rw [alone]; exact List.mem_singleton_self _)
      obtain rfl : item = .ok document.path := by
        cases yields
        rfl
      cases loaded : tree.opener.load document.path with
      | error failure =>
          cases failure with
          | breakdown breakdown => exact absurd loaded (own.reading _ breakdown member)
          | document error => exact Or.inr (Or.inr ⟨document, error, selected, loaded⟩)
      | ok metadata =>
          obtain ⟨value, written⟩ :=
            Option.ne_none_iff_exists'.mp (own.writing _ metadata member loaded)
          exact Or.inl ⟨_, (read_iff tree root clauses preset query compiled _).mpr
            ⟨document, metadata, value, selected, loaded, by rw [jsonOf, written], rfl⟩⟩

end

/-- The front matter of the document that a query means is that of the only match of the listing, and
it is what the bytes of the file say. Without a single document the reading fails as the selection
does; a single document that cannot be read fails under its own path. -/
theorem reading_agrees_with_listing (tree : FileTree) (root : DocumentRoot) (clauses : List Clause)
    (preset : String) (query : Query) (compiled : Query.compile clauses preset = .ok query) :
    let read := (root.readMetadata tree clauses preset).result
    let listed := fun withMetadata => (root.list tree clauses preset withMetadata).result
    let outcome := (root.selectOne tree query).1
    (∀ path value, (∃ hasMetadata, read = .ok ⟨path, value, hasMetadata⟩) ↔
      listed true = .ok ⟨[{ path, metadata := some value }], []⟩) ∧
    (∀ reading, read = .ok reading →
      ∃ bytes, tree.content reading.path = .ok bytes ∧ reading.Tells bytes) ∧
    (∀ error, read = .error (.unselected error) ↔ outcome = .ok (.error error)) ∧
    (∀ path error, listed false = .ok ⟨[{ path }], []⟩ →
      tree.opener.load path = .error (.document error) →
        read = .error (.document error) ∧ error.path? = some path) ∧
    (∀ breakdown, root.items tree = .error breakdown →
      read = .error (.breakdown breakdown) ∧
        ∀ withMetadata, listed withMetadata = .error (.breakdown breakdown)) ∧
    ∀ given, root.items tree = .ok given → OwnFailuresOnly tree.opener given →
      (∃ reading, read = .ok reading) ∨ (∃ error, read = .error (.unselected error)) ∨
        ∃ path error, listed false = .ok ⟨[{ path }], []⟩ ∧
          tree.opener.load path = .error (.document error) := by
  intro read listed outcome
  refine ⟨read_iff_listed tree root clauses preset query compiled, ?_,
    unselected_iff tree root clauses preset query compiled, ?_, ?_, ?_⟩
  · intro reading answer
    obtain ⟨document, metadata, value, _, loaded, written, rfl⟩ :=
      (read_iff tree root clauses preset query compiled reading).mp answer
    obtain ⟨bytes, content, told⟩ := load_told tree document.path metadata loaded
    exact ⟨bytes, content,
      Reading.tells_of_extracted bytes document.path metadata value told written⟩
  · intro path error single unread
    obtain ⟨document, chosen, entry⟩ :=
      chosen_of_list tree root clauses preset query compiled false _ single
    cases entry
    have failed : read = .error (.document error) := by
      simp only [read, read_result tree root clauses preset query compiled, chosen, unread]
      rfl
    exact ⟨failed, failure_path tree.opener document.path error unread⟩
  · intro breakdown fails
    have broken : read = .error (.breakdown breakdown) := by
      simp only [read, read_result tree root clauses preset query compiled,
        selectOne_fails tree root query breakdown fails]
    exact ⟨broken, fun withMetadata =>
      list_fails tree root clauses preset query compiled withMetadata breakdown fails⟩
  · intro given gives own
    rcases read_whole tree root clauses preset query compiled given gives own with
      whole | ⟨error, failed⟩ | ⟨document, error, chosen, unread⟩
    · exact Or.inl whole
    · exact Or.inr (Or.inl ⟨error,
        (unselected_iff tree root clauses preset query compiled error).mpr failed⟩)
    · exact Or.inr (Or.inr ⟨document.path, error,
        list_chosen tree root clauses preset query compiled false document chosen, unread⟩)

theorem empty_block_read :
    let root : DocumentRoot := { path := ⟨.relative, ["docs"]⟩ }
    let clauses : List Clause := [.token "bad"]
    let query : Query := ⟨some "bad", []⟩
    let tree := treeWith []
    let bad : Path := ⟨.relative, ["docs", "bad.md"]⟩
    Query.compile clauses Query.defaultPreset = .ok query ∧
      (root.readMetadata tree clauses Query.defaultPreset).result = .ok ⟨bad, .map [], true⟩ ∧
      (root.list tree clauses Query.defaultPreset true).result =
        .ok ⟨[{ path := bad, metadata := some (.map []) }], []⟩ := by
  intro root clauses query tree bad
  have compiled : Query.compile clauses Query.defaultPreset = .ok query := by rfl
  obtain ⟨listed, told, _⟩ :=
    reading_agrees_with_listing tree root clauses Query.defaultPreset query compiled
  have chosen : (root.readMetadata tree clauses Query.defaultPreset).result.toOption.map
      (fun reading => (reading.path, reading.hasMetadata)) = some (bad, true) := by
    decide +kernel
  cases read : (root.readMetadata tree clauses Query.defaultPreset).result with
  | error error =>
      rw [read] at chosen
      cases chosen
  | ok reading =>
      rw [read] at chosen
      obtain ⟨path, value, hasMetadata⟩ := reading
      obtain ⟨rfl, rfl⟩ := Prod.mk.inj (Option.some.inj chosen)
      obtain ⟨bytes, content, tells⟩ := told _ read
      have file : tree.content bad = .ok [45, 45, 45, 10, 10, 45, 45, 45, 10] := by rfl
      change tree.content bad = .ok bytes at content
      rw [file] at content
      cases content
      have first : FrontMatter.IsBlock [45, 45, 45, 10, 10, 45, 45, 45, 10] [] :=
        ⟨⟨[], by decide⟩, nofun⟩
      have nothing : Yaml.load FrontMatter.schema [] = .ok .null := by rfl
      obtain ⟨empty, _⟩ := tells.empty [] [] first rfl nothing
      cases empty
      exact ⟨compiled, rfl, (listed bad (.map [])).mp ⟨true, read⟩⟩

end DocumentRoot

end DocFinder
