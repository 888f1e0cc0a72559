import DocFinder.Proofs.Finder.Reading
import DocFinder.Proofs.Yaml.Mapping
import DocFinder.Proofs.Yaml.Ordering
import DocFinder.Proofs.Yaml.Resolution

namespace DocFinder

namespace FrontMatter

def HasGraph (bytes : List UInt8) (graph : Yaml.Graph) (root : Nat) : Prop :=
  ∃ block text, IsBlock bytes block ∧ Text.Utf8.decode block = .ok text ∧
    Yaml.Graph.read schema text = .ok (some (graph, root))

/-- The front matter of a file has a plain scalar under a key. -/
def Assigns (bytes : List UInt8) (key : String) (scalar : List Char) : Prop :=
  ∃ graph root n, HasGraph bytes graph root ∧ graph.Maps root key n ∧
    graph[n]? = some (Yaml.Node.mk (schema.resolve scalar) (.scalar (Sign.ofChars scalar)))

/-- The front matter of a file is a mapping of scalars that can be read. -/
def IsFlat (bytes : List UInt8) : Prop :=
  ∃ graph root, HasGraph bytes graph root ∧ graph.Flat root

theorem load_of_graph (text : List Char) (graph : Yaml.Graph) (root : Nat)
    (read : Yaml.Graph.read schema text = .ok (some (graph, root))) :
    Yaml.load schema text = graph.value root := by
  rw [Yaml.load, read]
  rfl

theorem parse_of_graph (block : List UInt8) (text : List Char) (graph : Yaml.Graph) (root : Nat)
    (decoded : Text.Utf8.decode block = .ok text)
    (read : Yaml.Graph.read schema text = .ok (some (graph, root))) :
    parse block =
      match graph.value root with
      | .error .malformed => .error .malformed
      | .error fault => .error (.unconvertible fault)
      | .ok value => .ok (orEmpty value) := by
  unfold parse
  rewrite [decoded, ← load_of_graph text graph root read]
  rfl

theorem field_of_assigned (bytes : List UInt8) (metadata : Option Value) (told : Tells bytes metadata)
    (key : String) (scalar : List Char) (assigned : Assigns bytes key scalar)
    (plain : schema.resolve scalar ≠ .value)
    (single : (schema.resolve scalar).isCollection = false) :
    ∃ n bare, (schema.resolve scalar).read (Sign.ofChars scalar) = .ok bare ∧
      metadata.bind (·.field? key) = some (Yaml.markNode n bare) := by
  obtain ⟨graph, root, n, ⟨block, text, first, decoded, read⟩, maps, found⟩ := assigned
  obtain ⟨value, rfl, parsed⟩ := told.parsed block first
  rw [parse_of_graph block text graph root decoded read] at parsed
  cases built : graph.value root with
  | error fault =>
      rw [built] at parsed
      cases fault <;> cases parsed
  | ok own =>
      rw [built] at parsed
      cases parsed
      obtain ⟨ordered, _⟩ := Yaml.Graph.read_ordered schema text graph root read
      obtain ⟨bare, converted, field⟩ := graph.field_of_maps root n key _ _ ordered maps found
        plain single own built
      refine ⟨n, bare, converted, ?_⟩
      cases own with
      | null => cases field
      | _ => exact field

end FrontMatter

namespace Yaml

theorem read_uncomparable (tag : Tag) (counted : tag = .int ∨ tag = .float ∨ tag = .bool)
    (text : List Sign) (bare : Value) (read : tag.read text = .ok bare) (n : Nat)
    (comparison : Comparison) : comparison.compare (markNode n bare) = none := by
  rcases counted with rfl | rfl | rfl
  · obtain ⟨_, _, rfl⟩ := (map_ok_iff _ _ _).mp read
    rfl
  · obtain ⟨x, _, rfl⟩ := (map_ok_iff _ _ _).mp read
    rcases x with (_ | mark) | _ | _ <;> rfl
  · obtain ⟨_, _, rfl⟩ := (map_ok_iff _ _ _).mp read
    rfl

theorem bool_read (schema : Schema) (scalar : List Char) (line : '\n' ∉ scalar)
    (typed : schema.resolve scalar = .bool) : ∃ bare, Tag.bool.read (Sign.ofChars scalar) = .ok bare := by
  obtain ⟨rule, member, tagged, spells⟩ := resolve_spells schema scalar (by rw [typed]; nofun)
  rw [typed] at tagged
  obtain rfl : rule = ⟨.bool, (·.any "yYnNtTfFoO".toList.contains), Spelling.isBool⟩ := by
    simp only [rules, List.mem_cons, List.not_mem_nil, or_false] at member
    rcases member with rfl | rfl | rfl | rfl | rfl | rfl | rfl | rfl <;> first | rfl | cases tagged
  change Spelling.isBool (spelled scalar) = true at spells
  rw [spelled_line scalar line] at spells
  have readable : (readBool scalar).isOk = true := by
    obtain ⟨word, known, rfl⟩ := (isOneOf_iff _ _).mp spells
    clear line typed spells
    revert word
    decide +kernel
  cases read : readBool scalar with
  | error fault =>
      rw [read] at readable
      cases readable
  | ok bare =>
      rw [← Sign.shown_ofChars scalar] at read
      exact ⟨.bool bare, (map_ok_iff _ _ _).mpr ⟨bare, read, rfl⟩⟩

end Yaml

section

variable (tree : FileTree) (path : Path)

theorem load_of_block (bytes block : List UInt8) (plain : path.hasNul = false)
    (content : tree.content path = .ok bytes) (first : FrontMatter.IsBlock bytes block) :
    tree.opener.load path =
      ((FrontMatter.parse block).map some).mapError (FrontMatter.Problem.failure path) := by
  unfold Opener.load FileTree.opener
  rw [plain, content]
  simp only [Bool.false_eq_true, if_false, Document.read, FrontMatter.extract]
  rcases FrontMatter.findPreamble_bytes bytes FrontMatter.chunkSize (by decide) with
    ⟨other, found, same⟩ | ⟨_, without⟩
  · obtain rfl := FrontMatter.isBlock_unique bytes other block same first
    rw [found]
  · exact absurd ((FrontMatter.hasBlock_iff_first bytes).mpr ⟨block, first⟩) without

theorem field_answer (key : String) (foreign : key ≠ pathKey) (metadata : Option Value)
    (loaded : tree.opener.load path = .ok metadata) (comparison : Comparison) (value : Value)
    (field : metadata.bind (·.field? key) = some value) :
    let answer := (Matcher.field key comparison).accepts tree.opener { path }
    (∀ verdict, comparison.compare value = some verdict → answer.result = .ok verdict) ∧
      (comparison.compare value = none →
        answer.result = .ok false ∧ .warned (.uncomparable key path) ∈ answer.events) := by
  obtain ⟨result, document⟩ := Document.field_unread tree.opener path key foreign
  rw [loaded] at result
  have value_here : fieldOf path metadata key = value := by
    rw [fieldOf, if_neg foreign, field]
    rfl
  simp only [Except.map, value_here] at result
  simp only [Matcher.accepts, Comparison.judge, result]
  constructor
  · intro verdict compared
    rw [compared]
  · intro shapeless
    rw [shapeless, document]
    exact ⟨rfl, List.mem_append_right _ (List.mem_singleton_self _)⟩

end

theorem string_in_front_matter (scalar : List Char)
    (textual : Configuration.schema.resolve scalar = .str ∨
      Configuration.schema.resolve scalar = .timestamp) :
    FrontMatter.schema.resolve scalar = .str := by
  rw [Yaml.front_matter_resolve]
  rcases textual with typed | typed
  · rw [typed]
    rfl
  · rw [if_pos typed]

/-- Front matter takes for a string what is a timestamp in a configuration, and types all else alike.
So a plain scalar that is a string or a timestamp there is matched by its own text and by no other.
Numbers and truth values cannot be compared; where one cannot be read, neither can the document. -/
theorem plain_scalars_compared (tree : FileTree) (path : Path) (bytes : List UInt8) (key : String)
    (scalar : List Char) (content : tree.content path = .ok bytes) (foreign : key ≠ pathKey)
    (assigned : FrontMatter.Assigns bytes key scalar) :
    let type := Configuration.schema.resolve scalar
    let load := tree.opener.load path
    let answer := fun comparison => (Matcher.field key comparison).accepts tree.opener { path }
    (∀ text, FrontMatter.schema.resolve text =
      if Configuration.schema.resolve text = .timestamp then .str
      else Configuration.schema.resolve text) ∧
    (FrontMatter.IsFlat bytes → path.hasNul = false → ∃ metadata, load = .ok metadata) ∧
    (type = .bool → '\n' ∉ scalar → ∃ bare, type.read (Sign.ofChars scalar) = .ok bare) ∧
    ∀ metadata, load = .ok metadata →
      (type = .str ∨ type = .timestamp → ∀ value,
        (answer (.equals value)).result = .ok (String.ofList scalar == value)) ∧
      (type = .int ∨ type = .float ∨ type = .bool →
        (∃ bare, type.read (Sign.ofChars scalar) = .ok bare) ∧ ∀ comparison,
          (answer comparison).result = .ok false ∧
            .warned (.uncomparable key path) ∈ (answer comparison).events) := by
  intro type load answer
  refine ⟨Yaml.front_matter_resolve, ?_, ?_, ?_⟩
  · rintro ⟨graph, root, ⟨block, text, first, decoded, read⟩, flat⟩ plain
    obtain ⟨value, built⟩ := flat.value
    refine ⟨some (FrontMatter.orEmpty value), ?_⟩
    change tree.opener.load path = _
    rw [load_of_block tree path bytes block plain content first,
      FrontMatter.parse_of_graph block text graph root decoded read, built]
    rfl
  · intro typed line
    rw [typed]
    exact Yaml.bool_read _ scalar line typed
  · intro metadata loaded
    obtain ⟨own, same_content, told⟩ := load_told tree path metadata loaded
    cases content.symm.trans same_content
    have stands := FrontMatter.field_of_assigned bytes metadata told key scalar assigned
    constructor
    · intro textual value
      rw [string_in_front_matter scalar textual] at stands
      obtain ⟨n, bare, read, field⟩ := stands nofun rfl
      cases read
      have compared : (Comparison.equals value).compare
          (Yaml.markNode n (.text (.ofSigns (Sign.ofChars scalar)))) =
            some (String.ofList scalar == value) := by
        rw [Written.ofSigns_ofChars]
        exact congrArg some (Written.whole_beq _ value)
      exact (field_answer tree path key foreign metadata loaded (.equals value) _ field).1 _ compared
    · intro counted
      have kind : type ≠ .timestamp ∧ type ≠ .value ∧ type.isCollection = false := by
        rcases counted with typed | typed | typed <;> rw [typed] <;> exact ⟨nofun, nofun, rfl⟩
      have same : FrontMatter.schema.resolve scalar = type := by
        rw [Yaml.front_matter_resolve, if_neg kind.1]
      rw [same] at stands
      obtain ⟨n, bare, read, field⟩ := stands kind.2.1 kind.2.2
      refine ⟨⟨bare, read⟩, fun comparison => ?_⟩
      exact (field_answer tree path key foreign metadata loaded comparison _ field).2
        (Yaml.read_uncomparable type counted _ bare read n comparison)

def noteWith (scalar : List UInt8) : FileTree where
  entries := [(["n.md"],
    .file ([45, 45, 45, 10] ++ ([107, 58, 32] ++ scalar) ++ [10, 45, 45, 45, 10]))]

def noteGraph (scalar : List Char) : Yaml.Graph :=
  #[⟨.str, .scalar (Sign.ofChars ['k'])⟩,
    ⟨FrontMatter.schema.resolve scalar, .scalar (Sign.ofChars scalar)⟩,
    ⟨.map, .mapping [(0, 1)]⟩]

theorem noteGraph_assigns (bytes : List UInt8) (scalar : List Char)
    (graph : FrontMatter.HasGraph bytes (noteGraph scalar) 2) :
    FrontMatter.Assigns bytes "k" scalar := by
  refine ⟨noteGraph scalar, 2, 1, graph, ⟨rfl, noteGraph scalar, [], 0, [], ?_⟩, rfl⟩
  exact ⟨rfl, rfl, ⟨_, rfl, rfl, rfl⟩, nofun⟩

theorem day_matched_by_text :
    let tree := noteWith [50, 48, 50, 48, 45, 48, 49, 45, 48, 50]
    let path : Path := ⟨.relative, ["n.md"]⟩
    Configuration.schema.resolve "2020-01-02".toList = .timestamp ∧
      ((Matcher.field "k" (.equals "2020-01-02")).accepts tree.opener { path }).result = .ok true := by
  intro tree path
  have first : FrontMatter.IsBlock ([45, 45, 45, 10] ++
      ([107, 58, 32] ++ [50, 48, 50, 48, 45, 48, 49, 45, 48, 50]) ++ [10, 45, 45, 45, 10])
      [107, 58, 32, 50, 48, 50, 48, 45, 48, 49, 45, 48, 50] :=
    ⟨⟨[], by decide⟩, by decide⟩
  have graph := (⟨_, "k: 2020-01-02".toList, first, by decide +kernel, by decide +kernel⟩ :
    FrontMatter.HasGraph _ (noteGraph "2020-01-02".toList) 2)
  have flat : (noteGraph "2020-01-02".toList).Flat 2 := by
    refine ⟨[(0, 1)], rfl, ?_⟩
    rintro entry (_ | ⟨_, ⟨⟩⟩)
    exact ⟨⟨.str, _, _, rfl, nofun, nofun, rfl, rfl⟩, ⟨.str, _, _, rfl, nofun, nofun, rfl, rfl⟩⟩
  have day : Configuration.schema.resolve "2020-01-02".toList = .timestamp := by decide +kernel
  obtain ⟨_, reads, _, matched⟩ := plain_scalars_compared tree path _ "k" "2020-01-02".toList rfl
    (by decide) (noteGraph_assigns _ _ graph)
  obtain ⟨metadata, loaded⟩ := reads ⟨_, _, graph, flat⟩ (by decide +kernel)
  exact ⟨day, (matched metadata loaded).1 (.inr day) "2020-01-02"⟩

theorem unreadable_integer_unanswered :
    let tree := noteWith [48, 98, 95]
    let path : Path := ⟨.relative, ["n.md"]⟩
    Configuration.schema.resolve "0b_".toList = .int ∧
      (∃ bytes, tree.content path = .ok bytes ∧ FrontMatter.Assigns bytes "k" "0b_".toList) ∧
      ∀ comparison, ((Matcher.field "k" comparison).accepts tree.opener { path }).result =
        .error (.breakdown (.unconvertible .malformedNumber)) := by
  intro tree path
  have first : FrontMatter.IsBlock ([45, 45, 45, 10] ++ ([107, 58, 32] ++ [48, 98, 95]) ++
      [10, 45, 45, 45, 10]) [107, 58, 32, 48, 98, 95] :=
    ⟨⟨[], by decide⟩, by decide⟩
  have decoded : Text.Utf8.decode [107, 58, 32, 48, 98, 95] = .ok "k: 0b_".toList := by
    decide +kernel
  have read : Yaml.Graph.read FrontMatter.schema "k: 0b_".toList =
      .ok (some (noteGraph "0b_".toList, 2)) := by
    decide +kernel
  have broken : tree.opener.load path = .error (.breakdown (.unconvertible .malformedNumber)) := by
    have unread : (noteGraph "0b_".toList).value 2 = .error .malformedNumber := by rfl
    rw [load_of_block tree path _ _ (by decide +kernel) rfl first,
      FrontMatter.parse_of_graph _ _ _ _ decoded read, unread]
    rfl
  refine ⟨by decide +kernel, ⟨_, rfl, noteGraph_assigns _ _ ⟨_, _, first, decoded, read⟩⟩, ?_⟩
  intro comparison
  rw [(Matcher.accepts_first tree.opener path (.field "k" comparison) rfl).1, broken]
  rfl

end DocFinder
