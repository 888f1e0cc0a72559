import DocFinder.FrontMatter.Metadata
import DocFinder.Proofs.FrontMatter.Block
import DocFinder.Value.Json

namespace DocFinder

namespace FrontMatter

theorem hasBlock_iff_first (data : List UInt8) : HasBlock data ↔ ∃ block, IsBlock data block := by
  constructor
  · intro has
    obtain ⟨opens, found⟩ := (hasBlock_iff data).mp has
    obtain ⟨index, first⟩ := Option.ne_none_iff_exists'.mp found
    have width := List.length_take_of_le ((indexOf_some_iff _ _ _).mp first).1
    exact ⟨_, (isBlock_iff data _).mpr ⟨opens, by rw [width, first], by rw [width]⟩⟩
  · rintro ⟨block, ⟨rest, whole⟩, _⟩
    exact ⟨block, rest, whole⟩

theorem ofBytes_steady (bytes : List UInt8) (filled : bytes ≠ []) :
    (Source.ofBytes bytes).Steady :=
  ⟨rfl, fun _ => List.length_pos_iff.mpr filled⟩

theorem findPreamble_bytes (bytes : List UInt8) (size : Int) (asks : 1 ≤ size) :
    (∃ block, (findPreamble (.ofBytes bytes) size).found = .ok (some block) ∧
        IsBlock bytes block) ∨
      ((findPreamble (.ofBytes bytes) size).found = .ok none ∧ ¬ HasBlock bytes) := by
  by_cases filled : bytes = []
  · subst filled
    refine Or.inr ⟨?_, ?_⟩
    · simp [findPreamble, readFully, Source.ofBytes, Source.fails, Source.chunk, lookahead]
    · rintro ⟨block, rest, whole⟩
      have width := congrArg List.length whole
      have long := (style_lengths []).2.1
      simp only [List.length_append, List.length_nil] at width
      omega
  · have steady := ofBytes_steady bytes filled
    have blocks := found_block_iff (.ofBytes bytes) size steady asks
    have whole := (findPreamble_eq (.ofBytes bytes) size steady asks).1
    cases found : (findPreamble (.ofBytes bytes) size).found with
    | error error =>
        rw [found] at whole
        cases whole
    | ok result =>
        cases result with
        | some block => exact Or.inl ⟨block, rfl, (blocks block).mp found⟩
        | none =>
            refine Or.inr ⟨rfl, fun has => ?_⟩
            obtain ⟨block, first⟩ := (hasBlock_iff_first bytes).mp has
            rw [(blocks block).mpr first] at found
            cases found

theorem orEmpty_ne_null (value : Value) : orEmpty value ≠ .null := by
  cases value <;> exact nofun

theorem parse_ne_null (block : List UInt8) : parse block ≠ .ok .null := by
  intro parsed
  unfold parse at parsed
  split at parsed
  · cases parsed
  · split at parsed
    · cases parsed
    · cases parsed
    · exact orEmpty_ne_null _ (Except.ok.inj parsed)

theorem parse_empty (block : List UInt8) (text : List Char)
    (decoded : Text.Utf8.decode block = .ok text) (empty : Yaml.load schema text = .ok .null) :
    parse block = .ok (.map []) := by
  simp only [parse, decoded, empty, orEmpty]

/-- What the bytes of a file say of its front matter. -/
structure Tells (bytes : List UInt8) (metadata : Option Value) : Prop where
  present : metadata.isSome = true ↔ HasBlock bytes
  filled : metadata ≠ some .null
  parsed : ∀ block, IsBlock bytes block → ∃ value, metadata = some value ∧ parse block = .ok value

theorem isBlock_unique (data first second : List UInt8) (one : IsBlock data first)
    (other : IsBlock data second) : first = second := by
  obtain ⟨_, found, same⟩ := (isBlock_iff data first).mp one
  obtain ⟨_, again, same_again⟩ := (isBlock_iff data second).mp other
  have width : first.length = second.length := Option.some.inj (found.symm.trans again)
  rw [same, same_again, width]

theorem extract_tells (bytes : List UInt8) (size : Int) (asks : 1 ≤ size)
    (metadata : Option Value) (extracted : (extract (.ofBytes bytes) size).outcome = .ok metadata) :
    Tells bytes metadata := by
  rcases findPreamble_bytes bytes size asks with ⟨block, found, first⟩ | ⟨found, without⟩
  · simp only [extract, found] at extracted
    cases parsed : parse block with
    | error problem =>
        rw [parsed] at extracted
        cases extracted
    | ok value =>
        rw [parsed] at extracted
        cases extracted
        refine ⟨?_, ?_, ?_⟩
        · exact ⟨fun _ => (hasBlock_iff_first bytes).mpr ⟨block, first⟩, fun _ => rfl⟩
        · intro null
          rw [Option.some.inj null] at parsed
          exact parse_ne_null block parsed
        · intro other another
          obtain rfl := isBlock_unique bytes block other first another
          exact ⟨value, rfl, parsed⟩
  · simp only [extract, found] at extracted
    cases extracted
    refine ⟨⟨nofun, fun has => absurd has without⟩, nofun, fun block first => ?_⟩
    exact absurd ((hasBlock_iff_first bytes).mpr ⟨block, first⟩) without

end FrontMatter

theorem Value.json_null_iff (value : Value) : value.json? = some .null ↔ value = .null := by
  cases value <;> simp [json?]

end DocFinder
