import DocFinder.Proofs.Discovery.Outcome
import DocFinder.Proofs.Yaml.Construction

namespace DocFinder.Configuration

inductive NamesRoot (entries : List (Value × Value)) : Written → Prop
  | absent (unnamed : ∀ value, (.text "root", value) ∉ entries) : NamesRoot entries ""
  | null (named : (.text "root", .null) ∈ entries) : NamesRoot entries ""
  | text (root : Written) (named : (.text "root", .text root) ∈ entries) : NamesRoot entries root

inductive ListsFiles (entries : List (Value × Value)) : List Written → Prop
  | absent (unnamed : ∀ value, (.text "files", value) ∉ entries) : ListsFiles entries defaultFiles
  | listed (files : List Written) (named : (.text "files", .list (files.map .text)) ∈ entries) :
      ListsFiles entries files

/-- The configuration that a value of the right structure describes. -/
inductive Describes : Value → Configuration → Prop
  | nothing : Describes .null {}
  | fields (entries : List (Value × Value)) (configuration : Configuration)
      (root : NamesRoot entries configuration.root)
      (files : ListsFiles entries configuration.files) :
      Describes (.map entries) configuration

/-- Values in which there is nothing, though they are neither null nor maps. -/
inductive Hollow : Value → Prop
  | no : Hollow (.bool false)
  | zero : Hollow (.int 0)
  | floatingZero (negative : Bool) (exponent : Int) : Hollow (.float (.finite negative 0 exponent))
  | text : Hollow (.text "")
  | bytes : Hollow (.bytes [])
  | list : Hollow (.list [])
  | tuple : Hollow (.tuple [])
  | set : Hollow (.set [])

/-- The values that are refused, and why. -/
inductive Refused (path : Path) : Value → ConfigurationError → Prop
  | kind (value : Value) (full : ¬ Hollow value) (something : value ≠ .null)
      (other : ∀ entries, value ≠ .map entries) : Refused path value (.notMap path)
  | root (entries : List (Value × Value)) (wrong : ∀ root, ¬ NamesRoot entries root) :
      Refused path (.map entries) .rootNotText
  | files (entries : List (Value × Value)) (root : Written) (named : NamesRoot entries root)
      (wrong : ∀ files, ¬ ListsFiles entries files) : Refused path (.map entries) .filesNotTexts

theorem signed_zero_iff (negative : Bool) (n : Nat) :
    (if negative = true then -(n : Int) else n) = 0 ↔ n = 0 := by
  cases negative <;> simp

theorem toInt_zero_iff (x : Number.Binary64) :
    x.toInt? = some 0 ↔ ∃ negative exponent, x = .finite negative 0 exponent := by
  cases x with
  | nan mark => simp [Number.Binary64.toInt?]
  | infinity negative => simp [Number.Binary64.toInt?]
  | finite negative mantissa exponent =>
      have positive (e : Int) : 0 < Number.power 2 e := Nat.pow_pos (by decide)
      have counted : (Number.Binary64.finite negative mantissa exponent).toInt? = some 0 ↔
          mantissa = 0 := by
        simp only [Number.Binary64.toInt?]
        split
        · split
          · rename_i whole
            rw [Option.some.injEq, signed_zero_iff, Nat.div_eq_zero_iff_lt (positive _)]
            constructor
            · intro small
              rwa [Nat.mod_eq_of_lt small] at whole
            · rintro rfl
              exact positive _
          · rename_i broken
            constructor
            · nofun
            · rintro rfl
              exact absurd (Nat.zero_mod _) broken
        · have nonzero := Nat.ne_of_gt (positive (exponent - 0))
          rw [Option.some.injEq, Number.Binary64.units, ← Int.natCast_mul, signed_zero_iff,
            Nat.mul_eq_zero, or_iff_left nonzero]
      rw [counted]
      constructor
      · rintro rfl
        exact ⟨negative, exponent, rfl⟩
      · rintro ⟨_, _, same⟩
        cases same
        rfl

theorem isVoid_iff (value : Value) :
    isVoid value = true ↔ value = .null ∨ value = .map [] ∨ Hollow value := by
  constructor
  · intro void
    cases value with
    | null => exact .inl rfl
    | bool b =>
        cases b with
        | false => exact .inr (.inr .no)
        | true => cases void
    | int n =>
        obtain rfl : n = 0 := by simpa [isVoid] using void
        exact .inr (.inr .zero)
    | float x =>
        obtain ⟨negative, exponent, rfl⟩ := (toInt_zero_iff x).mp (by simpa [isVoid] using void)
        exact .inr (.inr (.floatingZero negative exponent))
    | text s =>
        obtain rfl : s = "" := by simpa [isVoid] using void
        exact .inr (.inr .text)
    | bytes b =>
        obtain rfl := List.isEmpty_iff.mp void
        exact .inr (.inr .bytes)
    | list items =>
        obtain rfl := List.isEmpty_iff.mp void
        exact .inr (.inr .list)
    | tuple items =>
        obtain rfl := List.isEmpty_iff.mp void
        exact .inr (.inr .tuple)
    | set items =>
        obtain rfl := List.isEmpty_iff.mp void
        exact .inr (.inr .set)
    | map entries =>
        obtain rfl := List.isEmpty_iff.mp void
        exact .inr (.inl rfl)
    | date _ => cases void
    | datetime _ => cases void
  · rintro (rfl | rfl | hollow)
    · rfl
    · rfl
    · cases hollow with
      | floatingZero negative exponent =>
          simpa [isVoid] using (toInt_zero_iff _).mpr ⟨negative, exponent, rfl⟩
      | _ => rfl

theorem texts_iff (items : List Value) (files : List Written) :
    items.mapM text? = some files ↔ items = files.map .text := by
  have textual (item : Value) (s : Written) : text? item = some s ↔ item = .text s := by
    cases item <;> simp [text?]
  simp only [mapM_some_iff, textual]
  rw [← List.forall₂_map_right_iff (f := Value.text) (R := Eq), List.forall₂_eq_eq_eq]

section

variable (entries : List (Value × Value)) (apart : Value.Apart entries)

include apart

theorem readRoot_iff (root : Written) :
    readRoot ((Value.map entries).field? "root") = .ok root ↔ NamesRoot entries root := by
  have named (value : Value) := Value.field_some_iff entries apart "root" value
  have unnamed := Value.field_none_iff entries "root"
  constructor
  · intro read
    cases under : (Value.map entries).field? "root" with
    | none =>
        rw [under] at read
        cases read
        exact .absent (unnamed.mp under)
    | some value =>
        rw [under] at read
        cases value with
        | null =>
            cases read
            exact .null ((named _).mp under)
        | text other =>
            cases read
            exact .text root ((named _).mp under)
        | _ => cases read
  · intro names
    cases names with
    | absent none => rw [unnamed.mpr none]; rfl
    | null here => rw [(named _).mpr here]; rfl
    | text _ here => rw [(named _).mpr here]; rfl

theorem readFiles_iff (files : List Written) :
    readFiles ((Value.map entries).field? "files") = .ok files ↔ ListsFiles entries files := by
  have named (value : Value) := Value.field_some_iff entries apart "files" value
  have unnamed := Value.field_none_iff entries "files"
  constructor
  · intro read
    cases under : (Value.map entries).field? "files" with
    | none =>
        rw [under] at read
        cases read
        exact .absent (unnamed.mp under)
    | some value =>
        rw [under] at read
        cases value with
        | list items =>
            cases all : items.mapM text? with
            | none =>
                simp only [readFiles, all] at read
                cases read
            | some texts =>
                simp only [readFiles, all] at read
                cases read
                rw [(texts_iff items files).mp all] at under
                exact .listed files ((named _).mp under)
        | _ => cases read
  · intro lists
    cases lists with
    | absent none => rw [unnamed.mpr none]; rfl
    | listed _ here =>
        rw [(named _).mpr here]
        simp only [readFiles, (texts_iff _ files).mpr rfl]

end

theorem readRoot_error (value : Option Value) (error : ConfigurationError)
    (failed : readRoot value = .error error) : error = .rootNotText := by
  unfold readRoot at failed
  split at failed
  · cases failed
  · cases failed
  · cases failed
  · exact (Except.error.inj failed).symm

theorem readFiles_error (value : Option Value) (error : ConfigurationError)
    (failed : readFiles value = .error error) : error = .filesNotTexts := by
  unfold readFiles at failed
  split at failed
  · cases failed
  · split at failed
    · cases failed
    · exact (Except.error.inj failed).symm
  · exact (Except.error.inj failed).symm

section

variable (entries : List (Value × Value)) (apart : Value.Apart entries)

include apart

theorem ofMap_ok_iff (configuration : Configuration) :
    ofMap (.map entries) = .ok configuration ↔ Describes (.map entries) configuration := by
  simp only [ofMap, bind_ok_iff, readRoot_iff entries apart, readFiles_iff entries apart]
  constructor
  · rintro ⟨root, named, files, listed, same⟩
    cases same
    exact .fields entries _ named listed
  · rintro (_ | ⟨_, _, named, listed⟩)
    exact ⟨configuration.root, named, configuration.files, listed, rfl⟩

theorem ofMap_error_iff (path : Path) (error : ConfigurationError) :
    ofMap (.map entries) = .error error ↔ Refused path (.map entries) error := by
  cases named : readRoot ((Value.map entries).field? "root") with
  | error cause =>
      have unnamed (root : Written) : ¬ NamesRoot entries root := by
        intro names
        rw [(readRoot_iff entries apart root).mpr names] at named
        cases named
      obtain rfl := readRoot_error _ _ named
      rw [ofMap, named]
      constructor
      · intro failed
        cases failed
        exact .root entries unnamed
      · rintro (⟨_, _, _, other⟩ | _ | ⟨_, root, names, _⟩)
        · exact absurd rfl (other entries)
        · rfl
        · exact absurd names (unnamed root)
  | ok root =>
      have names := (readRoot_iff entries apart root).mp named
      cases listed : readFiles ((Value.map entries).field? "files") with
      | ok files =>
          have lists := (readFiles_iff entries apart files).mp listed
          have read : ofMap (.map entries) = .ok ⟨root, files⟩ := by
            rw [ofMap, named, listed]
            rfl
          rw [read]
          constructor
          · nofun
          · rintro (⟨_, _, _, other⟩ | ⟨_, unnamed⟩ | ⟨_, _, _, unlisted⟩)
            · exact absurd rfl (other entries)
            · exact absurd names (unnamed root)
            · exact absurd lists (unlisted files)
      | error cause =>
          have unlisted (files : List Written) : ¬ ListsFiles entries files := by
            intro lists
            rw [(readFiles_iff entries apart files).mpr lists] at listed
            cases listed
          obtain rfl := readFiles_error _ _ listed
          rw [ofMap, named, listed]
          constructor
          · intro failed
            cases failed
            exact .files entries root names unlisted
          · rintro (⟨_, _, _, other⟩ | ⟨_, unnamed⟩ | _)
            · exact absurd rfl (other entries)
            · exact absurd names (unnamed root)
            · rfl

end

theorem ofValue_map (path : Path) (entries : List (Value × Value)) :
    ofValue path (.map entries) = ofMap (.map entries) := by
  cases entries with
  | nil => rfl
  | cons entry rest => rfl

theorem ofValue_other (path : Path) (value : Value) (other : ∀ entries, value ≠ .map entries) :
    ofValue path value = if isVoid value then .ok {} else .error (.notMap path) := by
  cases value with
  | map entries => exact absurd rfl (other entries)
  | _ => rfl

section

variable (path : Path) (value : Value)

theorem ofValue_void (other : ∀ entries, value ≠ .map entries)
    (void : value = .null ∨ Hollow value) : ofValue path value = .ok {} := by
  have counted : isVoid value = true := by
    refine (isVoid_iff value).mpr ?_
    rcases void with null | hollow
    · exact .inl null
    · exact .inr (.inr hollow)
  rw [ofValue_other path value other, if_pos counted]

theorem ofValue_kind (other : ∀ entries, value ≠ .map entries) (something : value ≠ .null)
    (full : ¬ Hollow value) : ofValue path value = .error (.notMap path) := by
  have counted : ¬ isVoid value = true := by
    rw [isVoid_iff]
    rintro (null | empty | hollow)
    · exact something null
    · exact other [] empty
    · exact full hollow
  rw [ofValue_other path value other, if_neg counted]

variable (differ : value.KeysDiffer)

include differ

theorem ofValue_ok_iff (configuration : Configuration) :
    ofValue path value = .ok configuration ↔
      Describes value configuration ∨ Hollow value ∧ configuration = {} := by
  by_cases map : ∃ entries, value = .map entries
  · obtain ⟨entries, rfl⟩ := map
    have full : ¬ Hollow (.map entries) := nofun
    rw [ofValue_map, ofMap_ok_iff entries (differ entries .refl)]
    simp [full]
  · have other (entries : List (Value × Value)) : value ≠ .map entries :=
      fun same => map ⟨entries, same⟩
    constructor
    · intro read
      by_cases null : value = .null
      · subst null
        cases read
        exact .inl .nothing
      · by_cases hollow : Hollow value
        · rw [ofValue_void path value other (.inr hollow)] at read
          exact .inr ⟨hollow, (Except.ok.inj read).symm⟩
        · rw [ofValue_kind path value other null hollow] at read
          cases read
    · rintro (described | ⟨hollow, rfl⟩)
      · cases described with
        | nothing => rfl
        | fields entries _ _ _ => exact absurd rfl (other entries)
      · exact ofValue_void path value other (.inr hollow)

theorem ofValue_error_iff (error : ConfigurationError) :
    ofValue path value = .error error ↔ Refused path value error := by
  by_cases map : ∃ entries, value = .map entries
  · obtain ⟨entries, rfl⟩ := map
    rw [ofValue_map, ofMap_error_iff entries (differ entries .refl) path]
  · have other (entries : List (Value × Value)) : value ≠ .map entries :=
      fun same => map ⟨entries, same⟩
    constructor
    · intro failed
      by_cases void : value = .null ∨ Hollow value
      · rw [ofValue_void path value other void] at failed
        cases failed
      · obtain ⟨something, full⟩ := not_or.mp void
        rw [ofValue_kind path value other something full] at failed
        cases failed
        exact .kind value full something other
    · intro refused
      cases refused with
      | kind _ full something _ => exact ofValue_kind path value other something full
      | root entries _ => exact absurd rfl (other entries)
      | files entries _ _ _ => exact absurd rfl (other entries)

end

/-- A configuration is read from null and from a map of the right structure, as they describe it. The
usual one is also read from every other value in which there is nothing. All the rest is refused. -/
theorem configuration_read_by_structure (tree : FileTree) (path : Path) (bytes : List UInt8)
    (text : List Char) (value : Value) (content : tree.content path = .ok bytes)
    (decoded : Text.Utf8.decode bytes = .ok text)
    (loaded : Yaml.load schema (withLineFeeds text) = .ok value) :
    (∀ configuration, load tree path = .ok configuration ↔
      Describes value configuration ∨ Hollow value ∧ configuration = {}) ∧
    ∀ failure, load tree path = .error failure ↔
      ∃ error, failure = .error error ∧ Refused path value error := by
  have differ := Yaml.load_keysDiffer schema _ value loaded
  have read : load tree path = (ofValue path value).mapError .error := by
    simp only [load, isPresent_of_content tree path bytes content, content, Bool.not_true,
      Bool.false_eq_true, if_false, ofBytes, decoded, loaded]
  rw [read]
  constructor
  · intro configuration
    rw [← ofValue_ok_iff path value differ]
    cases ofValue path value <;> simp [Except.mapError]
  · intro failure
    simp only [← ofValue_error_iff path value differ]
    cases ofValue path value <;> simp [Except.mapError, eq_comm]

theorem null_root_read :
    let bytes : List UInt8 :=
      [114, 111, 111, 116, 58, 32, 126, 10, 102, 105, 108, 101, 115, 58, 32, 91, 97, 44, 32, 39, 33,
       98, 39, 93, 10, 107, 58, 32, 49, 10]
    let text := "root: ~\nfiles: [a, '!b']\nk: 1\n".toList
    let path : Path := ⟨.root, ["w", ".veisku", "config.yaml"]⟩
    (treeConfigured bytes).content path = .ok bytes ∧ Text.Utf8.decode bytes = .ok text ∧
      ∃ value, Yaml.load schema (withLineFeeds text) = .ok value ∧
        load (treeConfigured bytes) path = .ok ⟨"", ["a", "!b"]⟩ ∧
        Describes value ⟨"", ["a", "!b"]⟩ := by
  intro bytes text path
  have content : (treeConfigured bytes).content path = .ok bytes := by rfl
  have decoded : Text.Utf8.decode bytes = .ok text := by decide +kernel
  have loads : (Yaml.load schema (withLineFeeds text)).isOk = true := by decide +kernel
  have read : load (treeConfigured bytes) path = .ok ⟨"", ["a", "!b"]⟩ := by decide +kernel
  cases loaded : Yaml.load schema (withLineFeeds text) with
  | error fault =>
      rw [loaded] at loads
      cases loads
  | ok value =>
      obtain ⟨accepted, _⟩ := configuration_read_by_structure (treeConfigured bytes) path bytes text
        value content decoded loaded
      refine ⟨content, decoded, value, rfl, read, ?_⟩
      rcases (accepted _).mp read with described | ⟨_, usual⟩
      · exact described
      · exact absurd usual (by decide)

def isFalse : Except Yaml.Fault Value → Bool
  | .ok (.bool false) => true
  | _ => false

theorem eq_of_isFalse (result : Except Yaml.Fault Value) (held : isFalse result = true) :
    result = .ok (.bool false) := by
  unfold isFalse at held
  split at held
  · rfl
  · cases held

theorem false_read_as_usual :
    let bytes : List UInt8 := [102, 97, 108, 115, 101, 10]
    let text := "false\n".toList
    let path : Path := ⟨.root, ["w", ".veisku", "config.yaml"]⟩
    (treeConfigured bytes).content path = .ok bytes ∧ Text.Utf8.decode bytes = .ok text ∧
      Yaml.load schema (withLineFeeds text) = .ok (.bool false) ∧
      load (treeConfigured bytes) path = .ok {} ∧
      ∀ configuration, ¬ Describes (.bool false) configuration := by
  intro bytes text path
  have loaded : Yaml.load schema (withLineFeeds text) = .ok (.bool false) :=
    eq_of_isFalse _ (by decide +kernel)
  exact ⟨by rfl, by decide +kernel, loaded, by decide +kernel, nofun⟩

end DocFinder.Configuration
