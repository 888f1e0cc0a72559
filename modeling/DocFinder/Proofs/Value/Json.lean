import DocFinder.Proofs.Value.Text
import DocFinder.Value.Json
import Mathlib.Data.List.Find

namespace DocFinder.Value

/-- Values that JSON can carry as they are. -/
inductive IsJson : Value → Prop
  | null : IsJson .null
  | bool (b : Bool) : IsJson (.bool b)
  | int (n : Int) : IsJson (.int n)
  | float (x : Number.Binary64) : IsJson (.float x)
  | text (s : Written) : IsJson (.text s)
  | list (items : List Value) (each : ∀ item ∈ items, IsJson item) : IsJson (.list items)
  | map (entries : List (Value × Value)) (textual : Textual entries)
      (each : ∀ entry ∈ entries, IsJson entry.2) : IsJson (.map entries)

def HasForm (value form : Value) : Prop := value.json? = some form

structure Becomes (entry field : Value × Value) : Prop where
  name : ∃ name, entry.1.text? = some name ∧ field.1 = .text name
  form : entry.2.HasForm field.2

def fieldOf? (entry : Value × Value) : Option (Value × Value) := do
  let name ← entry.1.text?
  let form ← entry.2.json?
  return (.text name, form)

theorem textual_of_becomes {entries fields : List (Value × Value)}
    (each : List.Forall₂ Becomes entries fields) : Textual fields := by
  intro field member
  obtain ⟨_, _, ⟨name, _, key⟩, _⟩ := exists_of_mem_right each field member
  exact ⟨name, key⟩

theorem fieldOf_isSome_iff (entry : Value × Value) :
    (fieldOf? entry).isSome = true ↔ entry.1.Writable ∧ entry.2.json?.isSome = true := by
  rw [← text_isSome_iff, fieldOf?]
  cases entry.1.text? with
  | none => simp
  | some name => cases entry.2.json? <;> simp

theorem fieldOf_iff (entry field : Value × Value) :
    fieldOf? entry = some field ↔ Becomes entry field := by
  constructor
  · intro written
    obtain ⟨name, named, rest⟩ := Option.bind_eq_some_iff.mp written
    obtain ⟨form, formed, same⟩ := Option.bind_eq_some_iff.mp rest
    cases same
    exact ⟨⟨name, named, rfl⟩, formed⟩
  · rintro ⟨⟨name, named, same⟩, formed⟩
    obtain ⟨key, form⟩ := field
    subst same
    exact Option.bind_eq_some_iff.mpr ⟨name, named, Option.bind_eq_some_iff.mpr ⟨form, formed, rfl⟩⟩

theorem jsonItems_eq (items : List Value) : jsonItems? items = items.mapM json? := by
  induction items with
  | nil => rfl
  | cons item rest ih =>
      rw [List.mapM_cons, ← ih]
      rfl

theorem jsonEntries_eq (done entries : List (Value × Value)) :
    jsonEntries? done entries =
      (entries.mapM fieldOf?).map fun fields =>
        fields.foldl (fun done (key, value) => insertEntry key value done) done := by
  induction entries generalizing done with
  | nil => rfl
  | cons entry rest ih =>
      rw [List.mapM_cons, jsonEntries?, fieldOf?]
      cases entry.1.text? with
      | none => rfl
      | some name =>
          cases entry.2.json? with
          | none => rfl
          | some form =>
              change jsonEntries? (insertField name form done) rest = _
              rw [ih]
              cases rest.mapM fieldOf? <;> rfl

def items? : Value → Option (List Value)
  | list items | tuple items | set items => some items
  | _ => none

theorem items_children (value : Value) (items : List Value) (made : value.items? = some items) :
    value.children = items := by
  cases value <;> cases made <;> rfl

theorem items_json (value : Value) (items : List Value) (made : value.items? = some items) :
    value.json? = (items.mapM json?).map .list := by
  rw [← jsonItems_eq]
  cases value <;> cases made <;> rfl

theorem map_json (entries : List (Value × Value)) :
    (map entries).json? = (entries.mapM fieldOf?).map fun fields => .map (entriesOf fields) := by
  rw [json?, jsonEntries_eq, Option.map_map]
  rfl

theorem items_form_iff (value : Value) (items : List Value) (made : value.items? = some items)
    (form : Value) :
    value.HasForm form ↔ ∃ forms, List.Forall₂ HasForm items forms ∧ .list forms = form := by
  rw [HasForm, items_json value items made, Option.map_eq_some_iff]
  simp only [mapM_some_iff]
  rfl

theorem map_form_iff (entries : List (Value × Value)) (form : Value) :
    (map entries).HasForm form ↔
      ∃ fields, List.Forall₂ Becomes entries fields ∧ .map (entriesOf fields) = form := by
  rw [HasForm, map_json, Option.map_eq_some_iff]
  simp only [mapM_some_iff, fieldOf_iff]

theorem HasForm.unique {value form other : Value} (formed : value.HasForm form)
    (again : value.HasForm other) : form = other :=
  Option.some.inj (formed.symm.trans again)

structure Single (value : Value) : Prop where
  unlisted : value.items? = none
  unmapped : ∀ entries, value ≠ .map entries

theorem Single.leaf {value : Value} (single : value.Single) : value.children = [] := by
  cases value with
  | list items | tuple items | set items => cases single.unlisted
  | map entries => exact absurd rfl (single.unmapped entries)
  | _ => rfl

theorem shape (value : Value) :
    (∃ items, value.items? = some items) ∨ (∃ entries, value = .map entries) ∨ value.Single := by
  cases value with
  | list items | tuple items | set items => exact .inl ⟨items, rfl⟩
  | map entries => exact .inr (.inl ⟨entries, rfl⟩)
  | _ => exact .inr (.inr ⟨rfl, nofun⟩)

theorem single_form (value : Value) (single : value.Single) :
    ∃ form, value.HasForm form ∧ form.IsJson ∧ form.Single := by
  cases value with
  | list items | tuple items | set items => cases single.unlisted
  | map entries => exact absurd rfl (single.unmapped entries)
  | null => exact ⟨_, rfl, .null, rfl, nofun⟩
  | bool b => exact ⟨_, rfl, .bool b, rfl, nofun⟩
  | int n => exact ⟨_, rfl, .int n, rfl, nofun⟩
  | float x => exact ⟨_, rfl, .float x, rfl, nofun⟩
  | text s | bytes b | date d | datetime t => exact ⟨_, rfl, .text _, rfl, nofun⟩

/-- In no key stands an integer that is too long to be written. -/
def KeysWritable : Value → Prop := EachMap fun entries => ∀ entry ∈ entries, entry.1.Writable

theorem json_isSome_iff (value : Value) : value.json?.isSome = true ↔ value.KeysWritable := by
  induction value using children_induction with
  | step value ih =>
    rcases shape value with ⟨items, made⟩ | ⟨entries, rfl⟩ | single
    · rw [items_json value items made, Option.isSome_map, mapM_isSome_iff, KeysWritable, eachMap_iff]
      have unmapped (entries : List (Value × Value)) : value ≠ .map entries := by
        rintro rfl
        cases made
      simp only [unmapped, false_implies, implies_true, true_and, items_children value items made]
      exact forall₂_congr fun item member => ih item (items_children value items made ▸ member)
    · rw [map_json, Option.isSome_map, mapM_isSome_iff, KeysWritable, eachMap_map_iff, ← forall₂_and]
      refine forall₂_congr fun entry member => ?_
      rw [fieldOf_isSome_iff, ih entry.2 (List.mem_map_of_mem member)]
      rfl
    · obtain ⟨form, formed, _⟩ := single_form value single
      exact iff_of_true (Option.isSome_iff_exists.mpr ⟨form, formed⟩)
        (eachMap_leaf value single.leaf single.unmapped)

inductive Step
  | item (position : Nat)
  | named (name : Written)
  deriving DecidableEq, Repr

/-- What stands one step into a value. Under a name stands what the last key with this text says. -/
def step? (value : Value) : Step → Option Value
  | .item position => value.items?.bind (·[position]?)
  | .named name =>
    match value with
    | map entries =>
      (entries.reverse.find? fun entry => entry.1.text? == some name).map (·.2)
    | _ => none

def at? (value : Value) (path : List Step) : Option Value := path.foldlM step? value

theorem text_named (name other : Written) :
    ((Value.text other).text? == some name) = isText name (.text other) := by
  simp [text?, isText]

theorem named_eq_field (fields : List (Value × Value)) (apart : Apart fields)
    (textual : Textual fields) (name : Written) :
    (map fields).step? (.named name) = (map fields).field? name := by
  have alike (field : Value × Value) (member : field ∈ fields.reverse) :
      (field.1.text? == some name) = isText name field.1 := by
    obtain ⟨own, key⟩ := textual field (List.mem_reverse.mp member)
    rw [key, text_named]
  calc
    _ = (fields.reverse.find? fun field => isText name field.1).map (·.2) :=
        congrArg (Option.map Prod.snd) (List.find?_congr alike)
    _ = (map (entriesOf fields)).field? name := (field_entriesOf fields name).symm
    _ = _ := by rw [entriesOf_of_apart fields apart]

theorem step_form (value form : Value) (formed : value.HasForm form) (step : Step) :
    Option.Rel HasForm (value.step? step) (form.step? step) := by
  rcases shape value with ⟨items, made⟩ | ⟨entries, rfl⟩ | single
  · obtain ⟨forms, each, rfl⟩ := (items_form_iff value items made form).mp formed
    cases step with
    | item position =>
        simp only [step?, made, Option.bind_some]
        exact forall₂_getElem? each position
    | named name =>
        cases value <;> cases made <;> exact .none
  · obtain ⟨fields, each, rfl⟩ := (map_form_iff entries form).mp formed
    cases step with
    | item position => exact .none
    | named name =>
        have last := forall₂_find? (List.forall₂_reverse_iff.mpr each)
          (fun entry => entry.1.text? == some name) (fun field => isText name field.1) (by
            rintro entry field ⟨⟨own, named, key⟩, _⟩
            rw [named, key, ← text_named name own]
            rfl)
        rw [named_eq_field _ (entriesOf_apart fields)
          (entriesOf_textual fields (textual_of_becomes each)), field_entriesOf]
        change Option.Rel HasForm (Option.map _ _) _
        generalize entries.reverse.find? _ = entry at last ⊢
        generalize fields.reverse.find? _ = field at last ⊢
        cases last with
        | none => exact .none
        | some becomes => exact .some becomes.form
  · obtain ⟨other, again, _, bare⟩ := single_form value single
    obtain rfl := formed.unique again
    have stuck (value : Value) (single : value.Single) : value.step? step = none := by
      cases step with
      | item position => simp only [step?, single.unlisted, Option.bind_none]
      | named name =>
          cases value with
          | map entries => exact absurd rfl (single.unmapped entries)
          | _ => rfl
    rw [stuck value single, stuck form bare]
    exact .none

/-- A path into a form leads to the form of what stands at its end in the value. -/
theorem at_form (path : List Step) (value form : Value) (formed : value.HasForm form) :
    Option.Rel HasForm (value.at? path) (form.at? path) := by
  induction path generalizing value form with
  | nil => exact .some formed
  | cons step rest ih =>
      have first := step_form value form formed step
      simp only [at?, List.foldlM_cons]
      generalize value.step? step = inner at first ⊢
      generalize form.step? step = image at first ⊢
      cases first with
      | none => exact .none
      | some inner_formed => exact ih _ _ inner_formed

end DocFinder.Value
