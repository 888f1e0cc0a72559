import DocFinder.Proofs.Value.Json

namespace DocFinder.Value

def NamesDiffer (entries : List (Value × Value)) : Prop :=
  (entries.map fun entry => entry.1.text?).Nodup

def LastNamed (entries : List (Value × Value)) (name : Written) (value : Value) : Prop :=
  ∃ before key after, entries = before ++ (key, value) :: after ∧ key.text? = some name ∧
    ∀ later ∈ after, later.1.text? ≠ some name

structure Kept (entries fields : List (Value × Value)) : Prop where
  named : Textual fields ∧ Apart fields
  field_iff : ∀ name form, (.text name, form) ∈ fields ↔
    ∃ value, LastNamed entries name value ∧ value.HasForm form
  whole_iff : fields.length = entries.length ↔ NamesDiffer entries
  in_order : NamesDiffer entries → List.Forall₂ Becomes entries fields

theorem lastNamed_iff (entries : List (Value × Value)) (name : Written) (value : Value) :
    LastNamed entries name value ↔ (map entries).step? (.named name) = some value := by
  simp only [step?, Option.map_eq_some_iff, List.find?_eq_some_iff_append]
  constructor
  · rintro ⟨before, key, after, rfl, named, last⟩
    refine ⟨(key, value), ⟨beq_iff_eq.mpr named, after.reverse, before.reverse, by simp, ?_⟩, rfl⟩
    intro later member
    simpa using last later (List.mem_reverse.mp member)
  · rintro ⟨⟨key, other⟩, ⟨named, after, before, parts, last⟩, rfl⟩
    refine ⟨before.reverse, key, after.reverse, ?_, beq_iff_eq.mp named, ?_⟩
    · rw [← List.reverse_reverse entries, parts]
      simp
    · intro later member
      simpa using last later (List.mem_reverse.mp member)

section

variable {entries fields : List (Value × Value)} (each : List.Forall₂ Becomes entries fields)

include each

theorem names_of_becomes :
    (entries.map fun entry => entry.1.text?) = fields.map fun field => field.1.text? := by
  induction each with
  | nil => rfl
  | cons becomes _ ih =>
      obtain ⟨name, named, key⟩ := becomes.name
      rw [List.map_cons, List.map_cons, ih, named, key]
      rfl

theorem apart_iff_names : Apart fields ↔ NamesDiffer entries := by
  have textual := textual_of_becomes each
  rw [NamesDiffer, names_of_becomes each, List.Nodup, List.pairwise_map]
  refine List.Pairwise.iff_of_mem fun {first second} one other => ?_
  obtain ⟨name, key⟩ := textual first one
  obtain ⟨other_name, other_key⟩ := textual second other
  rw [key, other_key]
  simp [sameKey, text?]

theorem kept_of_becomes : Kept entries (entriesOf fields) := by
  have apart := entriesOf_apart fields
  have textual := entriesOf_textual fields (textual_of_becomes each)
  have formed : (map entries).HasForm (map (entriesOf fields)) :=
    (map_form_iff entries _).mpr ⟨fields, each, rfl⟩
  refine ⟨⟨textual, apart⟩, ?_, ?_, ?_⟩
  · intro name form
    have step := step_form _ _ formed (.named name)
    rw [← field_some_iff _ apart, ← named_eq_field _ apart textual]
    simp only [lastNamed_iff]
    generalize (map entries).step? (.named name) = inner at step ⊢
    generalize (map (entriesOf fields)).step? (.named name) = image at step ⊢
    cases step with
    | none => simp
    | some becomes =>
        constructor
        · intro same
          cases same
          exact ⟨_, rfl, becomes⟩
        · rintro ⟨value, same, again⟩
          cases same
          rw [becomes.unique again]
  · rw [← apart_iff_names each, ← entriesOf_length_iff, each.length_eq]
  · intro differ
    rw [entriesOf_of_apart fields ((apart_iff_names each).mpr differ)]
    exact each

end

theorem textual_names (entries : List (Value × Value)) (textual : Textual entries)
    (apart : Apart entries) : NamesDiffer entries := by
  rw [NamesDiffer, List.Nodup, List.pairwise_map]
  refine List.Pairwise.imp_of_mem (fun {first second} one other differ same => ?_) apart
  obtain ⟨name, key⟩ := textual first one
  obtain ⟨other_name, other_key⟩ := textual second other
  rw [key, other_key] at differ same
  obtain rfl : name = other_name := Option.some.inj same
  simp [sameKey] at differ

/-- In the form of a value, every map that a path leads to has as many entries as before, and each
holds the form of another one of them. -/
def LosesNothing (value form : Value) : Prop :=
  ∀ path entries, value.at? path = some (.map entries) →
    ∃ fields originals, form.at? path = some (.map fields) ∧ originals.Perm entries ∧
      List.Forall₂ (fun original field => HasForm original.2 field.2) originals fields

theorem within_of_at (path : List Step) (value inner : Value) (there : value.at? path = some inner) :
    value.Within inner := by
  induction path generalizing value with
  | nil =>
      cases there
      exact .refl
  | cons step rest ih =>
      obtain ⟨child, here, later⟩ := Option.bind_eq_some_iff.mp there
      refine .head ?_ (ih child later)
      cases step with
      | item position =>
          obtain ⟨items, made, inside⟩ := Option.bind_eq_some_iff.mp here
          rw [items_children value items made]
          exact List.mem_of_getElem? inside
      | named name =>
          cases value with
          | map entries =>
              obtain ⟨before, key, after, rfl, _⟩ := (lastNamed_iff entries name child).mpr here
              simp [children]
          | _ => cases here

theorem at_concat (path : List Step) (value : Value) (step : Step) :
    value.at? (path ++ [step]) = (value.at? path).bind (·.step? step) := by
  simp only [at?, List.foldlM_append, List.foldlM_cons, List.foldlM_nil, bind_pure]
  rfl

section

variable (value form : Value) (formed : value.HasForm form)

include formed

theorem kept_at (path : List Step) (entries : List (Value × Value))
    (there : value.at? path = some (.map entries)) :
    ∃ fields, form.at? path = some (.map fields) ∧ Kept entries fields := by
  have leads := at_form path value form formed
  rw [there] at leads
  generalize form.at? path = image at leads ⊢
  cases leads with
  | some inner_formed =>
      obtain ⟨fields, each, rfl⟩ := (map_form_iff entries _).mp inner_formed
      exact ⟨_, rfl, kept_of_becomes each⟩

theorem names_differ_at (whole : value.LosesNothing form) (path : List Step)
    (entries : List (Value × Value)) (there : value.at? path = some (.map entries)) :
    NamesDiffer entries := by
  obtain ⟨fields, originals, image, order, each⟩ := whole path entries there
  obtain ⟨others, again, kept⟩ := kept_at value form formed path entries there
  rw [image] at again
  cases again
  exact kept.whole_iff.mp (each.length_eq.symm.trans order.length_eq)

theorem at_of_within (whole : value.LosesNothing form) (inner : Value)
    (stands : value.Within inner) : ∃ path, value.at? path = some inner := by
  induction stands with
  | refl => exact ⟨[], rfl⟩
  | @tail outer child _ inside ih =>
      obtain ⟨path, there⟩ := ih
      have next (step : Step) (leads : outer.step? step = some child) :
          ∃ path, value.at? path = some child :=
        ⟨path ++ [step], by rw [at_concat, there, Option.bind_some, leads]⟩
      rcases shape outer with ⟨items, made⟩ | ⟨entries, rfl⟩ | single
      · rw [items_children outer items made] at inside
        obtain ⟨position, here⟩ := List.mem_iff_getElem?.mp inside
        exact next (.item position) (by rw [step?, made, Option.bind_some, here])
      · obtain ⟨entry, member, rfl⟩ := List.mem_map.mp inside
        have differ := names_differ_at value form formed whole path entries there
        obtain ⟨_, _, kept⟩ := kept_at value form formed path entries there
        obtain ⟨field, _, becomes⟩ :=
          exists_of_mem_right (kept.in_order differ).flip entry member
        obtain ⟨name, named, _⟩ := Becomes.name becomes
        obtain ⟨before, after, rfl⟩ := List.append_of_mem member
        refine next (.named name) ((lastNamed_iff _ _ _).mp ⟨before, entry.1, after, rfl, named, ?_⟩)
        rw [NamesDiffer, List.map_append, List.map_cons] at differ
        have alone := (List.nodup_cons.mp (List.nodup_append.mp differ).2.1).1
        exact fun later inside same => alone (List.mem_map.mpr ⟨later, inside, same.trans named.symm⟩)
      · rw [single.leaf] at inside
        cases inside

/-- Nothing is lost if and only if no map has two keys with the same text. -/
theorem losesNothing_iff : value.LosesNothing form ↔ value.EachMap NamesDiffer := by
  constructor
  · intro whole entries stands
    obtain ⟨path, there⟩ := at_of_within value form formed whole _ stands
    exact names_differ_at value form formed whole path entries there
  · intro differ path entries there
    obtain ⟨fields, image, kept⟩ := kept_at value form formed path entries there
    exact ⟨fields, entries, image, .refl entries,
      (kept.in_order (differ entries (within_of_at path value _ there))).imp fun _ _ => Becomes.form⟩

end

/-- What a form carries of a value. -/
structure Carried (value form : Value) : Prop where
  formed : value.HasForm form
  /-- Every map keeps its entries if and only if no two keys of one map have the same text. -/
  whole_iff : value.LosesNothing form ↔ value.EachMap NamesDiffer
  /-- Keys that are texts are never lost. -/
  textual : value.EachMap Textual → value.LosesNothing form
  /-- Of entries whose keys have the same text, the last is kept. -/
  fields : ∀ path entries, value.at? path = some (.map entries) →
    ∃ fields, form.at? path = some (.map fields) ∧ Kept entries fields

theorem carried_of_form (value form : Value) (differ : value.KeysDiffer)
    (formed : value.HasForm form) : Carried value form := by
  refine ⟨formed, losesNothing_iff value form formed, ?_, kept_at value form formed⟩
  intro textual
  refine (losesNothing_iff value form formed).mpr fun entries stands => ?_
  exact textual_names entries (textual entries stands) (differ entries stands)

end DocFinder.Value
