import DocFinder.Value.Key
import Mathlib.Data.List.Induction
import Mathlib.Logic.Relation

namespace DocFinder.Value

/-- What stands directly in a value. The keys of a map do not. -/
def children : Value → List Value
  | list items | tuple items | set items => items
  | map entries => entries.map (·.2)
  | _ => []

def Within (outer inner : Value) : Prop :=
  Relation.ReflTransGen (fun value child => child ∈ value.children) outer inner

def Apart (entries : List (Value × Value)) : Prop :=
  entries.Pairwise fun first second => sameKey first.1 second.1 = false

def Textual (entries : List (Value × Value)) : Prop :=
  ∀ entry ∈ entries, ∃ name, entry.1 = .text name

def EachMap (property : List (Value × Value) → Prop) (value : Value) : Prop :=
  ∀ entries, value.Within (.map entries) → property entries

def KeysDiffer : Value → Prop := EachMap Apart

def isText (name : Written) : Value → Bool
  | text s => s == name
  | _ => false

theorem sizeOf_child (value child : Value) (inside : child ∈ value.children) :
    sizeOf child < sizeOf value := by
  cases value with
  | list items | tuple items | set items =>
      have smaller : sizeOf child < sizeOf items := List.sizeOf_lt_of_mem inside
      simp only [list.sizeOf_spec, tuple.sizeOf_spec, set.sizeOf_spec]
      omega
  | map entries =>
      obtain ⟨⟨key, value⟩, member, rfl⟩ := List.mem_map.mp inside
      have smaller := List.sizeOf_lt_of_mem member
      simp only [Prod.mk.sizeOf_spec] at smaller
      simp only [map.sizeOf_spec]
      omega
  | _ => cases inside

@[elab_as_elim]
theorem children_induction {holds : Value → Prop} (value : Value)
    (step : ∀ value, (∀ child ∈ value.children, holds child) → holds value) : holds value :=
  step value fun child inside =>
    have := sizeOf_child value child inside
    children_induction child step
termination_by sizeOf value

theorem within_iff (outer inner : Value) :
    outer.Within inner ↔ outer = inner ∨ ∃ child ∈ outer.children, child.Within inner :=
  Relation.ReflTransGen.cases_head_iff

section

variable {property : List (Value × Value) → Prop}

theorem eachMap_iff (value : Value) :
    value.EachMap property ↔
      (∀ entries, value = .map entries → property entries) ∧
        ∀ child ∈ value.children, child.EachMap property := by
  constructor
  · intro all
    refine ⟨fun entries same => all entries (same ▸ .refl), ?_⟩
    intro child inside entries reached
    exact all entries (.head inside reached)
  · rintro ⟨here, deeper⟩ entries reached
    rcases (within_iff value _).mp reached with same | ⟨child, inside, reached⟩
    · exact here entries same
    · exact deeper child inside entries reached

theorem eachMap_map_iff (entries : List (Value × Value)) :
    (map entries).EachMap property ↔
      property entries ∧ ∀ entry ∈ entries, entry.2.EachMap property := by
  rw [eachMap_iff]
  simp only [map.injEq, forall_eq', children, List.forall_mem_map]

theorem eachMap_of_children (value : Value) (unmapped : ∀ entries, value ≠ .map entries)
    (each : ∀ child ∈ value.children, child.EachMap property) : value.EachMap property :=
  (eachMap_iff value).mpr ⟨fun entries same => absurd same (unmapped entries), each⟩

theorem eachMap_leaf (value : Value) (leaf : value.children = [])
    (unmapped : ∀ entries, value ≠ .map entries) : value.EachMap property := by
  refine eachMap_of_children value unmapped ?_
  rw [leaf]
  exact nofun

end

theorem sameKey_text_iff (name : Written) (key : Value) :
    sameKey key (.text name) = true ↔ key = .text name := by
  cases key <;> simp [sameKey, count?]
  case float x => cases x.toInt? <;> simp

theorem text_sameKey_iff (name : Written) (key : Value) :
    sameKey (.text name) key = true ↔ key = .text name := by
  cases key <;> simp [sameKey, count?]
  case text other => exact eq_comm
  case float x => cases x.toInt? <;> simp

theorem isText_iff (name : Written) (key : Value) : isText name key = true ↔ key = .text name := by
  cases key <;> simp [isText]

theorem field_eq (name : Written) (entries : List (Value × Value)) :
    (map entries).field? name = (entries.find? fun entry => isText name entry.1).map (·.2) := by
  rfl

section

variable (key value : Value) (entries : List (Value × Value))

theorem insertEntry_keys :
    (insertEntry key value entries).map (·.1) =
      if entries.any fun entry => sameKey entry.1 key then entries.map (·.1)
      else entries.map (·.1) ++ [key] := by
  induction entries with
  | nil => rfl
  | cons entry rest ih =>
      obtain ⟨first, old⟩ := entry
      cases same : sameKey first key with
      | true => simp [insertEntry, same]
      | false =>
          simp only [insertEntry, same, Bool.false_eq_true, if_false, List.map_cons, ih,
            List.any_cons, Bool.false_or]
          split <;> rfl

theorem apart_iff_keys :
    Apart entries ↔
      (entries.map (·.1)).Pairwise fun first second => sameKey first second = false := by
  rw [List.pairwise_map]
  rfl

theorem insertEntry_apart (apart : Apart entries) : Apart (insertEntry key value entries) := by
  rw [apart_iff_keys, insertEntry_keys]
  rw [apart_iff_keys] at apart
  split
  · exact apart
  · rename_i fresh
    refine List.pairwise_append.mpr ⟨apart, List.pairwise_singleton _ _, ?_⟩
    intro first member last only
    obtain ⟨entry, inside, rfl⟩ := List.mem_map.mp member
    obtain rfl := List.mem_singleton.mp only
    exact Bool.eq_false_iff.mpr fun same => fresh (List.any_eq_true.mpr ⟨entry, inside, same⟩)

theorem insertEntry_fresh (fresh : ∀ entry ∈ entries, sameKey entry.1 key = false) :
    insertEntry key value entries = entries ++ [(key, value)] := by
  induction entries with
  | nil => rfl
  | cons entry rest ih =>
      obtain ⟨other, later⟩ := List.forall_mem_cons.mp fresh
      rw [insertEntry, other, if_neg Bool.false_ne_true, ih later, List.cons_append]

theorem insertEntry_length :
    (insertEntry key value entries).length =
      if entries.any fun entry => sameKey entry.1 key then entries.length
      else entries.length + 1 := by
  have keys := congrArg List.length (insertEntry_keys key value entries)
  rw [List.length_map] at keys
  rw [keys]
  split <;> simp

theorem mem_insertEntry (entry : Value × Value) (member : entry ∈ insertEntry key value entries) :
    (entry.1 = key ∨ entry.1 ∈ entries.map (·.1)) ∧ (entry.2 = value ∨ entry.2 ∈ entries.map (·.2)) := by
  induction entries with
  | nil => simp_all [insertEntry]
  | cons first rest ih =>
      obtain ⟨old, before⟩ := first
      unfold insertEntry at member
      split at member
      · rcases List.mem_cons.mp member with rfl | member
        · simp
        · simp only [List.map_cons, List.mem_cons]
          exact ⟨.inr (.inr (List.mem_map_of_mem member)), .inr (.inr (List.mem_map_of_mem member))⟩
      · rcases List.mem_cons.mp member with rfl | member
        · simp
        · simp only [List.map_cons, List.mem_cons]
          exact ⟨(ih member).1.imp id .inr, (ih member).2.imp id .inr⟩

theorem find_insertEntry (name : Written) :
    ((insertEntry key value entries).find? fun entry => isText name entry.1).map (·.2) =
      if isText name key then some value
      else (entries.find? fun entry => isText name entry.1).map (·.2) := by
  induction entries with
  | nil => cases asked : isText name key <;> simp [insertEntry, asked]
  | cons entry rest ih =>
      obtain ⟨first, old⟩ := entry
      cases same : sameKey first key with
      | true =>
          have alike : isText name first = isText name key := by
            rw [Bool.eq_iff_iff, isText_iff, isText_iff]
            constructor
            · rintro rfl
              exact (text_sameKey_iff name key).mp same
            · rintro rfl
              exact (sameKey_text_iff name first).mp same
          cases asked : isText name key <;> simp [insertEntry, same, alike, asked]
      | false =>
          simp only [insertEntry, same, Bool.false_eq_true, if_false, List.find?_cons]
          cases textual : isText name first with
          | false => exact ih
          | true =>
              have other : isText name key = false := by
                refine Bool.eq_false_iff.mpr fun asked => ?_
                rw [(isText_iff name first).mp textual, (isText_iff name key).mp asked,
                  (sameKey_text_iff name _).mpr rfl] at same
                cases same
              simp [other]

end

section

variable (entries : List (Value × Value))

theorem entriesOf_concat (entry : Value × Value) :
    entriesOf (entries ++ [entry]) = insertEntry entry.1 entry.2 (entriesOf entries) := by
  simp [entriesOf]

theorem entriesOf_apart : Apart (entriesOf entries) := by
  induction entries using List.reverseRecOn with
  | nil => exact List.Pairwise.nil
  | append_singleton before entry ih =>
      rw [entriesOf_concat]
      exact insertEntry_apart _ _ _ ih

theorem entriesOf_length_le : (entriesOf entries).length ≤ entries.length := by
  induction entries using List.reverseRecOn with
  | nil => exact Nat.le_refl 0
  | append_singleton before entry ih =>
      rw [entriesOf_concat, insertEntry_length, List.length_append, List.length_singleton]
      split <;> omega

theorem entriesOf_of_apart (apart : Apart entries) : entriesOf entries = entries := by
  induction entries using List.reverseRecOn with
  | nil => rfl
  | append_singleton before entry ih =>
      obtain ⟨earlier, _, between⟩ := List.pairwise_append.mp apart
      rw [entriesOf_concat, ih earlier]
      exact insertEntry_fresh _ _ _ fun other member =>
        between other member entry (List.mem_singleton_self entry)

theorem entriesOf_length_iff : (entriesOf entries).length = entries.length ↔ Apart entries := by
  constructor
  · intro whole
    induction entries using List.reverseRecOn with
    | nil => exact List.Pairwise.nil
    | append_singleton before entry ih =>
        have most := entriesOf_length_le before
        rw [entriesOf_concat, insertEntry_length, List.length_append, List.length_singleton] at whole
        split at whole
        · omega
        · rename_i fresh
          have earlier := ih (by omega)
          rw [entriesOf_of_apart before earlier] at fresh
          refine List.pairwise_append.mpr ⟨earlier, List.pairwise_singleton _ _, ?_⟩
          intro other member last only
          obtain rfl := List.mem_singleton.mp only
          exact Bool.eq_false_iff.mpr fun same =>
            fresh (List.any_eq_true.mpr ⟨other, member, same⟩)
  · intro apart
    rw [entriesOf_of_apart entries apart]

theorem mem_entriesOf (entry : Value × Value) (member : entry ∈ entriesOf entries) :
    entry.1 ∈ entries.map (·.1) ∧ entry.2 ∈ entries.map (·.2) := by
  induction entries using List.reverseRecOn generalizing entry with
  | nil => cases member
  | append_singleton before last ih =>
      rw [entriesOf_concat] at member
      have either := mem_insertEntry _ _ _ entry member
      simp only [List.map_append, List.mem_append, List.map_cons, List.map_nil,
        List.mem_singleton]
      constructor
      · rcases either.1 with same | old
        · exact .inr same
        · obtain ⟨other, inside, same⟩ := List.mem_map.mp old
          exact .inl (same ▸ (ih other inside).1)
      · rcases either.2 with same | old
        · exact .inr same
        · obtain ⟨other, inside, same⟩ := List.mem_map.mp old
          exact .inl (same ▸ (ih other inside).2)

theorem entriesOf_textual (textual : Textual entries) : Textual (entriesOf entries) := by
  intro entry member
  obtain ⟨key, _⟩ := mem_entriesOf entries entry member
  obtain ⟨one, first, same⟩ := List.mem_map.mp key
  exact same ▸ textual one first

theorem field_entriesOf (name : Written) :
    (map (entriesOf entries)).field? name =
      (entries.reverse.find? fun entry => isText name entry.1).map (·.2) := by
  rw [field_eq]
  induction entries using List.reverseRecOn with
  | nil => rfl
  | append_singleton before entry ih =>
      rw [entriesOf_concat, find_insertEntry, ih, List.reverse_append, List.reverse_singleton,
        List.singleton_append, List.find?_cons]
      cases isText name entry.1 <;> rfl

theorem field_some_iff (apart : Apart entries) (name : Written) (value : Value) :
    (map entries).field? name = some value ↔ (.text name, value) ∈ entries := by
  rw [field_eq]
  induction entries with
  | nil => simp
  | cons entry rest ih =>
      obtain ⟨key, first⟩ := entry
      obtain ⟨others, apart⟩ := List.pairwise_cons.mp apart
      rw [List.find?_cons, List.mem_cons]
      cases textual : isText name key with
      | false =>
          have other : key ≠ .text name := fun same => by simp [same, isText] at textual
          rw [ih apart]
          simp [Ne.symm other]
      | true =>
          obtain rfl := (isText_iff name key).mp textual
          have alone : (.text name, value) ∉ rest := fun member => by
            have different := others _ member
            rw [(text_sameKey_iff name _).mpr rfl] at different
            cases different
          simp [alone, eq_comm]

theorem field_none_iff (name : Written) :
    (map entries).field? name = none ↔ ∀ value, (.text name, value) ∉ entries := by
  rw [field_eq, Option.map_eq_none_iff, List.find?_eq_none]
  simp only [isText_iff]
  exact ⟨fun absent value member => absent _ member rfl,
    fun absent entry member same => absent entry.2 (same ▸ member)⟩

end

end DocFinder.Value
