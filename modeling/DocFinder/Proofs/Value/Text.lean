import DocFinder.Proofs.Attempts
import DocFinder.Proofs.Value.Entries
import DocFinder.Value.Text

namespace DocFinder.Value

def parts : Value → List Value
  | list items | tuple items | set items => items
  | map entries => entries.flatMap fun entry => [entry.1, entry.2]
  | _ => []

/-- What stands in a value at any depth, in keys as well, and the value itself. -/
def Holds (outer inner : Value) : Prop :=
  Relation.ReflTransGen (fun value part => part ∈ value.parts) outer inner

def Writable (value : Value) : Prop :=
  ∀ n, value.Holds (.int n) → (Nat.toDigits 10 n.natAbs).length ≤ Text.longestNumeral

theorem sizeOf_part (value part : Value) (inside : part ∈ value.parts) :
    sizeOf part < sizeOf value := by
  cases value with
  | map entries =>
      obtain ⟨entry, member, either⟩ := List.mem_flatMap.mp inside
      have smaller := List.sizeOf_lt_of_mem member
      have inner : sizeOf part < sizeOf entry := by
        obtain ⟨key, value⟩ := entry
        rw [Prod.mk.sizeOf_spec]
        rcases List.mem_pair.mp either with rfl | rfl <;> omega
      simp only [map.sizeOf_spec]
      omega
  | list items => exact sizeOf_child (.list items) part inside
  | tuple items => exact sizeOf_child (.tuple items) part inside
  | set items => exact sizeOf_child (.set items) part inside
  | _ => cases inside

@[elab_as_elim]
theorem parts_induction {holds : Value → Prop} (value : Value)
    (step : ∀ value, (∀ part ∈ value.parts, holds part) → holds value) : holds value :=
  step value fun part inside =>
    have := sizeOf_part value part inside
    parts_induction part step
termination_by sizeOf value

theorem writable_iff (value : Value) :
    value.Writable ↔
      (∀ n, value = .int n → (Nat.toDigits 10 n.natAbs).length ≤ Text.longestNumeral) ∧
        ∀ part ∈ value.parts, part.Writable := by
  constructor
  · intro short
    refine ⟨fun n same => short n (same ▸ .refl), ?_⟩
    intro part inside n reached
    exact short n (.head inside reached)
  · rintro ⟨here, deeper⟩ n reached
    rcases Relation.ReflTransGen.cases_head_iff.mp reached with same | ⟨part, inside, reached⟩
    · exact here n same
    · exact deeper part inside n reached

theorem forall_parts_map (entries : List (Value × Value)) (property : Value → Prop) :
    (∀ part ∈ (map entries).parts, property part) ↔
      ∀ entry ∈ entries, property entry.1 ∧ property entry.2 := by
  rw [parts, List.forall_mem_flatMap]
  refine forall₂_congr fun entry _ => ?_
  rw [List.forall_mem_cons, List.forall_mem_singleton]

theorem writable_leaf (value : Value) (leaf : value.parts = []) (other : ∀ n, value ≠ .int n) :
    value.Writable := by
  rw [writable_iff, leaf]
  exact ⟨fun n same => absurd same (other n), nofun⟩

theorem innerTexts_eq (items : List Value) : innerTexts? items = items.mapM innerText? := by
  induction items with
  | nil => rfl
  | cons item rest ih =>
      rw [List.mapM_cons, ← ih]
      rfl

def entryText? (entry : Value × Value) : Option String := do
  return (← innerText? entry.1) ++ ": " ++ (← innerText? entry.2)

theorem entryTexts_eq (entries : List (Value × Value)) :
    entryTexts? entries = entries.mapM entryText? := by
  induction entries with
  | nil => rfl
  | cons entry rest ih =>
      rw [List.mapM_cons, ← ih, entryTexts?, entryText?]
      cases innerText? entry.1 with
      | none => rfl
      | some key => cases innerText? entry.2 <;> rfl

theorem entryText_isSome_iff (entry : Value × Value) :
    (entryText? entry).isSome = true ↔
      (innerText? entry.1).isSome = true ∧ (innerText? entry.2).isSome = true := by
  rw [entryText?]
  cases innerText? entry.1 with
  | none => simp
  | some key => cases innerText? entry.2 <;> simp

theorem tupleText_isSome (items : List Value) :
    (innerText? (.tuple items)).isSome = (items.mapM innerText?).isSome := by
  rw [← innerTexts_eq]
  match items with
  | [] => rfl
  | [item] =>
      simp only [innerText?, innerTexts?]
      cases innerText? item <;> rfl
  | first :: second :: rest =>
      rw [innerText?, Option.isSome_map]
      nofun

theorem setText_isSome (items : List Value) :
    (innerText? (.set items)).isSome = (items.mapM innerText?).isSome := by
  rw [← innerTexts_eq]
  cases items with
  | nil => rfl
  | cons item rest =>
      rw [innerText?, Option.isSome_map]
      nofun

theorem innerText_isSome_iff (value : Value) :
    (innerText? value).isSome = true ↔ value.Writable := by
  induction value using parts_induction with
  | step value ih =>
    rw [writable_iff]
    have parted (items : List Value) (same : value.parts = items) :
        (items.mapM innerText?).isSome = true ↔ ∀ part ∈ value.parts, part.Writable := by
      rw [mapM_isSome_iff, ← same]
      exact forall₂_congr ih
    cases value with
    | int n =>
        simp [innerText?, intText?, parts]
    | list items =>
        rw [innerText?, Option.isSome_map, innerTexts_eq, parted items rfl]
        simp
    | tuple items =>
        rw [tupleText_isSome, parted items rfl]
        simp
    | set items =>
        rw [setText_isSome, parted items rfl]
        simp
    | map entries =>
        rw [innerText?, Option.isSome_map, entryTexts_eq, mapM_isSome_iff]
        have alike := (forall_parts_map entries _).mp ih
        rw [forall_parts_map]
        simp only [entryText_isSome_iff, reduceCtorEq, false_implies, implies_true, true_and]
        exact forall₂_congr fun entry member =>
          and_congr (alike entry member).1 (alike entry member).2
    | _ => simp [innerText?, parts]

theorem text_isSome_iff (value : Value) : value.text?.isSome = true ↔ value.Writable := by
  cases value with
  | text _ | date _ | datetime _ => exact iff_of_true rfl (writable_leaf _ rfl nofun)
  | _ =>
      rw [text?, Option.isSome_map]
      · exact innerText_isSome_iff _
      all_goals nofun

end DocFinder.Value
