import DocFinder.Text.Blank
import Mathlib.Data.List.DropRight
import Mathlib.Data.List.TakeWhile

namespace DocFinder.Text

/-- A text is another one without the blanks at its ends. -/
structure IsTrimmed (text trimmed : List Char) : Prop where
  parts : ∃ front back, text = front ++ trimmed ++ back ∧ ∀ c ∈ front ++ back, isBlank c = true
  starts : ∀ c ∈ trimmed.head?, isBlank c = false
  stops : ∀ c ∈ trimmed.getLast?, isBlank c = false

theorem trim_eq (text : List Char) :
    trim text = (text.dropWhile isBlank).rdropWhile isBlank := rfl

theorem trim_isTrimmed (text : List Char) : IsTrimmed text (trim text) := by
  let rest := text.dropWhile isBlank
  have behind : trim text ++ rest.rtakeWhile isBlank = rest := List.rdropWhile_append_rtakeWhile
  refine ⟨⟨text.takeWhile isBlank, rest.rtakeWhile isBlank, ?_, ?_⟩, ?_, ?_⟩
  · rw [List.append_assoc, behind, List.takeWhile_append_dropWhile]
  · intro c member
    rcases List.mem_append.mp member with front | back
    · exact List.mem_takeWhile_imp front
    · exact List.mem_rtakeWhile_imp back
  · intro c first
    have begins : c ∈ rest.head? := behind ▸ List.mem_head?_append_of_mem_head? first
    have found : text.find? (fun d => !isBlank d) = some c :=
      (text.find?_not_eq_head?_dropWhile isBlank).trans begins
    simpa using List.find?_some found
  · intro c last
    have nonempty : trim text ≠ [] := by
      intro empty
      rw [empty] at last
      cases last
    rw [List.getLast?_eq_some_getLast nonempty, Option.mem_some_iff] at last
    rw [← last, Bool.eq_false_iff]
    exact List.rdropWhile_last_not isBlank rest nonempty

theorem trim_eq_nil_iff (text : List Char) : trim text = [] ↔ ∀ c ∈ text, isBlank c = true := by
  constructor
  · intro empty
    obtain ⟨front, back, parts, blank⟩ := (trim_isTrimmed text).parts
    rw [empty, List.append_nil] at parts
    exact parts ▸ blank
  · intro blank
    rw [trim_eq, List.dropWhile_eq_nil_iff.mpr blank]
    rfl

theorem trim_of_trimmed (text : List Char) (starts : ∀ c ∈ text.head?, isBlank c = false)
    (stops : ∀ c ∈ text.getLast?, isBlank c = false) : trim text = text := by
  have kept : text.dropWhile isBlank = text := by
    cases text with
    | nil => rfl
    | cons c rest => rw [List.dropWhile_cons_of_neg (by simp [starts c rfl])]
  rw [trim_eq, kept, List.rdropWhile_eq_self_iff]
  intro nonempty blank
  have last := stops _ (List.getLast?_eq_some_getLast nonempty)
  rw [blank] at last
  cases last

end DocFinder.Text
