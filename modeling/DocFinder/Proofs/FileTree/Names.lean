import DocFinder.Proofs.FileTree.Children

namespace DocFinder

structure IsEntryName (name : String) : Prop where
  step : IsStep name
  filled : name ≠ ""
  unslashed : '/' ∉ name.toList
  askable : hasNul name = false

def FileTree.WellNamed (tree : FileTree) : Prop :=
  ∀ place entry, (place, entry) ∈ tree.entries → ∀ name ∈ place, IsEntryName name

theorem FileTree.entry_name (tree : FileTree) (named : tree.WellNamed) (place : Place)
    (name : String) (member : name ∈ tree.names place) : IsEntryName name := by
  rw [mem_names_iff, entry_isSome_iff] at member
  obtain ⟨entry, present⟩ := member
  exact named _ entry present name (by simp)

theorem no_empty_name : ¬ IsEntryName "" := fun name => name.filled rfl

theorem no_dot_name : ¬ IsEntryName "." := fun name => name.step.1 rfl

theorem text_of_below (root : Path) (names : List String) (filled : names ≠ []) :
    (root.below names).text =
      Path.anchorText root.anchor ++ "/".intercalate (root.parts ++ names) := by
  have somewhere : root.below names ≠ .here := by
    intro same
    have parts : root.parts ++ names = [] := congrArg Path.parts same
    exact filled (List.append_eq_nil_iff.mp parts).2
  rw [Path.text, if_neg somewhere]
  rfl

section

variable {names : List String} (entry_names : ∀ name ∈ names, IsEntryName name)

include entry_names

theorem pieces_of_joined (filled : names ≠ []) :
    ("/".intercalate names).toList.splitOn '/' = names.map String.toList := by
  have slash : "/".toList = ['/'] := rfl
  rw [String.toList_intercalate, slash]
  apply List.splitOn_intercalate
  · intro piece member
    obtain ⟨name, own, rfl⟩ := List.mem_map.mp member
    exact (entry_names name own).unslashed
  · simpa using filled

theorem joined_ne (text : String) (whole : '/' ∉ text.toList) (odd : ¬ IsEntryName text)
    (filled : names ≠ []) : "/".intercalate names ≠ text := by
  intro same
  have pieces := pieces_of_joined entry_names filled
  have only : text.toList.splitOn '/' = [text.toList] := by
    have alone : (['/'].intercalate [text.toList]).splitOn '/' = [text.toList] :=
      List.splitOn_intercalate '/' (by simpa using whole) (List.cons_ne_nil _ _)
    rwa [List.intercalate_singleton] at alone
  rw [same, only, eq_comm, List.map_eq_singleton_iff] at pieces
  obtain ⟨name, rfl, same_name⟩ := pieces
  apply odd
  rw [← String.toList_injective same_name]
  exact entry_names name (List.mem_singleton_self name)

theorem joined_injective (others : List String) (other_names : ∀ name ∈ others, IsEntryName name)
    (same : "/".intercalate names = "/".intercalate others) : names = others := by
  by_cases none_left : names = []
  · subst names
    by_cases none_right : others = []
    · exact none_right.symm
    · exact absurd same.symm (joined_ne other_names "" (by simp) no_empty_name none_right)
  · by_cases none_right : others = []
    · subst others
      exact absurd same (joined_ne entry_names "" (by simp) no_empty_name none_left)
    · have pieces := pieces_of_joined entry_names none_left
      rw [same, pieces_of_joined other_names none_right] at pieces
      exact ((List.map_inj_right fun _ _ => String.toList_injective).mp pieces).symm

theorem root_text_ne (root : Path) (filled : names ≠ []) : (root.below names).text ≠ root.text := by
  rw [text_of_below root names filled]
  by_cases own : root = .here
  · subst own
    intro same
    have joined : "/".intercalate names = "." := by
      simpa [Path.text, Path.here, Path.anchorText] using same
    exact joined_ne entry_names "." (by decide) no_dot_name filled joined
  · rw [Path.text, if_neg own]
    intro same
    have joined := (String.append_right_inj _).mp same
    by_cases bare : root.parts = []
    · rw [bare, List.nil_append] at joined
      exact joined_ne entry_names "" (by simp) no_empty_name filled joined
    · rw [String.intercalate_append_of_ne_nil bare filled, String.append_assoc] at joined
      have lengths := congrArg String.length joined
      simp only [String.length_append] at lengths
      have slash : "/".length = 1 := rfl
      omega

theorem text_below_injective (root : Path) (others : List String)
    (other_names : ∀ name ∈ others, IsEntryName name)
    (same : (root.below names).text = (root.below others).text) : names = others := by
  have top : root.below [] = root := by simp [Path.below]
  by_cases none_left : names = []
  · subst names
    by_cases none_right : others = []
    · exact none_right.symm
    · rw [top] at same
      exact absurd same.symm (root_text_ne other_names root none_right)
  · by_cases none_right : others = []
    · subst others
      rw [top] at same
      exact absurd same (root_text_ne entry_names root none_left)
    · rw [text_of_below root names none_left, text_of_below root others none_right,
        String.append_right_inj] at same
      by_cases bare : root.parts = []
      · rw [bare, List.nil_append, List.nil_append] at same
        exact joined_injective entry_names others other_names same
      · rw [String.intercalate_append_of_ne_nil bare none_left,
          String.intercalate_append_of_ne_nil bare none_right, String.append_right_inj] at same
        exact joined_injective entry_names others other_names same

end

end DocFinder
