import DocFinder.FrontMatter.Preamble

namespace DocFinder.FrontMatter

theorem indexOf_nil (needle : List UInt8) :
    indexOf? needle [] = if needle = [] then some 0 else none := by
  simp [indexOf?]

theorem indexOf_cons (needle rest : List UInt8) (b : UInt8) :
    indexOf? needle (b :: rest) =
      if needle <+: b :: rest then some 0 else (indexOf? needle rest).map (· + 1) := by
  simp [indexOf?]

theorem indexOf_some_iff (needle hay : List UInt8) (index : Nat) :
    indexOf? needle hay = some index ↔
      index ≤ hay.length ∧ needle <+: hay.drop index ∧
        ∀ earlier < index, ¬ needle <+: hay.drop earlier := by
  induction hay generalizing index with
  | nil =>
      rw [indexOf_nil]
      by_cases blank : needle = []
      · cases index <;> simp [blank]
      · simp [blank]
  | cons b rest ih =>
      by_cases here : needle <+: b :: rest
      · rw [indexOf_cons, if_pos here]
        constructor
        · intro same
          cases same
          exact ⟨Nat.zero_le _, here, fun _ below => absurd below (Nat.not_lt_zero _)⟩
        · rintro ⟨_, _, none_before⟩
          cases index with
          | zero => rfl
          | succ index => exact absurd here (none_before 0 (Nat.succ_pos index))
      · rw [indexOf_cons, if_neg here]
        cases index with
        | zero => simp [here]
        | succ index =>
            rw [Option.map_eq_some_iff]
            constructor
            · rintro ⟨found, equation, same⟩
              obtain rfl : found = index := Nat.succ.inj same
              obtain ⟨bound, present, none_before⟩ := (ih found).mp equation
              refine ⟨Nat.succ_le_succ bound, present, ?_⟩
              intro earlier below
              cases earlier with
              | zero => exact here
              | succ earlier => exact none_before earlier (Nat.lt_of_succ_lt_succ below)
            · rintro ⟨bound, present, none_before⟩
              refine ⟨index, (ih index).mpr ⟨Nat.le_of_succ_le_succ bound, present, ?_⟩, rfl⟩
              intro earlier below
              exact none_before (earlier + 1) (Nat.succ_lt_succ below)

theorem indexOf_none_iff (needle hay : List UInt8) :
    indexOf? needle hay = none ↔ ∀ index ≤ hay.length, ¬ needle <+: hay.drop index := by
  induction hay with
  | nil =>
      rw [indexOf_nil]
      by_cases blank : needle = []
      · simp [blank]
      · simp [blank]
  | cons b rest ih =>
      by_cases here : needle <+: b :: rest
      · rw [indexOf_cons, if_pos here]
        constructor
        · intro impossible
          cases impossible
        · intro absent
          exact absurd here (absent 0 (Nat.zero_le _))
      · rw [indexOf_cons, if_neg here, Option.map_eq_none_iff, ih]
        constructor
        · intro absent index bound
          cases index with
          | zero => exact here
          | succ index => exact absent index (Nat.le_of_succ_le_succ bound)
        · intro absent index bound
          exact absent (index + 1) (Nat.succ_le_succ bound)

theorem indexOf_skip (needle front rest : List UInt8)
    (absent : ∀ index < front.length, ¬ needle <+: (front ++ rest).drop index) :
    indexOf? needle (front ++ rest) = (indexOf? needle rest).map (front.length + ·) := by
  induction front with
  | nil => simp
  | cons b front ih =>
      have here : ¬ needle <+: b :: (front ++ rest) := absent 0 (by simp)
      have behind : ∀ index < front.length, ¬ needle <+: (front ++ rest).drop index := by
        intro index below
        exact absent (index + 1) (by simpa using below)
      rw [List.cons_append, indexOf_cons, if_neg here, ih behind, Option.map_map]
      congr 1
      funext index
      simp only [Function.comp_apply, List.length_cons]
      omega

theorem indexOf_overlap (needle front tail more : List UInt8)
    (short : front = [] ∨ needle.length ≤ tail.length + 1)
    (absent : indexOf? needle (front ++ tail) = none) :
    indexOf? needle (front ++ tail ++ more) =
      (indexOf? needle (tail ++ more)).map (front.length + ·) := by
  rw [List.append_assoc]
  apply indexOf_skip
  intro index below present
  have outside := (indexOf_none_iff needle (front ++ tail)).mp absent index
    (by rw [List.length_append]; omega)
  apply outside
  have inside : (front ++ tail).drop index <+: (front ++ (tail ++ more)).drop index := by
    rw [List.drop_append_of_le_length (by omega), List.drop_append_of_le_length (by omega),
      ← List.append_assoc]
    exact List.prefix_append _ _
  apply List.prefix_of_prefix_length_le present inside
  rcases short with rfl | short
  · exact absurd below (Nat.not_lt_zero _)
  · rw [List.length_drop, List.length_append]
    omega

theorem indexOf_stays (needle hay more : List UInt8) (index : Nat)
    (found : indexOf? needle hay = some index) : indexOf? needle (hay ++ more) = some index := by
  obtain ⟨bound, present, none_before⟩ := (indexOf_some_iff needle hay index).mp found
  have fits : needle.length ≤ hay.length - index := by
    simpa using present.length_le
  have whole : ∀ k ≤ hay.length, hay.drop k <+: (hay ++ more).drop k := by
    intro k inside
    rw [List.drop_append_of_le_length inside]
    exact List.prefix_append _ _
  rw [indexOf_some_iff]
  refine ⟨by rw [List.length_append]; omega, present.trans (whole index bound), ?_⟩
  intro earlier below present_before
  apply none_before earlier below
  apply List.prefix_of_prefix_length_le present_before (whole earlier (by omega))
  rw [List.length_drop]
  omega

theorem indexOf_none_of_short (needle hay : List UInt8) (short : hay.length < needle.length) :
    indexOf? needle hay = none := by
  rw [indexOf_none_iff]
  intro index _ present
  have fits := present.length_le
  rw [List.length_drop] at fits
  omega

end DocFinder.FrontMatter
