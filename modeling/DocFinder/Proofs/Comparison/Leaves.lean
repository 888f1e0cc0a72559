import DocFinder.Comparison

/-! What a comparison says of a nested value, told from its leaves. How they are grouped, in which
order they stand and how often each is there does not matter. -/

namespace DocFinder

namespace Value

/-- What is reached in a value by opening lists that hold something. -/
inductive Leaf : Value → Value → Prop
  | here (value : Value) (closed : ∀ first rest, value ≠ .list (first :: rest)) : Leaf value value
  | inside (items : List Value) (item leaf : Value) (member : item ∈ items)
      (deeper : Leaf item leaf) : Leaf (.list items) leaf

/-- The leaves for which the outcome of a comparison is definite. -/
inductive IsComparable : Value → Prop
  | text (s : Written) : IsComparable (.text s)
  | null : IsComparable .null
  | emptyList : IsComparable (.list [])

/-- Two values that differ in the order, the repetition or the grouping of what stands in lists. No
empty list comes or goes. -/
inductive Rearranged : Value → Value → Prop
  | refl (value : Value) : Rearranged value value
  | symm (value other : Value) (back : Rearranged other value) : Rearranged value other
  | trans (first second third : Value) (one : Rearranged first second)
      (two : Rearranged second third) : Rearranged first third
  | reorder (items others : List Value) (same : items.Perm others) :
      Rearranged (.list items) (.list others)
  | duplicate (items : List Value) (item : Value) (member : item ∈ items) :
      Rearranged (.list items) (.list (item :: items))
  | group (before inner after : List Value) (filled : inner ≠ []) :
      Rearranged (.list (before ++ inner ++ after)) (.list (before ++ .list inner :: after))
  | wrap (value : Value) : Rearranged value (.list [value])
  | within (before after : List Value) (item other : Value) (changed : Rearranged item other) :
      Rearranged (.list (before ++ item :: after)) (.list (before ++ other :: after))

@[elab_as_elim]
theorem nested_induction {holds : Value → Prop} (value : Value)
    (closed : ∀ value, (∀ first rest, value ≠ .list (first :: rest)) → holds value)
    (grouped : ∀ first rest, (∀ item ∈ first :: rest, holds item) → holds (.list (first :: rest))) :
    holds value :=
  match value with
  | .list (first :: rest) => grouped first rest fun item _ => nested_induction item closed grouped
  | .list [] | .null | .bool _ | .int _ | .float _ | .text _ | .bytes _ | .date _ | .datetime _
  | .tuple _ | .set _ | .map _ => closed _ (by simp)

theorem leaf_closed_iff (value leaf : Value)
    (closed : ∀ first rest, value ≠ .list (first :: rest)) : Leaf value leaf ↔ leaf = value := by
  constructor
  · intro reached
    cases reached with
    | here _ _ => rfl
    | inside items item _ member deeper =>
        cases items with
        | nil => cases member
        | cons first rest => exact absurd rfl (closed first rest)
  · rintro rfl
    exact .here leaf closed

theorem leaf_list_iff (items : List Value) (leaf : Value) :
    Leaf (.list items) leaf ↔
      (items = [] ∧ leaf = .list []) ∨ ∃ item ∈ items, Leaf item leaf := by
  cases items with
  | nil =>
      rw [leaf_closed_iff _ leaf (by simp)]
      simp
  | cons first rest =>
      constructor
      · intro reached
        cases reached with
        | here _ closed => exact absurd rfl (closed first rest)
        | inside _ item _ member deeper => exact Or.inr ⟨item, member, deeper⟩
      · rintro (⟨empty, _⟩ | ⟨item, member, deeper⟩)
        · cases empty
        · exact .inside _ item leaf member deeper

theorem leaf_rearranged (value other : Value) (rearranged : Rearranged value other)
    (leaf : Value) : Leaf value leaf ↔ Leaf other leaf := by
  induction rearranged with
  | refl value => rfl
  | symm value other _ ih => exact ih.symm
  | trans first second third _ _ ih_one ih_two => exact ih_one.trans ih_two
  | reorder items others same =>
      have empty : items = [] ↔ others = [] := by
        rw [← List.length_eq_zero_iff, ← List.length_eq_zero_iff, same.length_eq]
      simp only [leaf_list_iff, empty, same.mem_iff]
  | duplicate items item member =>
      have filled : items ≠ [] := List.ne_nil_of_mem member
      simp only [leaf_list_iff, filled, false_and, false_or, reduceCtorEq]
      constructor
      · rintro ⟨other, inside, deeper⟩
        exact ⟨other, List.mem_cons_of_mem item inside, deeper⟩
      · rintro ⟨other, inside, deeper⟩
        rcases List.mem_cons.mp inside with rfl | inside
        · exact ⟨other, member, deeper⟩
        · exact ⟨other, inside, deeper⟩
  | group before inner after filled =>
      simp only [leaf_list_iff, List.append_eq_nil_iff, filled, List.mem_append, List.mem_cons,
        or_and_right, exists_or, exists_eq_left, reduceCtorEq, and_false, false_and, false_or,
        or_assoc]
  | wrap value => simp [leaf_list_iff]
  | within before after item other _ ih =>
      simp only [leaf_list_iff, List.append_eq_nil_iff, List.mem_append, List.mem_cons,
        or_and_right, exists_or, exists_eq_left, reduceCtorEq, and_false, false_and, false_or, ih]

end Value

namespace Comparison

open Value

theorem compareAny_true_iff (comparison : Comparison) (items : List Value) :
    comparison.compareAny items = some true ↔
      ∃ item ∈ items, comparison.compare item = some true := by
  induction items with
  | nil => simp [compareAny]
  | cons item rest ih =>
      simp only [compareAny, List.mem_cons, exists_eq_or_imp, ← ih]
      cases comparison.compare item with
      | none => simp
      | some verdict =>
          cases verdict with
          | true => simp
          | false => cases comparison.compareAny rest <;> simp

theorem compareAny_none_iff (comparison : Comparison) (items : List Value) :
    comparison.compareAny items = none ↔ ∀ item ∈ items, comparison.compare item = none := by
  induction items with
  | nil => simp [compareAny]
  | cons item rest ih =>
      rw [compareAny, List.forall_mem_cons, ← ih]
      cases comparison.compare item with
      | none => simp
      | some verdict => cases verdict <;> simp

theorem compare_group (comparison : Comparison) (first : Value) (rest : List Value) :
    comparison.compare (.list (first :: rest)) = comparison.compareAny (first :: rest) := by
  rw [compare]
  exact List.cons_ne_nil first rest

theorem compare_closed (comparison : Comparison) (value : Value)
    (closed : ∀ first rest, value ≠ .list (first :: rest)) :
    (comparison.compare value = some true ↔ ∃ s, value = .text s ∧ comparison.test s = true) ∧
      (comparison.compare value = none ↔ ¬ IsComparable value) := by
  have judged (comparable : IsComparable value) :
      comparison.compare value ≠ none := by
    cases comparable <;> simp [compare]
  cases value with
  | text s => simp [compare, IsComparable.text]
  | null => simp [compare, IsComparable.null]
  | list items =>
      cases items with
      | nil => simp [compare, IsComparable.emptyList]
      | cons first rest => exact absurd rfl (closed first rest)
  | _ => exact ⟨by simp [compare], fun _ comparable => judged comparable rfl, fun _ => rfl⟩

theorem compare_true_iff (comparison : Comparison) (value : Value) :
    comparison.compare value = some true ↔
      ∃ s, Leaf value (.text s) ∧ comparison.test s = true := by
  induction value using nested_induction with
  | closed value closed =>
      rw [(compare_closed comparison value closed).1]
      simp only [leaf_closed_iff value _ closed, eq_comm]
  | grouped first rest ih =>
      rw [compare_group, compareAny_true_iff]
      constructor
      · rintro ⟨item, member, satisfied⟩
        obtain ⟨s, leaf, satisfies⟩ := (ih item member).mp satisfied
        exact ⟨s, .inside _ item _ member leaf, satisfies⟩
      · rintro ⟨s, leaf, satisfies⟩
        obtain ⟨item, member, deeper⟩ := ((leaf_list_iff _ _).mp leaf).resolve_left (by simp)
        exact ⟨item, member, (ih item member).mpr ⟨s, deeper, satisfies⟩⟩

theorem compare_none_iff (comparison : Comparison) (value : Value) :
    comparison.compare value = none ↔ ∀ leaf, Leaf value leaf → ¬ IsComparable leaf := by
  induction value using nested_induction with
  | closed value closed =>
      rw [(compare_closed comparison value closed).2]
      simp only [leaf_closed_iff value _ closed, forall_eq]
  | grouped first rest ih =>
      rw [compare_group, compareAny_none_iff]
      constructor
      · intro undecided leaf reached
        obtain ⟨item, member, deeper⟩ := ((leaf_list_iff _ _).mp reached).resolve_left (by simp)
        exact (ih item member).mp (undecided item member) leaf deeper
      · intro incomparable item member
        apply (ih item member).mpr
        intro leaf deeper
        exact incomparable leaf (.inside _ item leaf member deeper)

theorem compare_congr (comparison : Comparison) (value other : Value)
    (same : ∀ leaf, Leaf value leaf ↔ Leaf other leaf) :
    comparison.compare other = comparison.compare value := by
  have satisfied : comparison.compare other = some true ↔ comparison.compare value = some true := by
    simp only [compare_true_iff, same]
  have undecided : comparison.compare other = none ↔ comparison.compare value = none := by
    simp only [compare_none_iff, same]
  generalize comparison.compare value = first at *
  generalize comparison.compare other = second at *
  match first, second with
  | none, none | some true, some true | some false, some false => rfl
  | none, some _ | some _, none => simp at undecided
  | some true, some false | some false, some true => simp at satisfied

/-- The outcome of a comparison is told by the leaves of a value: true if one of its texts satisfies
it, false if none does and some leaf is comparable, and none if there is no such leaf. Order,
repetition and grouping are without effect. -/
theorem compare_told_by_leaves (comparison : Comparison) (value : Value) :
    (comparison.compare value = some true ↔
      ∃ s, Leaf value (.text s) ∧ comparison.test s = true) ∧
    (comparison.compare value = some false ↔
      (∀ s, Leaf value (.text s) → comparison.test s = false) ∧
        ∃ leaf, Leaf value leaf ∧ IsComparable leaf) ∧
    (comparison.compare value = none ↔ ∀ leaf, Leaf value leaf → ¬ IsComparable leaf) ∧
    ∀ other, Rearranged value other → comparison.compare other = comparison.compare value := by
  have satisfied := compare_true_iff comparison value
  have undecided := compare_none_iff comparison value
  refine ⟨satisfied, ?_, undecided, ?_⟩
  · have unsatisfied : (∀ s, Leaf value (.text s) → comparison.test s = false) ↔
        comparison.compare value ≠ some true := by
      rw [Ne, satisfied]
      simp
    have decided : (∃ leaf, Leaf value leaf ∧ IsComparable leaf) ↔
        comparison.compare value ≠ none := by
      rw [Ne, undecided]
      simp
    rw [unsatisfied, decided]
    cases comparison.compare value with
    | none => simp
    | some verdict => simp
  · intro other rearranged
    exact compare_congr comparison value other (leaf_rearranged value other rearranged)

theorem compare_regrouped :
    let value : Value := .list [.list [.text "b", .map []], .text "a"]
    let other : Value := .list [.text "a", .text "b", .map []]
    Rearranged value other ∧ (Comparison.equals "a").compare other = some true ∧
      (Comparison.equals "c").compare other = (Comparison.equals "c").compare value := by
  intro value other
  have flat : Rearranged (.list [.text "a", .list [.text "b", .map []]]) other :=
    .symm _ _ (.group [.text "a"] [.text "b", .map []] [] (by simp))
  have rearranged : Rearranged value other :=
    .trans _ _ _ (.reorder _ _ (.swap _ _ [])) flat
  obtain ⟨satisfied, _⟩ := compare_told_by_leaves (.equals "a") other
  obtain ⟨_, _, _, unaffected⟩ := compare_told_by_leaves (.equals "c") value
  refine ⟨rearranged, satisfied.mpr ⟨"a", ?_, by decide⟩, unaffected other rearranged⟩
  exact .inside _ _ _ (List.mem_cons_self ..) (.here _ (by simp))

end Comparison

end DocFinder
