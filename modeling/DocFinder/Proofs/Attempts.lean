import Mathlib.Data.List.Forall2

namespace DocFinder

section

variable {ε α β : Type}

theorem bind_ok_iff (result : Except ε α) (next : α → Except ε β) (value : β) :
    result >>= next = .ok value ↔ ∃ middle, result = .ok middle ∧ next middle = .ok value := by
  cases result with
  | error error => simp [bind, Except.bind]
  | ok middle => simp [bind, Except.bind]

theorem map_ok_iff (result : Except ε α) (change : α → β) (value : β) :
    result.map change = .ok value ↔ ∃ inner, result = .ok inner ∧ change inner = value := by
  cases result <;> simp [Except.map]

theorem foldlM_error_iff (step : β → α → Except ε β) (start : β) (items : List α) (error : ε) :
    items.foldlM step start = .error error ↔
      ∃ before item after, items = before ++ item :: after ∧
        ∃ middle, before.foldlM step start = .ok middle ∧ step middle item = .error error := by
  induction items generalizing start with
  | nil => simp [pure, Except.pure]
  | cons item rest ih =>
      rw [List.foldlM_cons]
      cases first : step start item with
      | error cause =>
          constructor
          · intro failed
            obtain rfl : cause = error := Except.error.inj failed
            exact ⟨[], item, rest, rfl, start, rfl, first⟩
          · rintro ⟨before, other, after, parts, middle, accepted, failed⟩
            cases before with
            | nil =>
                cases parts
                cases accepted
                exact first.symm.trans failed
            | cons earlier before =>
                cases parts
                rw [List.foldlM_cons, first] at accepted
                cases accepted
      | ok middle =>
          change rest.foldlM step middle = .error error ↔ _
          rw [ih]
          constructor
          · rintro ⟨before, other, after, rfl, last, accepted, failed⟩
            refine ⟨item :: before, other, after, rfl, last, ?_, failed⟩
            rw [List.foldlM_cons, first]
            exact accepted
          · rintro ⟨before, other, after, parts, last, accepted, failed⟩
            cases before with
            | nil =>
                cases parts
                cases accepted
                rw [first] at failed
                cases failed
            | cons earlier before =>
                cases parts
                rw [List.foldlM_cons, first] at accepted
                exact ⟨before, other, after, rfl, last, accepted, failed⟩

theorem mapM_ok_iff (read : α → Except ε β) (items : List α) (results : List β) :
    items.mapM read = .ok results ↔
      List.Forall₂ (fun item result => read item = .ok result) items results := by
  induction items generalizing results with
  | nil => simp [pure, Except.pure, eq_comm]
  | cons item rest ih =>
      rw [List.mapM_cons, bind_ok_iff, List.forall₂_cons_left_iff]
      constructor
      · rintro ⟨result, first, more⟩
        obtain ⟨later, others, same⟩ := (bind_ok_iff _ _ _).mp more
        cases same
        exact ⟨result, later, first, (ih later).mp others, rfl⟩
      · rintro ⟨result, later, first, others, rfl⟩
        refine ⟨result, first, (bind_ok_iff _ _ _).mpr ⟨later, (ih later).mpr others, rfl⟩⟩

theorem mapM_some_iff (read : α → Option β) (items : List α) (results : List β) :
    items.mapM read = some results ↔
      List.Forall₂ (fun item result => read item = some result) items results := by
  induction items generalizing results with
  | nil => simp [eq_comm]
  | cons item rest ih =>
      rw [List.mapM_cons, List.forall₂_cons_left_iff]
      constructor
      · intro all
        obtain ⟨result, first, more⟩ := Option.bind_eq_some_iff.mp all
        obtain ⟨later, others, same⟩ := Option.bind_eq_some_iff.mp more
        exact ⟨result, later, first, (ih later).mp others, (Option.some.inj same).symm⟩
      · rintro ⟨result, later, first, others, rfl⟩
        refine Option.bind_eq_some_iff.mpr ⟨result, first, ?_⟩
        exact Option.bind_eq_some_iff.mpr ⟨later, (ih later).mpr others, rfl⟩

theorem exists_of_mem_right {related : α → β → Prop} {items : List α} {images : List β}
    (all : List.Forall₂ related items images) (image : β) (member : image ∈ images) :
    ∃ item ∈ items, related item image := by
  induction all with
  | nil => cases member
  | cons first _ ih =>
      rcases List.mem_cons.mp member with rfl | later
      · exact ⟨_, List.mem_cons_self, first⟩
      · obtain ⟨item, inside, holds⟩ := ih later
        exact ⟨item, List.mem_cons_of_mem _ inside, holds⟩

theorem forall₂_getElem? {related : α → β → Prop} {items : List α} {images : List β}
    (all : List.Forall₂ related items images) (position : Nat) :
    Option.Rel related items[position]? images[position]? := by
  induction all generalizing position with
  | nil => exact .none
  | cons first _ ih =>
      cases position with
      | zero => exact .some first
      | succ position => exact ih position

theorem forall₂_find? {related : α → β → Prop} {items : List α} {images : List β}
    (all : List.Forall₂ related items images) (wanted : α → Bool) (image_wanted : β → Bool)
    (alike : ∀ item image, related item image → wanted item = image_wanted image) :
    Option.Rel related (items.find? wanted) (images.find? image_wanted) := by
  induction all with
  | nil => exact .none
  | @cons item image _ _ first _ ih =>
      rw [List.find?_cons, List.find?_cons, alike item image first]
      cases image_wanted image with
      | true => exact .some first
      | false => exact ih

theorem mapM_isSome_iff (read : α → Option β) (items : List α) :
    (items.mapM read).isSome = true ↔ ∀ item ∈ items, (read item).isSome = true := by
  induction items with
  | nil => simp
  | cons item rest ih =>
      rw [List.forall_mem_cons, ← ih, List.mapM_cons]
      cases read item with
      | none => simp
      | some result => cases rest.mapM read <;> simp

end

theorem run_bind_ok_iff {σ ε α β : Type} (first : StateT σ (Except ε) α)
    (next : α → StateT σ (Except ε) β) (state : σ) (outcome : β × σ) :
    (first >>= next).run state = .ok outcome ↔
      ∃ value between, first.run state = .ok (value, between) ∧
        (next value).run between = .ok outcome := by
  rw [StateT.run_bind, bind_ok_iff]
  exact Prod.exists

end DocFinder
