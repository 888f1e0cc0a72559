import DocFinder.DocumentRoot.Walk

namespace DocFinder

def IsStep (name : String) : Prop := name ≠ "." ∧ name ≠ ".."

namespace FileTree

/-- No entry is called like a step that stays or goes up. -/
def Proper (tree : FileTree) : Prop :=
  ∀ place entry, (place, entry) ∈ tree.entries → ∀ name ∈ place, IsStep name

def directoryAt? (tree : FileTree) (path : Path) : Option Place :=
  match tree.lookup path with
  | .ok place => if tree.isDirectoryAt place then some place else none
  | .error _ => none

theorem directoryAt_iff (tree : FileTree) (path : Path) (place : Place) :
    tree.directoryAt? path = some place ↔
      tree.lookup path = .ok place ∧ tree.isDirectoryAt place = true := by
  unfold directoryAt?
  cases looked : tree.lookup path with
  | error fault => simp
  | ok target =>
      constructor
      · intro found
        dsimp only at found
        split at found
        · cases found
          exact ⟨rfl, ‹_›⟩
        · cases found
      · rintro ⟨same, inside⟩
        cases same
        exact if_pos inside

theorem entry_mem (tree : FileTree) (place : Place) (entry : Entry) (below : place ≠ [])
    (present : tree.entry? place = some entry) : (place, entry) ∈ tree.entries := by
  unfold entry? at present
  rw [if_neg below] at present
  obtain ⟨before, after, parts, _⟩ := List.lookup_eq_some_iff.mp present
  rw [parts]
  exact List.mem_append_right before (List.mem_cons_self ..)

theorem entry_isSome_iff (tree : FileTree) (place : Place) (name : String) :
    (tree.entry? (place ++ [name])).isSome = true ↔
      ∃ entry, (place ++ [name], entry) ∈ tree.entries := by
  have below : place ++ [name] ≠ [] := by simp
  constructor
  · intro present
    obtain ⟨entry, same⟩ := Option.isSome_iff_exists.mp present
    exact ⟨entry, tree.entry_mem _ entry below same⟩
  · rintro ⟨entry, member⟩
    unfold entry?
    rw [if_neg below]
    exact List.lookup_isSome_iff.mpr ⟨_, member, beq_self_eq_true _⟩

theorem mem_insertName (name other : String) (names : List String) :
    name ∈ insertName other names ↔ name = other ∨ name ∈ names := by
  induction names with
  | nil => simp [insertName]
  | cons first rest ih =>
      unfold insertName
      split
      · simp
      · split
        · rename_i same
          subst other
          simp
        · rw [List.mem_cons, ih, List.mem_cons]
          exact or_left_comm

theorem mem_sorted (name : String) (names : List String) :
    name ∈ names.foldr insertName [] ↔ name ∈ names := by
  induction names with
  | nil => rfl
  | cons first rest ih => rw [List.foldr_cons, mem_insertName, ih, List.mem_cons]

theorem mem_names_iff (tree : FileTree) (place : Place) (name : String) :
    name ∈ tree.names place ↔ (tree.entry? (place ++ [name])).isSome = true := by
  rw [names, mem_sorted, List.mem_filterMap, entry_isSome_iff]
  constructor
  · rintro ⟨⟨found, entry⟩, member, named⟩
    simp only [nameIn?] at named
    split at named
    · rename_i same
      obtain ⟨front, parts⟩ := List.getLast?_eq_some_iff.mp named
      rw [parts, List.dropLast_concat] at same
      subst front
      exact ⟨entry, parts ▸ member⟩
    · cases named
  · rintro ⟨entry, member⟩
    exact ⟨(place ++ [name], entry), member, by simp [nameIn?]⟩

theorem proper_name (tree : FileTree) (proper : tree.Proper) (place : Place) (name : String)
    (member : name ∈ tree.names place) : IsStep name := by
  rw [mem_names_iff, entry_isSome_iff] at member
  obtain ⟨entry, present⟩ := member
  exact proper _ entry present name (by simp)

theorem descend_append (tree : FileTree) (start : Place) (way more : List String) :
    tree.descend true start (way ++ more) =
      match tree.descend true start way with
      | .arrived place => tree.descend true place more
      | .link directory target rest => .link directory target (rest ++ more)
      | .fault fault => .fault fault := by
  induction way generalizing start with
  | nil => rfl
  | cons name way ih =>
      simp only [List.cons_append, descend]
      split
      · rfl
      · split
        · exact ih start
        · split
          · exact ih start.dropLast
          · cases present : tree.entry? (start ++ [name]) with
            | none => rfl
            | some entry => cases entry <;> simp [ih]

/-- One name more than a way that arrived. The name is no link, so none is counted. -/
theorem locate_child (tree : FileTree) (links : Nat) (start place : Place) (way : List String)
    (name : String) (result : Except LookupFault Place)
    (arrived : tree.locate true links start way = .ok place)
    (step : ∀ left, tree.locate true left place [name] = result) :
    tree.locate true links start (way ++ [name]) = result := by
  -- A link on the way takes the new name along with the rest behind it.
  induction links generalizing start way with
  | zero =>
      unfold locate at arrived ⊢
      rw [descend_append]
      cases stop : tree.descend true start way with
      | arrived target =>
          rw [stop] at arrived
          cases arrived
          have last := step 0
          unfold locate at last
          exact last
      | link directory target rest =>
          rw [stop] at arrived
          cases arrived
      | fault fault =>
          rw [stop] at arrived
          cases arrived
  | succ links ih =>
      unfold locate at arrived ⊢
      rw [descend_append]
      cases stop : tree.descend true start way with
      | arrived target =>
          rw [stop] at arrived
          cases arrived
          have last := step (links + 1)
          unfold locate at last
          exact last
      | link directory target rest =>
          rw [stop] at arrived
          have further := ih _ _ arrived
          rwa [List.append_assoc] at further
      | fault fault =>
          rw [stop] at arrived
          cases arrived

theorem lookup_child (tree : FileTree) (path : Path) (place : Place) (name : String)
    (entry : Entry) (looked : tree.lookup path = .ok place)
    (inside : tree.isDirectoryAt place = true) (step : IsStep name)
    (present : tree.entry? (place ++ [name]) = some entry) (solid : ∀ target, entry ≠ .link target) :
    tree.lookup (path.child name) = .ok (place ++ [name]) := by
  refine tree.locate_child linkLimit (tree.startOf path) place path.parts name _ looked ?_
  intro left
  unfold locate
  simp only [descend, inside, step.1, step.2, present, Bool.not_true, Bool.false_eq_true, if_false]

theorem lookup_absent (tree : FileTree) (path : Path) (place : Place) (name : String)
    (looked : tree.lookup path = .ok place) (inside : tree.isDirectoryAt place = true)
    (step : IsStep name) (absent : tree.entry? (place ++ [name]) = none) :
    tree.lookup (path.child name) = .error .missing := by
  refine tree.locate_child linkLimit (tree.startOf path) place path.parts name _ looked ?_
  intro left
  unfold locate
  simp only [descend, inside, step.1, step.2, absent, Bool.not_true, Bool.false_eq_true, if_false]

def LeadsToFile (tree : FileTree) (path : Path) : Prop :=
  tree.lookup path = .error .missing ∨
    ∃ target, tree.lookup path = .ok target ∧ tree.isDirectoryAt target = false

def ShapeFits (tree : FileTree) (path : Path) : Shape → Prop
  | .file => tree.LeadsToFile path
  | .directory => ∃ target, tree.directoryAt? path = some target
  | .unknown _ => ∃ fault, tree.lookup path = .error fault ∧ fault ≠ .missing

theorem shape_fits (tree : FileTree) (path : Path) (place : Place) (name written : String)
    (entry : Entry) (directory : tree.directoryAt? path = some place) (step : IsStep name)
    (present : tree.entry? (place ++ [name]) = some entry) :
    tree.ShapeFits (path.child name) (tree.shape (place ++ [name]) (path.child name) written) := by
  obtain ⟨looked, inside⟩ := (tree.directoryAt_iff path place).mp directory
  have child := tree.lookup_child path place name entry looked inside step present
  cases entry with
  | file bytes =>
      have plain : tree.isDirectoryAt (place ++ [name]) = false := by
        simp [isDirectoryAt, present]
      simp only [shape, present]
      exact Or.inr ⟨_, child (fun _ other => by cases other), plain⟩
  | directory =>
      have below : tree.isDirectoryAt (place ++ [name]) = true := by
        simp [isDirectoryAt, present]
      simp only [shape, present]
      exact ⟨_, (tree.directoryAt_iff _ _).mpr ⟨child (fun _ other => by cases other), below⟩⟩
  | link target =>
      simp only [shape, present]
      cases followed : tree.lookup (path.child name) with
      | ok reached =>
          dsimp only
          cases below : tree.isDirectoryAt reached with
          | true => exact ⟨reached, (tree.directoryAt_iff _ _).mpr ⟨followed, below⟩⟩
          | false => exact Or.inr ⟨reached, followed, below⟩
      | error fault =>
          cases fault with
          | missing => exact Or.inl followed
          | notDirectory => exact ⟨_, followed, LookupFault.noConfusion⟩
          | isDirectory => exact ⟨_, followed, LookupFault.noConfusion⟩
          | tooManyLinks => exact ⟨_, followed, LookupFault.noConfusion⟩

theorem file_not_directory (tree : FileTree) (path : Path) (file : tree.LeadsToFile path) :
    tree.directoryAt? path = none := by
  cases found : tree.directoryAt? path with
  | none => rfl
  | some place =>
      obtain ⟨looked, inside⟩ := (tree.directoryAt_iff path place).mp found
      rcases file with missing | ⟨target, other, outside⟩
      · rw [looked] at missing
        cases missing
      · rw [looked] at other
        cases other
        rw [inside] at outside
        cases outside

theorem file_of_fits (tree : FileTree) (path : Path) (shape : Shape)
    (fits : tree.ShapeFits path shape) (file : tree.LeadsToFile path) : shape = .file := by
  cases shape with
  | file => rfl
  | directory =>
      obtain ⟨place, found⟩ := fits
      rw [tree.file_not_directory path file] at found
      cases found
  | unknown error =>
      obtain ⟨fault, looked, known⟩ := fits
      rcases file with missing | ⟨target, other, _⟩
      · rw [looked] at missing
        cases missing
        exact absurd rfl known
      · rw [looked] at other
        cases other

theorem directory_of_fits (tree : FileTree) (path : Path) (place : Place) (shape : Shape)
    (fits : tree.ShapeFits path shape) (directory : tree.directoryAt? path = some place) :
    shape = .directory := by
  cases shape with
  | file =>
      rw [tree.file_not_directory path fits] at directory
      cases directory
  | directory => rfl
  | unknown error =>
      obtain ⟨fault, looked, _⟩ := fits
      have found := ((tree.directoryAt_iff path place).mp directory).1
      rw [looked] at found
      cases found

theorem entry_of_directory (tree : FileTree) (path : Path) (place target : Place) (name : String)
    (directory : tree.directoryAt? path = some place) (step : IsStep name)
    (below : tree.directoryAt? (path.child name) = some target) :
    (tree.entry? (place ++ [name])).isSome = true := by
  obtain ⟨looked, inside⟩ := (tree.directoryAt_iff path place).mp directory
  cases present : tree.entry? (place ++ [name]) with
  | some entry => rfl
  | none =>
      have missing := tree.lookup_absent path place name looked inside step present
      have found := ((tree.directoryAt_iff _ target).mp below).1
      rw [missing] at found
      cases found

end FileTree

end DocFinder
