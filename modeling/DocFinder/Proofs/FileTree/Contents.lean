import DocFinder.DocumentRoot.Walk

namespace DocFinder

def Entry.rewrite (change : List UInt8 → List UInt8) : Entry → Entry
  | file bytes => file (change bytes)
  | directory => directory
  | link target => link target

namespace FileTree

def rewrite (change : Place → List UInt8 → List UInt8) (tree : FileTree) : FileTree :=
  { tree with
    entries := tree.entries.map fun (place, entry) => (place, entry.rewrite (change place)) }

section

variable (change : Place → List UInt8 → List UInt8) (tree : FileTree)

@[simp] theorem rewrite_entry (place : Place) :
    FileTree.entry? (tree.rewrite change) place =
      (tree.entry? place).map (·.rewrite (change place)) := by
  have found (entries : List (Place × Entry)) :
      (entries.map fun (place, entry) => (place, entry.rewrite (change place))).lookup place =
        (entries.lookup place).map (·.rewrite (change place)) := by
    induction entries with
    | nil => rfl
    | cons first rest ih =>
        obtain ⟨other, entry⟩ := first
        rw [List.map_cons, List.lookup_cons, List.lookup_cons]
        by_cases same : place = other
        · subst other
          simp
        · have differs : (place == other) = false := by simpa using same
          simp only [differs]
          exact ih
  unfold entry?
  by_cases top : place = []
  · rw [if_pos top, if_pos top]
    rfl
  · rw [if_neg top, if_neg top]
    exact found tree.entries

@[simp] theorem rewrite_isDirectoryAt (place : Place) :
    (tree.rewrite change).isDirectoryAt place = tree.isDirectoryAt place := by
  unfold isDirectoryAt
  rw [rewrite_entry]
  rcases tree.entry? place with _ | _ | _ | _ <;> rfl

@[simp] theorem rewrite_names (directory : Place) :
    (tree.rewrite change).names directory = tree.names directory := by
  simp only [names, rewrite, List.filterMap_map, Function.comp_def]

@[simp] theorem rewrite_descend (follow : Bool) (place : Place) (way : List String) :
    (tree.rewrite change).descend follow place way = tree.descend follow place way := by
  induction way generalizing place with
  | nil => rfl
  | cons name rest ih =>
      simp only [descend, rewrite_isDirectoryAt, ih, rewrite_entry]
      rcases tree.entry? (place ++ [name]) with _ | _ | _ | _ <;> rfl

@[simp] theorem rewrite_locate (follow : Bool) (links : Nat) (place : Place) (way : List String) :
    (tree.rewrite change).locate follow links place way = tree.locate follow links place way := by
  induction links generalizing place way with
  | zero =>
      unfold locate
      rw [rewrite_descend]
  | succ links ih =>
      unfold locate
      rw [rewrite_descend]
      cases tree.descend follow place way with
      | link directory target rest => exact ih _ _
      | _ => rfl

@[simp] theorem rewrite_lookup (path : Path) :
    (tree.rewrite change).lookup path = tree.lookup path :=
  rewrite_locate change tree true linkLimit (tree.startOf path) path.parts

@[simp] theorem rewrite_shape (place : Place) (path : Path) (written : String) :
    (tree.rewrite change).shape place path written = tree.shape place path written := by
  unfold shape
  simp only [rewrite_entry, rewrite_lookup, rewrite_isDirectoryAt]
  rcases tree.entry? place with _ | _ | _ | _ <;> rfl

@[simp] theorem rewrite_listFault (place : Place) (written : String) :
    (tree.rewrite change).listFault? place written = tree.listFault? place written := by
  have closed : (tree.rewrite change).closed = tree.closed := rfl
  simp only [listFault?, rewrite_isDirectoryAt, closed]

@[simp] theorem rewrite_walk (verdict : Verdict) (root : Path) (fuel : Nat) (above : List Place)
    (below : List String) :
    (tree.rewrite change).walk verdict root fuel above below =
      tree.walk verdict root fuel above below := by
  induction fuel generalizing above below with
  | zero => rfl
  | succ fuel ih =>
      simp only [walk, rewrite_lookup, rewrite_listFault, rewrite_names, rewrite_shape, ih]

theorem rewrite_items (root : DocumentRoot) : root.items (tree.rewrite change) = root.items tree := by
  have deep : (tree.rewrite change).depth = tree.depth := by
    simp only [depth, rewrite, List.length_map]
  simp only [DocumentRoot.items, DocumentRoot.itemsBelow, deep, rewrite_walk]

end

theorem opener_congr (tree other : FileTree) (path : Path)
    (alike : tree.content path = other.content path) : tree.opener path = other.opener path := by
  unfold opener
  rw [alike]

end FileTree

end DocFinder
