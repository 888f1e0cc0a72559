import DocFinder.Proofs.FileTree.Children

namespace DocFinder.FileTree

structure Enters (tree : FileTree) (root : Path) (above : List Place) (names : List String)
    (place : Place) : Prop where
  looked : tree.lookup (root.below names) = .ok place
  fresh : place ∉ above
  inside : tree.isDirectoryAt place = true
  listed : place ∉ tree.closed

def written (root : Path) (names : List String) (name : String) : String :=
  if root.below names = .here then "./" ++ name else (root.below (names ++ [name])).text

def shapeBelow (tree : FileTree) (root : Path) (names : List String) (place : Place)
    (name : String) : Shape :=
  tree.shape (place ++ [name]) (root.below (names ++ [name])) (written root names name)

inductive Found (tree : FileTree) (verdict : Verdict) (root : Path) :
    List Place → List String → PathItem → Prop where
  | lost (above names fault) (looked : tree.lookup (root.below names) = .error fault) :
      Found tree verdict root above names
        (.error (.unknownState (root.below names) (fault.about (root.below names).text)))
  | again (above names place) (looked : tree.lookup (root.below names) = .ok place)
      (seen : place ∈ above) :
      Found tree verdict root above names (.error (.loop (root.below names)))
  | unlisted (above names place) (looked : tree.lookup (root.below names) = .ok place)
      (fresh : place ∉ above) (error)
      (refused : tree.listFault? place (root.below names).text = some error) :
      Found tree verdict root above names (.error (.unlisted (root.below names) error))
  | unknown (above names place name error) (enters : tree.Enters root above names place)
      (member : name ∈ tree.names place) (shape : tree.shapeBelow root names place name = .unknown error)
      (kept : verdict (relativeText (names ++ [name])) ≠ some false) :
      Found tree verdict root above names (.error (.unknownState (root.below (names ++ [name])) error))
  | file (above names place name) (enters : tree.Enters root above names place)
      (member : name ∈ tree.names place) (shape : tree.shapeBelow root names place name = .file) :
      Found tree verdict root above names (.ok (root.below (names ++ [name])))
  | under (above names place name item) (enters : tree.Enters root above names place)
      (member : name ∈ tree.names place) (shape : tree.shapeBelow root names place name = .directory)
      (kept : verdict (relativeText (names ++ [name]) ++ "/") ≠ some false)
      (further : Found tree verdict root (place :: above) (names ++ [name]) item) :
      Found tree verdict root above names item

def walkEntry (tree : FileTree) (verdict : Verdict) (root : Path) (fuel : Nat) (above : List Place)
    (names : List String) (place : Place) (name : String) : List PathItem :=
  match tree.shapeBelow root names place name with
  | .unknown error =>
    if verdict (relativeText (names ++ [name])) = some false then []
    else [.error (.unknownState (root.below (names ++ [name])) error)]
  | .directory =>
    if verdict (relativeText (names ++ [name]) ++ "/") = some false then []
    else tree.walk verdict root fuel (place :: above) (names ++ [name])
  | .file => [.ok (root.below (names ++ [name]))]

theorem listFault_none_iff (tree : FileTree) (place : Place) (written : String) :
    tree.listFault? place written = none ↔
      tree.isDirectoryAt place = true ∧ place ∉ tree.closed := by
  unfold listFault?
  cases tree.isDirectoryAt place <;> simp

theorem Enters.listFault (tree : FileTree) (root : Path) (above : List Place) (names : List String)
    (place : Place) (enters : tree.Enters root above names place) (written : String) :
    tree.listFault? place written = none :=
  (listFault_none_iff tree place written).mpr ⟨enters.inside, enters.listed⟩

theorem walk_entered (tree : FileTree) (verdict : Verdict) (root : Path) (fuel : Nat)
    (above : List Place) (names : List String) (place : Place)
    (enters : tree.Enters root above names place) :
    tree.walk verdict root (fuel + 1) above names =
      (tree.names place).flatMap (tree.walkEntry verdict root fuel above names place) := by
  have unseen : above.contains place = false := by simpa using enters.fresh
  simp only [walk, enters.looked, unseen, enters.listFault, Bool.false_eq_true, if_false]
  rfl

def stoppedBy? (tree : FileTree) (root : Path) (above : List Place) (names : List String) :
    Option DocumentError :=
  match tree.lookup (root.below names) with
  | .error fault => some (.unknownState (root.below names) (fault.about (root.below names).text))
  | .ok place =>
    if above.contains place then some (.loop (root.below names))
    else (tree.listFault? place (root.below names).text).map (.unlisted (root.below names))

theorem stoppedBy_none_iff (tree : FileTree) (root : Path) (above : List Place)
    (names : List String) :
    tree.stoppedBy? root above names = none ↔ ∃ place, tree.Enters root above names place := by
  unfold stoppedBy?
  cases looked : tree.lookup (root.below names) with
  | error fault =>
      apply iff_of_false (Option.some_ne_none _)
      rintro ⟨place, enters⟩
      cases looked.symm.trans enters.looked
  | ok place =>
      have entered : (∃ other, tree.Enters root above names other) ↔
          place ∉ above ∧ tree.listFault? place (root.below names).text = none := by
        rw [listFault_none_iff]
        constructor
        · rintro ⟨other, same, fresh, inside, listed⟩
          cases looked.symm.trans same
          exact ⟨fresh, inside, listed⟩
        · rintro ⟨fresh, inside, listed⟩
          exact ⟨place, looked, fresh, inside, listed⟩
      rw [entered]
      by_cases seen : place ∈ above <;> simp [seen]

theorem walk_stopped (tree : FileTree) (verdict : Verdict) (root : Path) (fuel : Nat)
    (above : List Place) (names : List String) (error : DocumentError)
    (stopped : tree.stoppedBy? root above names = some error) :
    tree.walk verdict root (fuel + 1) above names = [.error error] := by
  unfold stoppedBy? at stopped
  cases looked : tree.lookup (root.below names) with
  | error fault =>
      simp only [looked, Option.some.injEq] at stopped
      simp only [walk, looked, stopped]
  | ok place =>
      simp only [looked] at stopped
      split at stopped
      · rename_i seen
        cases stopped
        simp only [walk, looked, seen, if_true]
      · rename_i unseen
        obtain ⟨refusal, refused, rfl⟩ := Option.map_eq_some_iff.mp stopped
        simp only [walk, looked, unseen, refused, Bool.false_eq_true, if_false]

theorem walkEntry_found (tree : FileTree) (verdict : Verdict) (root : Path) (fuel : Nat)
    (above : List Place) (names : List String) (place : Place) (name : String) (item : PathItem)
    (enters : tree.Enters root above names place) (entry : name ∈ tree.names place)
    (further : item ∈ tree.walk verdict root fuel (place :: above) (names ++ [name]) →
      Found tree verdict root (place :: above) (names ++ [name]) item)
    (added : item ∈ tree.walkEntry verdict root fuel above names place name) :
    Found tree verdict root above names item := by
  unfold walkEntry at added
  split at added
  · rename_i error shape
    split at added
    · cases added
    · rename_i kept
      rw [List.mem_singleton] at added
      subst item
      exact .unknown above names place name error enters entry shape kept
  · rename_i shape
    split at added
    · cases added
    · rename_i kept
      exact .under above names place name item enters entry shape kept (further added)
  · rename_i shape
    rw [List.mem_singleton] at added
    subst item
    exact .file above names place name enters entry shape

theorem walk_found (tree : FileTree) (verdict : Verdict) (root : Path) (fuel : Nat)
    (above : List Place) (names : List String) (item : PathItem)
    (member : item ∈ tree.walk verdict root fuel above names) :
    Found tree verdict root above names item := by
  induction fuel generalizing above names with
  | zero => cases member
  | succ fuel ih =>
      cases looked : tree.lookup (root.below names) with
      | error fault =>
          simp only [walk, looked, List.mem_singleton] at member
          subst item
          exact .lost above names fault looked
      | ok place =>
          by_cases seen : place ∈ above
          · have contains : above.contains place = true := by simpa using seen
            simp only [walk, looked, contains, if_true, List.mem_singleton] at member
            subst item
            exact .again above names place looked seen
          · have unseen : above.contains place = false := by simpa using seen
            cases refused : tree.listFault? place (root.below names).text with
            | some error =>
                simp only [walk, looked, unseen, refused, Bool.false_eq_true, if_false,
                  List.mem_singleton] at member
                subst item
                exact .unlisted above names place looked seen error refused
            | none =>
                obtain ⟨inside, listed⟩ := (listFault_none_iff tree place _).mp refused
                have enters : tree.Enters root above names place := ⟨looked, seen, inside, listed⟩
                rw [walk_entered tree verdict root fuel above names place enters,
                  List.mem_flatMap] at member
                obtain ⟨name, entry, added⟩ := member
                exact walkEntry_found tree verdict root fuel above names place name item enters
                  entry (ih _ _) added

def remaining (tree : FileTree) (above : List Place) : List Place :=
  ([] :: tree.entries.map Prod.fst).filter fun place => place ∉ above

theorem directory_listed (tree : FileTree) (place : Place)
    (inside : tree.isDirectoryAt place = true) : place ∈ [] :: tree.entries.map Prod.fst := by
  by_cases top : place = []
  · exact List.mem_cons.mpr (Or.inl top)
  · have present : tree.entry? place = some .directory := eq_of_beq inside
    exact List.mem_cons_of_mem _
      (List.mem_map.mpr ⟨_, tree.entry_mem place .directory top present, rfl⟩)

/-- Each directory that is entered leaves fewer that can be. -/
theorem remaining_decreases (tree : FileTree) (root : Path) (above : List Place)
    (names : List String) (place : Place) (enters : tree.Enters root above names place) :
    (tree.remaining (place :: above)).length < (tree.remaining above).length := by
  have narrowed : tree.remaining (place :: above) =
      (tree.remaining above).filter fun other => other ≠ place := by
    unfold remaining
    rw [List.filter_filter]
    congr 1
    funext other
    simp [not_or]
  have present : place ∈ tree.remaining above :=
    List.mem_filter.mpr ⟨tree.directory_listed place enters.inside, by simpa using enters.fresh⟩
  rw [narrowed, List.length_filter_lt_length_iff_exists]
  exact ⟨place, present, by simp⟩

theorem found_walk (tree : FileTree) (verdict : Verdict) (root : Path) (fuel : Nat)
    (above : List Place) (names : List String) (item : PathItem)
    (found : Found tree verdict root above names item)
    (enough : (tree.remaining above).length ≤ fuel) :
    item ∈ tree.walk verdict root (fuel + 1) above names := by
  -- The bound shrinks with the directories that are not above.
  induction found generalizing fuel with
  | lost above names fault looked =>
      simp only [walk, looked, List.mem_singleton]
  | again above names place looked seen =>
      have contains : above.contains place = true := by simpa using seen
      simp only [walk, looked, contains, if_true, List.mem_singleton]
  | unlisted above names place looked fresh error refused =>
      have unseen : above.contains place = false := by simpa using fresh
      simp only [walk, looked, unseen, refused, Bool.false_eq_true, if_false, List.mem_singleton]
  | unknown above names place name error enters member shape kept =>
      rw [walk_entered tree verdict root fuel above names place enters, List.mem_flatMap]
      refine ⟨name, member, ?_⟩
      simp only [walkEntry, shape, if_neg kept, List.mem_singleton]
  | file above names place name enters member shape =>
      rw [walk_entered tree verdict root fuel above names place enters, List.mem_flatMap]
      refine ⟨name, member, ?_⟩
      simp only [walkEntry, shape, List.mem_singleton]
  | under above names place name item enters member shape kept further ih =>
      have fewer := remaining_decreases tree root above names place enters
      obtain ⟨less, rfl⟩ := Nat.exists_eq_add_one_of_ne_zero (by omega : fuel ≠ 0)
      rw [walk_entered tree verdict root (less + 1) above names place enters, List.mem_flatMap]
      refine ⟨name, member, ?_⟩
      simp only [walkEntry, shape, if_neg kept]
      exact ih less (by omega)

theorem remaining_top (tree : FileTree) :
    (tree.remaining []).length ≤ tree.entries.length + 1 := by
  calc
    (tree.remaining []).length ≤ ([] :: tree.entries.map Prod.fst).length :=
      List.length_filter_le _ _
    _ = tree.entries.length + 1 := by rw [List.length_cons, List.length_map]

/-- A walk with its bound meets all there is to meet, on any tree. -/
theorem mem_walk_iff (tree : FileTree) (verdict : Verdict) (root : Path) (item : PathItem) :
    item ∈ tree.walk verdict root tree.depth [] [] ↔ Found tree verdict root [] [] item := by
  constructor
  · exact walk_found tree verdict root tree.depth [] [] item
  · intro found
    exact found_walk tree verdict root (tree.entries.length + 1) [] [] item found tree.remaining_top

end DocFinder.FileTree
