import DocFinder.Proofs.DocumentRoot.Enumeration
import Mathlib.Data.List.Lex
import Mathlib.Data.List.Pairwise
import Mathlib.Data.String.Basic

namespace DocFinder

def Precedes (first second : List String) : Prop :=
  ∃ common name other rest more, first = common ++ name :: rest ∧
    second = common ++ other :: more ∧ name < other

theorem Precedes.lt (first second : List String) (precedes : Precedes first second) :
    first < second := by
  obtain ⟨common, name, other, rest, more, rfl, rfl, smaller⟩ := precedes
  exact List.Lex.append_left _ (List.Lex.rel smaller) common

theorem Precedes.apart (first second : List String) (precedes : Precedes first second) :
    ¬ first <+: second ∧ ¬ second <+: first := by
  obtain ⟨common, name, other, rest, more, rfl, rfl, smaller⟩ := precedes
  rw [List.prefix_append_right_inj, List.prefix_append_right_inj, List.cons_prefix_cons,
    List.cons_prefix_cons]
  exact ⟨fun along => ne_of_lt smaller along.1, fun along => ne_of_lt smaller along.1.symm⟩

def ItemPrecedes (root : Path) (item another : PathItem) : Prop :=
  ∃ first second, itemPath? item = some (root.below first) ∧
    itemPath? another = some (root.below second) ∧ Precedes first second

namespace FileTree

theorem insertName_rising (name : String) (names : List String)
    (rising : names.Pairwise (· < ·)) : (insertName name names).Pairwise (· < ·) := by
  induction names with
  | nil => exact List.pairwise_singleton _ name
  | cons other rest ih =>
      obtain ⟨above, later⟩ := List.pairwise_cons.mp rising
      unfold insertName
      by_cases before : name < other
      · rw [if_pos before]
        refine List.pairwise_cons.mpr ⟨?_, rising⟩
        intro next member
        rcases List.mem_cons.mp member with rfl | member
        · exact before
        · exact lt_trans before (above next member)
      · rw [if_neg before]
        by_cases same : name = other
        · rw [if_pos same]
          exact rising
        · rw [if_neg same]
          refine List.pairwise_cons.mpr ⟨?_, ih later⟩
          intro next member
          rcases (mem_insertName next name rest).mp member with rfl | member
          · exact lt_of_le_of_ne (not_lt.mp before) (Ne.symm same)
          · exact above next member

theorem names_rising (tree : FileTree) (place : Place) : (tree.names place).Pairwise (· < ·) := by
  have rising (names : List String) : (names.foldr insertName []).Pairwise (· < ·) := by
    induction names with
    | nil => exact List.Pairwise.nil
    | cons name rest ih => exact insertName_rising name _ ih
  exact rising _

theorem found_below (tree : FileTree) (verdict : Verdict) (root : Path) (above : List Place)
    (names : List String) (item : PathItem) (found : Found tree verdict root above names item) :
    ∃ rest, itemPath? item = some (root.below (names ++ rest)) ∧
      ∀ name ∈ rest, ∃ place, name ∈ tree.names place := by
  induction found with
  | unknown above names place name error enters member shape kept =>
      exact ⟨[name], rfl, by simpa using ⟨place, member⟩⟩
  | file above names place name enters member shape =>
      exact ⟨[name], rfl, by simpa using ⟨place, member⟩⟩
  | under above names place name item enters member shape kept further ih =>
      obtain ⟨rest, path, steps⟩ := ih
      rw [List.append_assoc, List.singleton_append] at path
      exact ⟨name :: rest, path, List.forall_mem_cons.mpr ⟨⟨place, member⟩, steps⟩⟩
  | _ => exact ⟨[], by rw [List.append_nil]; rfl, by simp⟩

section

variable (tree : FileTree) (verdict : Verdict) (root : Path) (fuel : Nat)

theorem walkEntry_below (above : List Place) (names : List String) (place : Place) (name : String)
    (item : PathItem) (member : item ∈ tree.walkEntry verdict root fuel above names place name) :
    ∃ rest, itemPath? item = some (root.below (names ++ name :: rest)) := by
  rw [walkEntry] at member
  split at member
  · split at member
    · cases member
    · rw [List.mem_singleton.mp member]
      exact ⟨[], rfl⟩
  · split at member
    · cases member
    · have found := walk_found tree verdict root fuel _ _ _ member
      obtain ⟨rest, path, _⟩ := found_below tree verdict root _ _ _ found
      rw [List.append_assoc, List.singleton_append] at path
      exact ⟨rest, path⟩
  · rw [List.mem_singleton.mp member]
    exact ⟨[], rfl⟩

theorem walkEntry_ascends (above : List Place) (names : List String) (place : Place) (name : String)
    (further : (tree.walk verdict root fuel (place :: above) (names ++ [name])).Pairwise
      (ItemPrecedes root)) :
    (tree.walkEntry verdict root fuel above names place name).Pairwise (ItemPrecedes root) := by
  unfold walkEntry
  split
  · split
    · exact List.Pairwise.nil
    · exact List.pairwise_singleton _ _
  · split
    · exact List.Pairwise.nil
    · exact further
  · exact List.pairwise_singleton _ _

/-- All that an entry leads to comes before all that a later one of the same directory leads to. -/
theorem walkEntry_precedes (above : List Place) (names : List String) (place : Place)
    (name other : String) (smaller : name < other) (item another : PathItem)
    (one : item ∈ tree.walkEntry verdict root fuel above names place name)
    (two : another ∈ tree.walkEntry verdict root fuel above names place other) :
    ItemPrecedes root item another := by
  obtain ⟨rest, here⟩ := walkEntry_below tree verdict root fuel above names place name item one
  obtain ⟨more, there⟩ :=
    walkEntry_below tree verdict root fuel above names place other another two
  exact ⟨_, _, here, there, names, name, other, rest, more, rfl, rfl, smaller⟩

theorem walk_ascends (above : List Place) (names : List String) :
    (tree.walk verdict root fuel above names).Pairwise (ItemPrecedes root) := by
  induction fuel generalizing above names with
  | zero => exact List.Pairwise.nil
  | succ fuel ih =>
      cases stopped : tree.stoppedBy? root above names with
      | some error =>
          rw [walk_stopped tree verdict root fuel above names error stopped]
          exact List.pairwise_singleton _ _
      | none =>
          obtain ⟨place, enters⟩ := (stoppedBy_none_iff tree root above names).mp stopped
          rw [walk_entered tree verdict root fuel above names place enters, List.pairwise_flatMap]
          constructor
          · intro name _
            exact walkEntry_ascends tree verdict root fuel above names place name (ih _ _)
          · apply (tree.names_rising place).imp
            intro name other smaller item one another two
            exact walkEntry_precedes tree verdict root fuel above names place name other smaller item
              another one two

end

end FileTree

namespace DocumentRoot

/-- The names that lead from the root to the path that an item is about. -/
def wayOf (root : Path) (item : PathItem) : List String :=
  ((itemPath? item).map (namesBelow root)).getD []

theorem wayOf_below (root : Path) (item : PathItem) (names : List String)
    (path : itemPath? item = some (root.below names)) : wayOf root item = names := by
  simp [wayOf, path, namesBelow, Path.below]

variable (tree : FileTree) (verdict : Verdict) (root : Path)

theorem itemsBelow_ascend : (itemsBelow tree verdict root).Pairwise (ItemPrecedes root) :=
  (tree.walk_ascends verdict root tree.depth [] []).sublist List.filter_sublist

theorem path_of_way (item : PathItem) (member : item ∈ itemsBelow tree verdict root) :
    itemPath? item = some (root.below (wayOf root item)) := by
  rw [itemsBelow, List.mem_filter, FileTree.mem_walk_iff] at member
  obtain ⟨names, path, _⟩ := FileTree.found_below tree verdict root [] [] item member.1
  rw [wayOf_below root item _ path]
  exact path

theorem itemsBelow_nodup (tree : FileTree) (verdict : Verdict) (root : Path) :
    ((itemsBelow tree verdict root).map itemPath?).Nodup := by
  rw [List.Nodup, List.pairwise_map]
  apply (itemsBelow_ascend tree verdict root).imp
  rintro item another ⟨first, second, here, there, precedes⟩ same
  rw [here, there, Option.some.injEq] at same
  rw [below_injective root first second same] at precedes
  exact precedes.apart.1 (List.prefix_refl second)

theorem ways_ascend :
    (itemsBelow tree verdict root).Pairwise fun item another =>
      Precedes (wayOf root item) (wayOf root another) := by
  apply (itemsBelow_ascend tree verdict root).imp
  rintro item another ⟨first, second, here, there, precedes⟩
  rw [wayOf_below root item first here, wayOf_below root another second there]
  exact precedes

def Alone (item another : PathItem) : Prop :=
  (wayOf root item <+: wayOf root another → another = item) ∧
    (wayOf root another <+: wayOf root item → item = another)

theorem itemsBelow_alone (item another : PathItem) (one : item ∈ itemsBelow tree verdict root)
    (two : another ∈ itemsBelow tree verdict root) : Alone root item another := by
  have symmetric : Std.Symm (Alone root) := ⟨fun _ _ alone => ⟨alone.2, alone.1⟩⟩
  apply List.Pairwise.forall_of_forall _ _ one two
  · exact fun _ _ => ⟨fun _ => rfl, fun _ => rfl⟩
  · apply (ways_ascend tree verdict root).imp
    intro first second precedes
    exact ⟨fun along => absurd along precedes.apart.1, fun along => absurd along precedes.apart.2⟩

/-- An enumeration rises strictly in the order of the names on the way, documents and errors alike.
No path comes twice, and an error is all that comes of its path and of what is beneath it. -/
theorem enumeration_ascends (root : DocumentRoot) (given : List PathItem)
    (yields : root.items tree = .ok given) :
    (∀ item ∈ given, itemPath? item = some (root.path.below (wayOf root.path item))) ∧
      (given.Pairwise fun item another => wayOf root.path item < wayOf root.path another) ∧
      (given.map itemPath?).Nodup ∧
      ∀ error, .error error ∈ given → ∀ item ∈ given,
        wayOf root.path (.error error) <+: wayOf root.path item → item = .error error := by
  obtain ⟨spec, _, _, rfl⟩ := (items_ok_iff tree root given).mp yields
  let verdict := spec.verdict?
  refine ⟨path_of_way tree verdict root.path, ?_, itemsBelow_nodup tree verdict root.path, ?_⟩
  · apply (ways_ascend tree verdict root.path).imp
    exact fun precedes => precedes.lt
  · intro error reported item member
    exact (itemsBelow_alone tree verdict root.path (.error error) item reported member).1

def ladderTree : FileTree where
  entries := [(["r"], .directory), (["r", "a.md"], .file []), (["r", "a"], .directory),
    (["r", "a", "up"], .link ".."), (["r", "a", "b.md"], .file [])]

theorem ladderTree_ascends :
    let root : DocumentRoot := { path := ⟨.root, ["r"]⟩ }
    ∃ given, root.items ladderTree = .ok given ∧
      given.map (wayOf root.path) = [["a", "b.md"], ["a", "up"], ["a.md"]] ∧
      (given.Pairwise fun item another => wayOf root.path item < wayOf root.path another) := by
  intro root
  have listed : (root.items ladderTree).toOption.map (·.map (wayOf root.path)) =
      some [["a", "b.md"], ["a", "up"], ["a.md"]] := by
    decide +kernel
  cases yields : root.items ladderTree with
  | error breakdown =>
      rw [yields] at listed
      cases listed
  | ok given =>
      rw [yields] at listed
      exact ⟨given, rfl, Option.some.inj listed,
        (enumeration_ascends ladderTree root given yields).2.1⟩

end DocumentRoot

end DocFinder
