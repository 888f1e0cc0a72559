import DocFinder.Proofs.Discovery.Outcome
import DocFinder.Proofs.FileTree.Descent

namespace DocFinder

structure Path.AtOrAbove (ancestor path : Path) : Prop where
  anchor : ancestor.anchor = path.anchor
  parts : ancestor.parts <+: path.parts

namespace Path

theorem AtOrAbove.refl (path : Path) : path.AtOrAbove path := ⟨rfl, List.prefix_refl _⟩

theorem AtOrAbove.trans {first second third : Path} (above : first.AtOrAbove second)
    (further : second.AtOrAbove third) : first.AtOrAbove third :=
  ⟨above.anchor.trans further.anchor, above.parts.trans further.parts⟩

theorem AtOrAbove.antisymm {first second : Path} (above : first.AtOrAbove second)
    (below : second.AtOrAbove first) : first = second := by
  obtain ⟨anchor, parts⟩ := first
  obtain ⟨other, others⟩ := second
  obtain rfl : anchor = other := above.anchor
  obtain rfl : parts = others :=
    above.parts.eq_of_length (Nat.le_antisymm above.parts.length_le below.parts.length_le)
  rfl

theorem AtOrAbove.total {first second path : Path} (above : first.AtOrAbove path)
    (also : second.AtOrAbove path) : first.AtOrAbove second ∨ second.AtOrAbove first := by
  have anchors := above.anchor.trans also.anchor.symm
  rcases List.prefix_or_prefix_of_prefix above.parts also.parts with shorter | longer
  · exact .inl ⟨anchors, shorter⟩
  · exact .inr ⟨anchors.symm, longer⟩

theorem mem_withAncestors_iff (path directory : Path) :
    directory ∈ path.withAncestors ↔ directory.AtOrAbove path := by
  rw [withAncestors, List.mem_map]
  constructor
  · rintro ⟨up, _, rfl⟩
    exact ⟨rfl, List.take_prefix _ _⟩
  · intro above
    have short := above.parts.length_le
    refine ⟨path.parts.length - directory.parts.length, List.mem_range.mpr (by omega), ?_⟩
    obtain ⟨anchor, parts⟩ := directory
    obtain rfl : anchor = path.anchor := above.anchor
    have count : path.parts.length - (path.parts.length - parts.length) = parts.length := by
      dsimp only at short
      omega
    rw [count, ← List.prefix_iff_eq_take.mp above.parts]

theorem withAncestors_rise (path : Path) :
    path.withAncestors.Pairwise fun near far => far.AtOrAbove near := by
  rw [withAncestors, List.pairwise_map]
  refine (List.pairwise_lt_range).imp ?_
  intro near far nearer
  exact ⟨rfl, List.take_prefix_take_left (by omega)⟩

end Path

/-- A directory holds a configuration directory, or a link to a directory by that name. -/
def FileTree.Holds (tree : FileTree) (directory : Path) : Prop :=
  tree.isDirectory (directory.child configurationDirectory) = true

namespace Discovery

/-- The search from a path comes to a directory: it is at or above the path, and none that is nearer
holds a configuration directory. -/
structure Searched (tree : FileTree) (start directory : Path) : Prop where
  above : directory.AtOrAbove start
  nearer : ∀ near, near.AtOrAbove start → directory.AtOrAbove near → near ≠ directory →
    ¬ tree.Holds near

/-- The nearest directory at or above a path that holds a configuration directory, or the path
itself if there is none. -/
structure Nearest (tree : FileTree) (start base : Path) : Prop where
  searched : Searched tree start base
  found : tree.Holds base ∨ base = start ∧ ∀ directory, directory.AtOrAbove start →
    ¬ tree.Holds directory

section

variable {tree : FileTree} {start : Path}

theorem Searched.nearer_searched {directory near : Path} (searched : Searched tree start directory)
    (above : near.AtOrAbove start) (between : directory.AtOrAbove near) (apart : near ≠ directory) :
    Searched tree start near := by
  refine ⟨above, fun other other_above beyond other_apart => ?_⟩
  refine searched.nearer other other_above (between.trans beyond) ?_
  rintro rfl
  exact apart (beyond.antisymm between)

theorem base_nearest (tree : FileTree) (start : Path) : Nearest tree start (base tree start) := by
  unfold base
  cases found : start.withAncestors.find? fun directory =>
      tree.isDirectory (directory.child configurationDirectory) with
  | none =>
      have bare (directory : Path) (above : directory.AtOrAbove start) : ¬ tree.Holds directory :=
        List.find?_eq_none.mp found directory ((start.mem_withAncestors_iff directory).mpr above)
      exact ⟨⟨.refl start, fun near above _ _ => bare near above⟩, .inr ⟨rfl, bare⟩⟩
  | some directory =>
      obtain ⟨holds, before, after, parts, passed⟩ := List.find?_eq_some_iff_append.mp found
      have member : directory ∈ start.withAncestors := by simp [parts]
      refine ⟨⟨(start.mem_withAncestors_iff directory).mp member, ?_⟩, .inl holds⟩
      intro near above between apart holds_near
      have rising := start.withAncestors_rise
      rw [parts, List.pairwise_append, List.pairwise_cons] at rising
      have listed := (start.mem_withAncestors_iff near).mpr above
      rw [parts, List.mem_append, List.mem_cons] at listed
      rcases listed with earlier | same | later
      · have refused := passed near earlier
        rw [holds_near] at refused
        cases refused
      · exact apart same
      · exact apart ((rising.2.1.1 near later).antisymm between)

theorem Nearest.unique {first second : Path} (nearest : Nearest tree start first)
    (again : Nearest tree start second) : first = second := by
  have ordered {far near : Path} (nearest : Nearest tree start far)
      (again : Nearest tree start near) (above : far.AtOrAbove near) : far = near := by
    by_contra apart
    have bare := nearest.searched.nearer near again.searched.above above (Ne.symm apart)
    rcases again.found with holds | ⟨rfl, none⟩
    · exact bare holds
    · rcases nearest.found with holds | ⟨same, _⟩
      · exact none far nearest.searched.above holds
      · exact apart same
  rcases nearest.searched.above.total again.searched.above with above | below
  · exact ordered nearest again above
  · exact (ordered again nearest below).symm

theorem nearest_iff (directory : Path) :
    Nearest tree start directory ↔ directory = base tree start := by
  constructor
  · intro nearest
    exact nearest.unique (base_nearest tree start)
  · rintro rfl
    exact base_nearest tree start

end

/-- The canonical form of a path, or of the current directory, from which the search starts. -/
def StartsAt (tree : FileTree) (path : Option Path) (directory : Path) : Prop :=
  start tree (path.getD ⟨.root, tree.current⟩) = .ok directory

section

variable {tree : FileTree} {path : Option Path} {start : Path} (starts : StartsAt tree path start)

include starts

theorem StartsAt.goes_down : start.anchor = .root ∧ ∀ name ∈ start.parts, IsStep name := by
  have canonical : ∃ written, tree.canonical false written = .ok start := by
    simp only [StartsAt, Discovery.start, bind, Except.bind] at starts
    split at starts
    · cases starts
    · rename_i written _
      split at starts
      · rename_i found canonical
        cases starts
        exact ⟨written, canonical⟩
      · cases starts
      · cases starts
  obtain ⟨written, canonical⟩ := canonical
  obtain ⟨followed, rfl⟩ := tree.canonical_absolute false written start canonical
  exact ⟨rfl, withoutDots_isStep _⟩

theorem StartsAt.discover_eq : tree.discover path = fromBase tree (base tree start) := by
  simp only [FileTree.discover, show Discovery.start tree _ = _ from starts]

end

/-- The places by whose entries the search finds the nearest directory: those on the way to the
start, and the configuration directories of the directories that it comes to. -/
inductive Asked (tree : FileTree) (start : Path) : Place → Prop
  | way (place : Place) (above : place <+: start.parts) : Asked tree start place
  | held (holder : Path) (searched : Searched tree start holder) :
      Asked tree start (holder.child configurationDirectory).parts

/-- A place in the configuration directory of a directory that the search does not come to, since a
nearer one holds one or since it is off the way to the start. -/
structure Elsewhere (tree : FileTree) (start : Path) (place : Place) : Prop where
  inside : ∃ holder rest, place = holder ++ configurationDirectory :: rest ∧
    configurationDirectory ∉ rest ∧ ¬ Searched tree start ⟨.root, holder⟩
  off : ¬ place <+: start.parts

section

variable {tree other : FileTree} {start : Path} (rooted : start.anchor = .root)

include rooted

theorem Elsewhere.unasked {place : Place} (elsewhere : Elsewhere tree start place) :
    ¬ Asked tree start place := by
  intro asked
  obtain ⟨⟨holder, rest, parts, innermost, unsearched⟩, off⟩ := elsewhere
  cases asked with
  | way _ above => exact off above
  | held searched_holder searched =>
      have root : searched_holder = ⟨.root, searched_holder.parts⟩ := by
        rw [← rooted, ← searched.above.anchor]
      rw [Path.child] at parts
      -- The last name of the place is that of a configuration directory, so that nothing is inside.
      rcases rest.eq_nil_or_concat with rfl | ⟨front, last, rfl⟩
      · obtain ⟨same, _⟩ := List.append_inj' parts rfl
        rw [← same, ← root] at unsearched
        exact unsearched searched
      · rw [List.concat_eq_append, ← List.cons_append, ← List.append_assoc] at parts
        obtain ⟨_, same⟩ := List.append_inj' parts rfl
        apply innermost
        rw [List.head_eq_of_cons_eq same]
        simp

variable (steps : ∀ name ∈ start.parts, IsStep name)
  (kept : ∀ place, Asked tree start place → other.entry? place = tree.entry? place)

include steps kept

theorem holds_congr (holder : Path) (searched : Searched tree start holder)
    (uncrossed : ¬ tree.Crosses (holder.child configurationDirectory)) :
    other.Holds holder ↔ tree.Holds holder := by
  obtain ⟨anchor, parts⟩ := holder
  obtain rfl : anchor = .root := searched.above.anchor.trans rooted
  have steps_held : ∀ name ∈ parts ++ [configurationDirectory], IsStep name := by
    intro name member
    rcases List.mem_append.mp member with inside | last
    · exact steps name (searched.above.parts.subset inside)
    · rw [List.mem_singleton.mp last]
      exact ⟨by decide, by decide⟩
  have alike (front : Place) (ahead : front <+: parts ++ [configurationDirectory]) :
      other.entry? front = tree.entry? front := by
    rcases List.prefix_concat_iff.mp ahead with rfl | shorter
    · exact kept _ (.held _ searched)
    · exact kept front (.way front (shorter.trans searched.above.parts))
  unfold FileTree.Holds
  rw [Path.child, FileTree.isDirectory_congr tree other _ steps_held alike uncrossed]

end

theorem Nearest.of_alike {tree other : FileTree} {start base : Path}
    (nearest : Nearest tree start base)
    (alike : ∀ holder, Searched tree start holder → (other.Holds holder ↔ tree.Holds holder)) :
    Nearest other start base := by
  constructor
  · refine ⟨nearest.searched.above, fun near above between apart holds => ?_⟩
    have searched := nearest.searched.nearer_searched above between apart
    exact nearest.searched.nearer near above between apart ((alike near searched).mp holds)
  · rcases nearest.found with holds | ⟨same, bare⟩
    · exact .inl ((alike base nearest.searched).mpr holds)
    · refine .inr ⟨same, fun directory above holds => ?_⟩
      have searched : Searched tree start directory :=
        ⟨above, fun near near_above _ _ => bare near near_above⟩
      exact bare directory above ((alike directory searched).mp holds)

end Discovery

end DocFinder
