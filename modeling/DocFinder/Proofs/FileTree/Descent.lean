import DocFinder.FileTree.Canonical
import DocFinder.Proofs.FileTree.Resolution

namespace DocFinder

theorem withoutDots_isStep (names : List String) : ∀ name ∈ withoutDots names, IsStep name := by
  have steps (done : List String) (before : ∀ name ∈ done, IsStep name) :
      ∀ name ∈ names.foldl (fun done name =>
        if name = "." then done else if name = ".." then done.dropLast else done ++ [name]) done,
        IsStep name := by
    induction names generalizing done with
    | nil => exact before
    | cons first rest ih =>
        rw [List.foldl_cons]
        apply ih
        split
        · exact before
        · split
          · exact fun name member => before name ((List.dropLast_sublist done).subset member)
          · intro name member
            rcases List.mem_append.mp member with earlier | last
            · exact before name earlier
            · rw [List.mem_singleton.mp last]
              exact ⟨‹_›, ‹_›⟩
  exact steps [] nofun

namespace FileTree

def Crosses (tree : FileTree) (path : Path) : Prop :=
  ∃ directory target rest,
    tree.descend true (tree.startOf path) path.parts = .link directory target rest

def reached? (tree : FileTree) (path : Path) : Option (Place × Option Entry) :=
  match tree.lookup path with
  | .ok place => some (place, tree.entry? place)
  | .error _ => none

theorem canonical_absolute (tree : FileTree) (strict : Bool) (path found : Path)
    (canonical : tree.canonical strict path = .ok found) :
    ∃ followed, found = tree.absolute followed := by
  have given (result : Path) (looped : Bool)
      (ends : (if looped = true then .error .linkLoop else pure result) =
        (.ok found : Except CanonicalFault Path)) : found = result := by
    cases looped <;> cases ends
    rfl
  simp only [FileTree.canonical, bind, Except.bind] at canonical
  split at canonical
  · cases canonical
  · exact ⟨_, given _ _ canonical⟩

section

variable {tree other : FileTree}

theorem Leads.goes_down {place target : Place} {way : List String} {links : Nat}
    (leads : tree.Leads place way target links) (unlinked : links = 0)
    (steps : ∀ name ∈ way, IsStep name) : target = place ++ way := by
  induction leads with
  | arrived place => exact (List.append_nil place).symm
  | @step place next _ name rest _ _ moves _ ih =>
      have step := steps name List.mem_cons_self
      have ends := ih unlinked fun other member => steps other (List.mem_cons_of_mem name member)
      cases moves with
      | stay dot => exact absurd dot step.1
      | rise dots => exact absurd dots step.2
      | enter _ _ _ => rw [ends, List.append_assoc, List.singleton_append]
  | link => cases unlinked

theorem descend_congr (place : Place) (way : List String) (steps : ∀ name ∈ way, IsStep name)
    (alike : ∀ front, front <+: way → other.entry? (place ++ front) = tree.entry? (place ++ front)) :
    other.descend true place way = tree.descend true place way := by
  induction way generalizing place with
  | nil => rfl
  | cons name rest ih =>
      have here : other.isDirectoryAt place = tree.isDirectoryAt place := by
        have same := alike [] List.nil_prefix
        rw [List.append_nil] at same
        rw [isDirectoryAt, isDirectoryAt, same]
      have next : other.entry? (place ++ [name]) = tree.entry? (place ++ [name]) :=
        alike [name] (List.cons_prefix_cons.mpr ⟨rfl, List.nil_prefix⟩)
      have further := ih (place ++ [name])
        (fun other member => steps other (List.mem_cons_of_mem name member)) (by
          intro front ahead
          rw [List.append_assoc]
          exact alike (name :: front) (List.cons_prefix_cons.mpr ⟨rfl, ahead⟩))
      have step := steps name List.mem_cons_self
      obtain ⟨outside, goes_on⟩ := tree.descend_cons true place name rest
      obtain ⟨outside_other, goes_on_other⟩ := other.descend_cons true place name rest
      rw [here] at outside_other goes_on_other
      rw [next] at goes_on_other
      cases inside : tree.isDirectoryAt place with
      | false => rw [outside inside, outside_other inside]
      | true =>
          obtain ⟨moved, stopped⟩ := goes_on inside
          obtain ⟨moved_other, stopped_other⟩ := goes_on_other inside
          cases present : tree.entry? (place ++ [name]) with
          | none => rw [(stopped step).1 present, (stopped_other step).1 present]
          | some entry =>
              by_cases linked : ∃ written, entry = .link written
              · obtain ⟨written, rfl⟩ := linked
                rw [(stopped step).2 written present, (stopped_other step).2 written present]
              · have solid (target : String) : entry ≠ .link target :=
                  fun same => linked ⟨target, same⟩
                rw [moved _ (.enter step present solid),
                  moved_other _ (.enter step (next.trans present) solid), further]

end

/-- Whether there is a directory at the end of a way from the root depends on the entries on the way
alone, unless a link is met. -/
theorem isDirectory_congr (tree other : FileTree) (way : List String)
    (steps : ∀ name ∈ way, IsStep name)
    (alike : ∀ front, front <+: way → other.entry? front = tree.entry? front)
    (uncrossed : ¬ tree.Crosses ⟨.root, way⟩) :
    other.isDirectory ⟨.root, way⟩ = tree.isDirectory ⟨.root, way⟩ := by
  have gone : other.descend true [] way = tree.descend true [] way :=
    descend_congr [] way steps alike
  have looked (tree : FileTree) :
      tree.lookup ⟨.root, way⟩ = tree.locate true linkLimit [] way := rfl
  simp only [isDirectory, looked]
  rw [locate, locate, gone]
  cases stop : tree.descend true [] way with
  | arrived target =>
      obtain rfl : target = way :=
        ((tree.leads_of_descend [] target way).1 stop).goes_down rfl steps
      simp only [isDirectoryAt, alike target (List.prefix_refl target)]
  | fault fault => rfl
  | link directory target rest => exact absurd ⟨directory, target, rest, stop⟩ uncrossed

end FileTree

end DocFinder
