import DocFinder.Proofs.DocumentRoot.Course

namespace DocFinder

def itemPath? : PathItem → Option Path
  | .ok path => some path
  | .error error => error.path?

theorem below_child (root : Path) (names : List String) (name : String) :
    (root.below names).child name = root.below (names ++ [name]) := by
  simp [Path.below, Path.child]

theorem below_injective (root : Path) (first second : List String)
    (same : root.below first = root.below second) : first = second := by
  simpa [Path.below] using same

namespace FileTree

/-- A directory on the way to a document: it can be listed, it is not left out, and none above it is
the same. -/
structure Passable (tree : FileTree) (verdict : Verdict) (root : Path) (names : List String)
    (place : Place) : Prop where
  directory : tree.directoryAt? (root.below names) = some place
  kept : names ≠ [] → verdict (relativeText names ++ "/") ≠ some false
  fresh : ∀ k < names.length, tree.directoryAt? (root.below (names.take k)) ≠ some place
  listed : place ∉ tree.closed

def HoldsFile (tree : FileTree) (root : Path) (names : List String) (name : String) : Prop :=
  ∃ place, tree.directoryAt? (root.below names) = some place ∧
    (tree.entry? (place ++ [name])).isSome = true ∧
    tree.LeadsToFile (root.below (names ++ [name]))

/-- A file below a root that the verdict takes in. -/
structure Selected (tree : FileTree) (verdict : Verdict) (root : Path) (names : List String) :
    Prop where
  steps : ∀ name ∈ names, IsStep name
  open_way : ∀ k < names.length, ∃ place, Passable tree verdict root (names.take k) place
  file : ∃ directory name, names = directory ++ [name] ∧ tree.HoldsFile root directory name
  taken : verdict (relativeText names) = some true

/-- A directory below a root that the verdict leaves out. -/
structure LeftOut (tree : FileTree) (verdict : Verdict) (root : Path) (names : List String) :
    Prop where
  below : names ≠ []
  directory : tree.directoryAt? (root.below names) ≠ none
  refused : verdict (relativeText names ++ "/") = some false

def OnTheWay (tree : FileTree) (root : Path) (names : List String) (above : List Place) : Prop :=
  ∀ place, place ∈ above ↔
    ∃ k < names.length, tree.directoryAt? (root.below (names.take k)) = some place

theorem onTheWay_step (tree : FileTree) (root : Path) (above : List Place) (names : List String)
    (place : Place) (name : String) (enters : tree.Enters root above names place)
    (way : tree.OnTheWay root names above) :
    tree.OnTheWay root (names ++ [name]) (place :: above) := by
  intro other
  have here : tree.directoryAt? (root.below names) = some place :=
    (tree.directoryAt_iff _ _).mpr ⟨enters.looked, enters.inside⟩
  rw [List.mem_cons, way other, List.length_append, List.length_singleton]
  constructor
  · rintro (rfl | ⟨k, within, found⟩)
    · exact ⟨names.length, by omega, by rw [List.take_left]; exact here⟩
    · exact ⟨k, by omega, by rw [List.take_append_of_le_length (by omega)]; exact found⟩
  · rintro ⟨k, within, found⟩
    by_cases last : k = names.length
    · subst k
      rw [List.take_left, here] at found
      exact Or.inl (Option.some.inj found).symm
    · rw [List.take_append_of_le_length (by omega)] at found
      exact Or.inr ⟨k, by omega, found⟩

theorem enters_iff_passable (tree : FileTree) (verdict : Verdict) (root : Path)
    (above : List Place) (names : List String) (place : Place)
    (way : tree.OnTheWay root names above)
    (kept : names ≠ [] → verdict (relativeText names ++ "/") ≠ some false) :
    tree.Enters root above names place ↔ Passable tree verdict root names place := by
  constructor
  · rintro ⟨looked, fresh, inside, listed⟩
    refine ⟨(tree.directoryAt_iff _ _).mpr ⟨looked, inside⟩, kept, ?_, listed⟩
    intro k within found
    exact fresh ((way place).mpr ⟨k, within, found⟩)
  · rintro ⟨directory, _, fresh, listed⟩
    obtain ⟨looked, inside⟩ := (tree.directoryAt_iff _ _).mp directory
    refine ⟨looked, ?_, inside, listed⟩
    intro seen
    obtain ⟨k, within, found⟩ := (way place).mp seen
    exact fresh k within found

theorem shapeBelow_fits (tree : FileTree) (proper : tree.Proper) (root : Path)
    (above : List Place) (names : List String) (place : Place) (name : String)
    (enters : tree.Enters root above names place) (member : name ∈ tree.names place) :
    tree.ShapeFits (root.below (names ++ [name])) (tree.shapeBelow root names place name) := by
  have directory : tree.directoryAt? (root.below names) = some place :=
    (tree.directoryAt_iff _ _).mpr ⟨enters.looked, enters.inside⟩
  have step := tree.proper_name proper place name member
  obtain ⟨entry, present⟩ := Option.isSome_iff_exists.mp ((tree.mem_names_iff place name).mp member)
  have fits := tree.shape_fits (root.below names) place name (written root names name) entry directory
    step present
  rw [below_child] at fits
  exact fits

theorem prefix_beyond (names rest directory : List String) (name : String)
    (along : directory <+: names ++ name :: rest) (beyond : names.length < directory.length) :
    directory = names ++ [name] ∨ (names ++ [name]).length < directory.length := by
  by_cases longer : (names ++ [name]).length < directory.length
  · exact Or.inr longer
  · left
    have start : names ++ [name] <+: names ++ name :: rest := ⟨rest, by simp⟩
    have short : directory <+: names ++ [name] :=
      List.prefix_of_prefix_length_le along start (Nat.le_of_not_lt longer)
    apply short.eq_of_length
    rw [List.length_append, List.length_singleton] at longer ⊢
    omega

def ClearBelow (tree : FileTree) (verdict : Verdict) (root : Path) (names : List String)
    (item : PathItem) : Prop :=
  ∃ rest, itemPath? item = some (root.below (names ++ rest)) ∧
    ∀ directory, directory <+: names ++ rest → names.length < directory.length →
      ¬ LeftOut tree verdict root directory

theorem clear_here (tree : FileTree) (verdict : Verdict) (root : Path) (names : List String)
    (item : PathItem) (path : itemPath? item = some (root.below names)) :
    ClearBelow tree verdict root names item := by
  refine ⟨[], by rw [List.append_nil]; exact path, fun directory along beyond _ => ?_⟩
  have short := along.length_le
  rw [List.append_nil] at short
  omega

theorem clear_under (tree : FileTree) (verdict : Verdict) (root : Path) (names : List String)
    (name : String) (item : PathItem) (kept : ¬ LeftOut tree verdict root (names ++ [name]))
    (further : ClearBelow tree verdict root (names ++ [name]) item) :
    ClearBelow tree verdict root names item := by
  obtain ⟨rest, path, clear⟩ := further
  rw [List.append_assoc, List.singleton_append] at path clear
  refine ⟨name :: rest, path, fun directory along beyond left_out => ?_⟩
  rcases prefix_beyond names rest directory name along beyond with rfl | longer
  · exact kept left_out
  · exact clear directory along longer left_out

/-- Whatever a walk reports stands below directories that are not left out. -/
theorem found_clear (tree : FileTree) (proper : tree.Proper) (verdict : Verdict) (root : Path)
    (above : List Place) (names : List String) (item : PathItem)
    (found : Found tree verdict root above names item) :
    ClearBelow tree verdict root names item := by
  induction found with
  | lost => exact clear_here tree verdict root _ _ rfl
  | again => exact clear_here tree verdict root _ _ rfl
  | unlisted => exact clear_here tree verdict root _ _ rfl
  | unknown above names place name error enters member shape kept =>
      apply clear_under tree verdict root names name _ _ (clear_here tree verdict root _ _ rfl)
      intro left_out
      have fits := shapeBelow_fits tree proper root above names place name enters member
      rw [shape] at fits
      obtain ⟨fault, looked, _⟩ := fits
      apply left_out.directory
      rw [directoryAt?, looked]
  | file above names place name enters member shape =>
      apply clear_under tree verdict root names name _ _ (clear_here tree verdict root _ _ rfl)
      intro left_out
      have fits := shapeBelow_fits tree proper root above names place name enters member
      rw [shape] at fits
      exact left_out.directory (file_not_directory tree _ fits)
  | under above names place name item enters member shape kept further ih =>
      exact clear_under tree verdict root names name item (fun left_out => kept left_out.refused) ih

theorem found_document (tree : FileTree) (proper : tree.Proper) (verdict : Verdict) (root : Path)
    (above : List Place) (names : List String) (item : PathItem)
    (found : Found tree verdict root above names item) (path : Path) (document : item = .ok path)
    (way : tree.OnTheWay root names above)
    (kept : names ≠ [] → verdict (relativeText names ++ "/") ≠ some false) :
    ∃ rest, path = root.below (names ++ rest) ∧ (∀ name ∈ rest, IsStep name) ∧
      (∀ k, names.length ≤ k → k < (names ++ rest).length →
        ∃ place, Passable tree verdict root ((names ++ rest).take k) place) ∧
      ∃ directory name, names ++ rest = directory ++ [name] ∧ tree.HoldsFile root directory name := by
  induction found with
  | lost => cases document
  | again => cases document
  | unlisted => cases document
  | unknown => cases document
  | file above names place name enters member shape =>
      cases document
      have fits := shapeBelow_fits tree proper root above names place name enters member
      rw [shape] at fits
      have passable := (enters_iff_passable tree verdict root above names place way kept).mp enters
      refine ⟨[name], rfl, ?_, ?_, names, name, rfl, place, passable.directory,
        (tree.mem_names_iff place name).mp member, fits⟩
      · intro other own
        rw [List.mem_singleton.mp own]
        exact tree.proper_name proper place name member
      · intro k beyond within
        rw [List.length_append, List.length_singleton] at within
        have here : k = names.length := by omega
        rw [here, List.take_left]
        exact ⟨place, passable⟩
  | under above names place name item enters member shape refused further ih =>
      obtain ⟨rest, same, steps, open_way, file⟩ := ih document
        (onTheWay_step tree root above names place name enters way) (fun _ => refused)
      rw [List.append_assoc, List.singleton_append] at same open_way file
      have passable := (enters_iff_passable tree verdict root above names place way kept).mp enters
      refine ⟨name :: rest, same, ?_, ?_, file⟩
      · intro other own
        rcases List.mem_cons.mp own with rfl | own
        · exact tree.proper_name proper place other member
        · exact steps other own
      · intro k beyond within
        by_cases here : k = names.length
        · rw [here, List.take_left]
          exact ⟨place, passable⟩
        · apply open_way k _ within
          rw [List.length_append, List.length_singleton]
          omega

theorem document_found (tree : FileTree) (proper : tree.Proper) (verdict : Verdict) (root : Path)
    (names : List String) (selected : Selected tree verdict root names) (done rest : List String)
    (above : List Place)
    (parts : names = done ++ rest) (further : rest ≠ []) (way : tree.OnTheWay root done above)
    (kept : done ≠ [] → verdict (relativeText done ++ "/") ≠ some false) :
    Found tree verdict root above done (.ok (root.below names)) := by
  obtain ⟨steps, open_way, ⟨directory, last, ends, file⟩, _⟩ := selected
  -- Along the way: what is done was entered, and each name of the rest is entered or the last one.
  induction rest generalizing done above with
  | nil => exact absurd rfl further
  | cons name more ih =>
      have within : done.length < names.length := by
        rw [parts, List.length_append, List.length_cons]
        omega
      obtain ⟨place, passable⟩ := open_way done.length within
      rw [parts, List.take_left] at passable
      have enters := (enters_iff_passable tree verdict root above done place way kept).mpr passable
      cases more with
      | nil =>
          obtain ⟨same_directory, same_name⟩ := List.append_inj' (parts.symm.trans ends) rfl
          obtain rfl : name = last := List.singleton_inj.mp same_name
          subst directory
          obtain ⟨other, found, present, leads⟩ := file
          rw [passable.directory] at found
          cases found
          have member := (tree.mem_names_iff place name).mpr present
          have fits := shapeBelow_fits tree proper root above done place name enters member
          rw [parts]
          exact .file above done place name enters member (tree.file_of_fits _ _ fits leads)
      | cons second more =>
          have longer : (done ++ [name]).length < names.length := by
            simp only [parts, List.length_append, List.length_cons, List.length_nil]
            omega
          have split : names = (done ++ [name]) ++ second :: more := by
            rw [parts, List.append_assoc, List.singleton_append]
          obtain ⟨target, next⟩ := open_way (done ++ [name]).length longer
          rw [split, List.take_left] at next
          have step := steps name (by rw [parts]; simp)
          have present := tree.entry_of_directory (root.below done) place target name
            passable.directory step (by rw [below_child]; exact next.directory)
          have member := (tree.mem_names_iff place name).mpr present
          have fits := shapeBelow_fits tree proper root above done place name enters member
          have refused := next.kept (by simp)
          exact .under above done place name _ enters member
            (tree.directory_of_fits _ target _ fits next.directory) refused
            (ih (done ++ [name]) (place :: above) split (List.cons_ne_nil _ _)
              (onTheWay_step tree root above done place name enters way) (fun _ => refused))

/-- Two trees look alike from a root, but for what is at a spot or beneath it. -/
structure AgreesElsewhere (tree other : FileTree) (root : Path) (spot : List String) : Prop where
  directory : ∀ names, ¬ spot <+: names →
    other.directoryAt? (root.below names) = tree.directoryAt? (root.below names)
  file : ∀ names name, ¬ spot <+: names ++ [name] →
    (other.HoldsFile root names name ↔ tree.HoldsFile root names name)
  listed : ∀ names place, ¬ spot <+: names → tree.directoryAt? (root.below names) = some place →
    (place ∈ other.closed ↔ place ∈ tree.closed)

theorem AgreesElsewhere.symm (tree other : FileTree) (root : Path) (spot : List String)
    (agree : AgreesElsewhere tree other root spot) : AgreesElsewhere other tree root spot :=
  ⟨fun names outside => (agree.directory names outside).symm,
    fun names name outside => (agree.file names name outside).symm,
    fun names place outside here =>
      (agree.listed names place outside ((agree.directory names outside).symm.trans here)).symm⟩

theorem selected_elsewhere (tree other : FileTree) (verdict : Verdict) (root : Path)
    (spot names : List String) (agree : AgreesElsewhere tree other root spot)
    (outside : ¬ spot <+: names) (selected : Selected tree verdict root names) :
    Selected other verdict root names := by
  obtain ⟨steps, open_way, ⟨directory, name, ends, file⟩, taken⟩ := selected
  have along (k : Nat) : ¬ spot <+: names.take k := fun beneath =>
    outside (beneath.trans (List.take_prefix k names))
  refine ⟨steps, ?_, ⟨directory, name, ends, ?_⟩, taken⟩
  · intro k within
    obtain ⟨place, here, kept, fresh, listed⟩ := open_way k within
    refine ⟨place, ?_, kept, ?_, ?_⟩
    · rw [agree.directory _ (along k)]
      exact here
    · intro j before
      rw [List.take_take, agree.directory _ (along _), ← List.take_take]
      exact fresh j before
    · rw [agree.listed _ place (along k) here]
      exact listed
  · rw [ends] at outside
    exact (agree.file directory name outside).mpr file

end FileTree

namespace DocumentRoot

open FileTree

theorem keeps_document (verdict : Verdict) (root : Path) (names : List String) :
    keeps verdict root (.ok (root.below names)) = true ↔
      verdict (relativeText names) = some true := by
  simp [keeps, namesBelow, Path.below]

theorem mem_itemsBelow_iff (tree : FileTree) (proper : tree.Proper) (verdict : Verdict)
    (root path : Path) :
    .ok path ∈ itemsBelow tree verdict root ↔
      ∃ names, path = root.below names ∧ Selected tree verdict root names := by
  have top : tree.OnTheWay root [] [] := by
    intro place
    simp
  rw [itemsBelow, List.mem_filter, mem_walk_iff]
  constructor
  · rintro ⟨found, keeps⟩
    obtain ⟨names, rfl, steps, open_way, file⟩ :=
      found_document tree proper verdict root [] [] _ found path rfl top (fun other => absurd rfl other)
    refine ⟨names, rfl, steps, fun k within => open_way k (Nat.zero_le _) within, file, ?_⟩
    exact (keeps_document verdict root names).mp keeps
  · rintro ⟨names, rfl, selected⟩
    refine ⟨?_, (keeps_document verdict root names).mpr selected.taken⟩
    obtain ⟨directory, last, ends, _⟩ := selected.file
    exact document_found tree proper verdict root names selected [] names [] rfl
      (by rw [ends]; simp) top (fun other => absurd rfl other)

theorem items_ok_iff (tree : FileTree) (root : DocumentRoot) (given : List PathItem) :
    root.items tree = .ok given ↔
      ∃ spec, FileSpec.ofLines root.files = .ok spec ∧ root.path.hasNul = false ∧
        given = itemsBelow tree spec.verdict? root.path := by
  unfold items
  cases patterns : FileSpec.ofLines root.files with
  | error error => simp
  | ok spec =>
      cases nul : root.path.hasNul <;> simp [eq_comm]

/-- The documents of a root are the files on open ways that are taken in. Nothing is reported where
a directory is left out, and what is wrong at one spot takes no document from elsewhere. -/
theorem enumeration_is_selection (tree : FileTree) (proper : tree.Proper) (verdict : Verdict)
    (root : Path) :
    (∀ path, .ok path ∈ itemsBelow tree verdict root ↔
      ∃ names, path = root.below names ∧ Selected tree verdict root names) ∧
    (∀ item ∈ itemsBelow tree verdict root,
      ∃ names, itemPath? item = some (root.below names) ∧
        ∀ directory, directory <+: names → ¬ LeftOut tree verdict root directory) ∧
    (∀ (other : FileTree) (spot : List String), other.Proper →
      AgreesElsewhere tree other root spot → ∀ names, ¬ spot <+: names →
        (.ok (root.below names) ∈ itemsBelow other verdict root ↔
          .ok (root.below names) ∈ itemsBelow tree verdict root)) ∧
    (∀ (files : List Written) (spec : FileSpec), FileSpec.ofLines files = .ok spec →
      root.hasNul = false →
      items tree ⟨root, files⟩ = .ok (itemsBelow tree spec.verdict? root)) := by
  refine ⟨mem_itemsBelow_iff tree proper verdict root, ?_, ?_, ?_⟩
  · intro item member
    rw [itemsBelow, List.mem_filter, mem_walk_iff] at member
    obtain ⟨names, path, clear⟩ := found_clear tree proper verdict root [] [] item member.1
    refine ⟨names, path, fun directory along left_out => ?_⟩
    exact clear directory along (List.length_pos_iff.mpr left_out.below) left_out
  · intro other spot other_proper agree names outside
    have named (tree : FileTree) (proper : tree.Proper) :
        .ok (root.below names) ∈ itemsBelow tree verdict root ↔
          Selected tree verdict root names := by
      rw [mem_itemsBelow_iff tree proper]
      constructor
      · rintro ⟨same_names, same, selected⟩
        rw [below_injective root names same_names same]
        exact selected
      · exact fun selected => ⟨names, rfl, selected⟩
    rw [named other other_proper, named tree proper]
    constructor
    · exact selected_elsewhere other tree verdict root spot names agree.symm outside
    · exact selected_elsewhere tree other verdict root spot names agree outside
  · intro files spec compiled plain
    simp only [items, compiled, plain, Bool.false_eq_true, if_false]

def loopedTree : FileTree where
  entries := [(["r"], .directory), (["r", "a"], .directory), (["r", "a", "n.md"], .file []),
    (["r", "a", "up"], .link ".."), (["r", "x"], .directory), (["r", "x", "n.md"], .file [])]

def loopedVerdict : Verdict := fun text => some (text != "x/")

theorem loopedTree_enumeration :
    loopedTree.Proper ∧
    (∃ names, Path.below ⟨.root, ["r"]⟩ ["a", "n.md"] = Path.below ⟨.root, ["r"]⟩ names ∧
      Selected loopedTree loopedVerdict ⟨.root, ["r"]⟩ names) ∧
    LeftOut loopedTree loopedVerdict ⟨.root, ["r"]⟩ ["x"] ∧
    ∀ item ∈ itemsBelow loopedTree loopedVerdict ⟨.root, ["r"]⟩,
      ∃ names, itemPath? item = some (Path.below ⟨.root, ["r"]⟩ names) ∧ ¬ ["x"] <+: names := by
  have proper : loopedTree.Proper := by
    have steps : ∀ row ∈ loopedTree.entries, ∀ name ∈ row.1, name ≠ "." ∧ name ≠ ".." := by decide
    exact fun place entry member => steps (place, entry) member
  obtain ⟨documents, reported, _⟩ :=
    enumeration_is_selection loopedTree proper loopedVerdict ⟨.root, ["r"]⟩
  have items : itemsBelow loopedTree loopedVerdict ⟨.root, ["r"]⟩ =
      [.ok ⟨.root, ["r", "a", "n.md"]⟩, .error (.loop ⟨.root, ["r", "a", "up"]⟩)] := by rfl
  have directory : loopedTree.directoryAt? (Path.below ⟨.root, ["r"]⟩ ["x"]) = some ["r", "x"] := by
    rfl
  have left_out : LeftOut loopedTree loopedVerdict ⟨.root, ["r"]⟩ ["x"] := by
    refine ⟨by decide, ?_, by decide⟩
    rw [directory]
    exact Option.some_ne_none _
  refine ⟨proper, (documents _).mp ?_, left_out, fun item member => ?_⟩
  · rw [items]
    exact List.mem_cons_self ..
  · obtain ⟨names, path, clear⟩ := reported item member
    exact ⟨names, path, fun along => clear ["x"] along left_out⟩

end DocumentRoot

end DocFinder
