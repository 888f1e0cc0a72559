import DocFinder.Proofs.DocumentRoot.Enumeration
import Mathlib.Data.List.Basic
import Mathlib.Data.List.Induction

/-! The end of a walk, and the loops and refusals that it reports. A walk without a bound is told by
the calls that it makes, each of which enters a directory that none above it has entered. -/

namespace DocFinder

namespace FileTree

structure Descends (tree : FileTree) (verdict : Verdict) (root : Path) (names : List String)
    (place : Place) (name : String) : Prop where
  member : name ∈ tree.names place
  shape : tree.shapeBelow root names place name = .directory
  kept : verdict (relativeText (names ++ [name]) ++ "/") ≠ some false

def entryItems (tree : FileTree) (verdict : Verdict) (root : Path) (names : List String)
    (place : Place) (name : String) (through : List PathItem) : List PathItem :=
  match tree.shapeBelow root names place name with
  | .unknown error =>
    if verdict (relativeText (names ++ [name])) = some false then []
    else [.error (.unknownState (root.below (names ++ [name])) error)]
  | .directory =>
    if verdict (relativeText (names ++ [name]) ++ "/") = some false then [] else through
  | .file => [.ok (root.below (names ++ [name]))]

/-- A walk without a bound that comes to its end, and what it gives. -/
inductive Walked (tree : FileTree) (verdict : Verdict) (root : Path) :
    List Place → List String → List PathItem → Prop where
  | stopped (above names error) (stop : tree.stoppedBy? root above names = some error) :
      Walked tree verdict root above names [.error error]
  | entered (above names place) (enters : tree.Enters root above names place)
      (through : String → List PathItem)
      (each : ∀ name, tree.Descends verdict root names place name →
        Walked tree verdict root (place :: above) (names ++ [name]) (through name)) :
      Walked tree verdict root above names
        ((tree.names place).flatMap fun name =>
          tree.entryItems verdict root names place name (through name))

/-- The calls that a walk makes, one for each directory that it comes to. -/
inductive Calls (tree : FileTree) (verdict : Verdict) (root : Path) :
    List Place → List String → Prop where
  | top : Calls tree verdict root [] []
  | nested (above names place name) (call : Calls tree verdict root above names)
      (enters : tree.Enters root above names place)
      (descends : tree.Descends verdict root names place name) :
      Calls tree verdict root (place :: above) (names ++ [name])

/-- A walk lists the real directory that some names lead to. -/
def Lists (tree : FileTree) (verdict : Verdict) (root : Path) (names : List String)
    (place : Place) : Prop :=
  ∃ above, Calls tree verdict root above names ∧ tree.Enters root above names place

/-- A path that a walk comes to: each directory above it is listed, and it is not left out. -/
structure Reached (tree : FileTree) (verdict : Verdict) (root : Path) (names : List String) :
    Prop where
  steps : ∀ name ∈ names, IsStep name
  open_way : ∀ k < names.length, ∃ place, Passable tree verdict root (names.take k) place
  kept : names ≠ [] → verdict (relativeText names ++ "/") ≠ some false

section

variable (tree : FileTree) (verdict : Verdict) (root : Path)

theorem entryItems_congr (names : List String) (place : Place) (name : String)
    (first second : List PathItem) (member : name ∈ tree.names place)
    (alike : tree.Descends verdict root names place name → second = first) :
    tree.entryItems verdict root names place name second =
      tree.entryItems verdict root names place name first := by
  unfold entryItems
  cases shape : tree.shapeBelow root names place name with
  | unknown error => rfl
  | file => rfl
  | directory =>
      by_cases refused : verdict (relativeText (names ++ [name]) ++ "/") = some false
      · simp only [if_pos refused]
      · simp only [if_neg refused]
        exact alike ⟨member, shape, refused⟩

theorem enters_unique (above : List Place) (names : List String) (place other : Place)
    (enters : tree.Enters root above names place) (too : tree.Enters root above names other) :
    other = place :=
  Except.ok.inj (too.looked.symm.trans enters.looked)

theorem not_stopped (above : List Place) (names : List String) (place : Place)
    (enters : tree.Enters root above names place) (error : DocumentError) :
    tree.stoppedBy? root above names ≠ some error := by
  rw [(stoppedBy_none_iff tree root above names).mpr ⟨place, enters⟩]
  exact Option.some_ne_none error |>.symm

theorem walked_unique (above : List Place) (names : List String) (items others : List PathItem)
    (walked : Walked tree verdict root above names items)
    (too : Walked tree verdict root above names others) : others = items := by
  induction walked generalizing others with
  | stopped above names error stop =>
      cases too with
      | stopped _ _ other again => rw [Option.some.inj (again.symm.trans stop)]
      | entered _ _ place enters => exact absurd stop (not_stopped tree root _ _ place enters error)
  | entered above names place enters through each ih =>
      cases too with
      | stopped _ _ error stop => exact absurd stop (not_stopped tree root _ _ place enters error)
      | entered _ _ other enters_too through_too each_too =>
          obtain rfl := enters_unique tree root above names place other enters enters_too
          apply List.flatMap_congr
          intro name member
          apply entryItems_congr tree verdict root names other name _ _ member
          intro descends
          exact ih name descends _ (each_too name descends)

theorem walked_of_bound (fuel : Nat) (above : List Place) (names : List String)
    (enough : (tree.remaining above).length ≤ fuel) :
    Walked tree verdict root above names (tree.walk verdict root (fuel + 1) above names) := by
  induction fuel generalizing above names with
  | zero =>
      cases stop : tree.stoppedBy? root above names with
      | some error =>
          rw [walk_stopped tree verdict root 0 above names error stop]
          exact .stopped above names error stop
      | none =>
          obtain ⟨place, enters⟩ := (stoppedBy_none_iff tree root above names).mp stop
          have fewer := remaining_decreases tree root above names place enters
          omega
  | succ fuel ih =>
      cases stop : tree.stoppedBy? root above names with
      | some error =>
          rw [walk_stopped tree verdict root (fuel + 1) above names error stop]
          exact .stopped above names error stop
      | none =>
          obtain ⟨place, enters⟩ := (stoppedBy_none_iff tree root above names).mp stop
          have fewer := remaining_decreases tree root above names place enters
          rw [walk_entered tree verdict root (fuel + 1) above names place enters]
          apply Walked.entered above names place enters fun name =>
            tree.walk verdict root (fuel + 1) (place :: above) (names ++ [name])
          intro name _
          exact ih (place :: above) (names ++ [name]) (by omega)

theorem walked_iff (items : List PathItem) :
    Walked tree verdict root [] [] items ↔ items = tree.walk verdict root tree.depth [] [] := by
  have ends : Walked tree verdict root [] [] (tree.walk verdict root tree.depth [] []) :=
    walked_of_bound tree verdict root _ [] [] tree.remaining_top
  constructor
  · exact walked_unique tree verdict root [] [] _ items ends
  · rintro rfl
    exact ends

theorem call_within (whole : List PathItem) (walked : Walked tree verdict root [] [] whole)
    (above : List Place) (names : List String) (call : Calls tree verdict root above names) :
    ∃ items, Walked tree verdict root above names items ∧ items <:+: whole := by
  induction call with
  | top => exact ⟨whole, walked, List.infix_refl whole⟩
  | nested above names place name call enters descends ih =>
      obtain ⟨items, outer, inside⟩ := ih
      cases outer with
      | stopped _ _ error stop => exact absurd stop (not_stopped tree root _ _ place enters error)
      | entered _ _ other enters_too through each =>
          obtain rfl := enters_unique tree root above names place other enters enters_too
          refine ⟨through name, each name descends, List.IsInfix.trans ?_ inside⟩
          obtain ⟨before, after, parts⟩ := List.append_of_mem descends.member
          have own : tree.entryItems verdict root names other name (through name) = through name := by
            simp only [entryItems, descends.shape, if_neg descends.kept]
          rw [parts, List.flatMap_append, List.flatMap_cons, own, ← List.append_assoc]
          exact ⟨_, _, rfl⟩

theorem calls_onTheWay (above : List Place) (names : List String)
    (call : Calls tree verdict root above names) : tree.OnTheWay root names above := by
  induction call with
  | top =>
      intro place
      simp
  | nested above names place name call enters descends ih =>
      exact onTheWay_step tree root above names place name enters ih

theorem found_of_call (above : List Place) (names : List String) (item : PathItem)
    (call : Calls tree verdict root above names)
    (found : Found tree verdict root above names item) : Found tree verdict root [] [] item := by
  induction call with
  | top => exact found
  | nested above names place name call enters descends ih =>
      apply ih
      exact .under above names place name item enters descends.member descends.shape descends.kept
        found

theorem call_of_loop (above : List Place) (names : List String) (item : PathItem) (path : Path)
    (call : Calls tree verdict root above names)
    (found : Found tree verdict root above names item) (loop : item = .error (.loop path)) :
    ∃ chain ways place, Calls tree verdict root chain ways ∧ path = root.below ways ∧
      tree.lookup (root.below ways) = .ok place ∧ place ∈ chain := by
  induction found with
  | lost => cases loop
  | unlisted => cases loop
  | unknown => cases loop
  | file => cases loop
  | again above names place looked seen =>
      cases loop
      exact ⟨above, names, place, call, rfl, looked, seen⟩
  | under above names place name item enters member shape kept further ih =>
      exact ih (.nested above names place name call enters ⟨member, shape, kept⟩) loop

theorem call_of_refusal (above : List Place) (names : List String) (item : PathItem) (path : Path)
    (error : FrontMatter.SystemError) (call : Calls tree verdict root above names)
    (found : Found tree verdict root above names item)
    (unlisted : item = .error (.unlisted path error)) :
    ∃ chain ways place, Calls tree verdict root chain ways ∧ path = root.below ways ∧
      tree.lookup (root.below ways) = .ok place ∧ place ∉ chain ∧
      tree.listFault? place (root.below ways).text = some error := by
  induction found with
  | lost => cases unlisted
  | again => cases unlisted
  | unknown => cases unlisted
  | file => cases unlisted
  | unlisted above names place looked fresh error refused =>
      cases unlisted
      exact ⟨above, names, place, call, rfl, looked, fresh, refused⟩
  | under above names place name item enters member shape kept further ih =>
      exact ih (.nested above names place name call enters ⟨member, shape, kept⟩) unlisted

theorem reached_take (names : List String) (k : Nat) (within : k < names.length)
    (reached : Reached tree verdict root names) : Reached tree verdict root (names.take k) := by
  obtain ⟨place, passable⟩ := reached.open_way k within
  refine ⟨fun name own => reached.steps name (List.mem_of_mem_take own), ?_, passable.kept⟩
  intro j before
  rw [List.length_take] at before
  rw [List.take_take, Nat.min_eq_left (by omega)]
  exact reached.open_way j (by omega)

section

variable (proper : tree.Proper)

include proper

theorem reached_of_call (above : List Place) (names : List String)
    (call : Calls tree verdict root above names) : Reached tree verdict root names := by
  induction call with
  | top => exact ⟨by simp, by simp, fun other => absurd rfl other⟩
  | nested above names place name call enters descends ih =>
      have way := calls_onTheWay tree verdict root above names call
      have passable :=
        (enters_iff_passable tree verdict root above names place way ih.kept).mp enters
      refine ⟨?_, ?_, fun _ => descends.kept⟩
      · intro other own
        rcases List.mem_append.mp own with earlier | last
        · exact ih.steps other earlier
        · rw [List.mem_singleton.mp last]
          exact tree.proper_name proper place name descends.member
      · intro k within
        rw [List.length_append, List.length_singleton] at within
        by_cases last : k = names.length
        · rw [last, List.take_left]
          exact ⟨place, passable⟩
        · rw [List.take_append_of_le_length (by omega)]
          exact ih.open_way k (by omega)

theorem call_of_reached (names : List String) (reached : Reached tree verdict root names)
    (directory : tree.directoryAt? (root.below names) ≠ none) :
    ∃ above, Calls tree verdict root above names := by
  induction names using List.reverseRecOn with
  | nil => exact ⟨[], .top⟩
  | append_singleton names name ih =>
      have within : names.length < (names ++ [name]).length := by simp
      have earlier := reached_take tree verdict root (names ++ [name]) names.length within reached
      obtain ⟨place, passable⟩ := reached.open_way names.length within
      rw [List.take_left] at earlier passable
      have inside : tree.directoryAt? (root.below names) ≠ none := by
        rw [passable.directory]
        exact Option.some_ne_none place
      obtain ⟨above, call⟩ := ih earlier inside
      have way := calls_onTheWay tree verdict root above names call
      have enters :=
        (enters_iff_passable tree verdict root above names place way earlier.kept).mpr passable
      obtain ⟨target, below⟩ := Option.ne_none_iff_exists'.mp directory
      have step := reached.steps name (by simp)
      have present := tree.entry_of_directory (root.below names) place target name
        passable.directory step (by rw [below_child]; exact below)
      have member := (tree.mem_names_iff place name).mpr present
      have fits := shapeBelow_fits tree proper root above names place name enters member
      have shape := tree.directory_of_fits _ target _ fits below
      exact ⟨place :: above,
        .nested above names place name call enters ⟨member, shape, reached.kept (by simp)⟩⟩

theorem lists_iff (names : List String) (place : Place) :
    Lists tree verdict root names place ↔
      Reached tree verdict root names ∧ Passable tree verdict root names place := by
  constructor
  · rintro ⟨above, call, enters⟩
    have reached := reached_of_call tree verdict root proper above names call
    have way := calls_onTheWay tree verdict root above names call
    exact ⟨reached,
      (enters_iff_passable tree verdict root above names place way reached.kept).mp enters⟩
  · rintro ⟨reached, passable⟩
    have directory : tree.directoryAt? (root.below names) ≠ none := by
      rw [passable.directory]
      exact Option.some_ne_none place
    obtain ⟨above, call⟩ := call_of_reached tree verdict root proper names reached directory
    have way := calls_onTheWay tree verdict root above names call
    exact ⟨above, call,
      (enters_iff_passable tree verdict root above names place way reached.kept).mpr passable⟩

theorem listed_once (names : List String) (place : Place)
    (lists : Lists tree verdict root names place) (k : Nat) (within : k < names.length) :
    ∃ other, Lists tree verdict root (names.take k) other ∧ other ≠ place := by
  obtain ⟨reached, passable⟩ := (lists_iff tree verdict root proper names place).mp lists
  obtain ⟨other, higher⟩ := reached.open_way k within
  refine ⟨other, ?_, ?_⟩
  · apply (lists_iff tree verdict root proper _ other).mpr
    exact ⟨reached_take tree verdict root names k within reached, higher⟩
  · rintro rfl
    exact passable.fresh k within higher.directory

theorem loop_iff (path : Path) :
    .error (.loop path) ∈ tree.walk verdict root tree.depth [] [] ↔
      ∃ names, path = root.below names ∧ Reached tree verdict root names ∧
        ∃ k < names.length, ∃ place, tree.directoryAt? (root.below (names.take k)) = some place ∧
          tree.directoryAt? (root.below names) = some place := by
  rw [mem_walk_iff]
  constructor
  · intro found
    obtain ⟨above, names, place, call, rfl, looked, seen⟩ :=
      call_of_loop tree verdict root [] [] _ path .top found rfl
    obtain ⟨k, within, higher⟩ := (calls_onTheWay tree verdict root above names call place).mp seen
    have inside := ((tree.directoryAt_iff _ _).mp higher).2
    exact ⟨names, rfl, reached_of_call tree verdict root proper above names call, k, within, place,
      higher, (tree.directoryAt_iff _ _).mpr ⟨looked, inside⟩⟩
  · rintro ⟨names, rfl, reached, k, within, place, higher, here⟩
    have directory : tree.directoryAt? (root.below names) ≠ none := by
      rw [here]
      exact Option.some_ne_none place
    obtain ⟨above, call⟩ := call_of_reached tree verdict root proper names reached directory
    apply found_of_call tree verdict root above names _ call
    apply Found.again above names place ((tree.directoryAt_iff _ _).mp here).1
    exact (calls_onTheWay tree verdict root above names call place).mpr ⟨k, within, higher⟩

theorem refusal_iff (names : List String) (place : Place)
    (here : tree.directoryAt? (root.below names) = some place) (error : FrontMatter.SystemError) :
    .error (.unlisted (root.below names) error) ∈ tree.walk verdict root tree.depth [] [] ↔
      Reached tree verdict root names ∧
        (∀ k < names.length, tree.directoryAt? (root.below (names.take k)) ≠ some place) ∧
        tree.listFault? place (root.below names).text = some error := by
  obtain ⟨looked, inside⟩ := (tree.directoryAt_iff _ _).mp here
  rw [mem_walk_iff]
  constructor
  · intro found
    obtain ⟨above, ways, other, call, same, looked_too, fresh, refused⟩ :=
      call_of_refusal tree verdict root [] [] _ _ error .top found rfl
    obtain rfl := below_injective root names ways same
    obtain rfl : place = other := Except.ok.inj (looked.symm.trans looked_too)
    have way := calls_onTheWay tree verdict root above names call
    exact ⟨reached_of_call tree verdict root proper above names call,
      fun k within higher => fresh ((way place).mpr ⟨k, within, higher⟩), refused⟩
  · rintro ⟨reached, apart, refused⟩
    have directory : tree.directoryAt? (root.below names) ≠ none := by
      rw [here]
      exact Option.some_ne_none place
    obtain ⟨above, call⟩ := call_of_reached tree verdict root proper names reached directory
    apply found_of_call tree verdict root above names _ call
    apply Found.unlisted above names place looked _ error refused
    intro seen
    obtain ⟨k, within, higher⟩ := (calls_onTheWay tree verdict root above names call place).mp seen
    exact apart k within higher

end

end

end FileTree

namespace DocumentRoot

open FileTree

/-- A walk ends on every tree, and along the names that lead to a directory it lists no real directory
twice. A loop is reported exactly where an open way comes back to a directory above, and a
directory is listed for each way that comes to it without containing it. -/
theorem walk_ends_at_loops (tree : FileTree) (proper : tree.Proper) (verdict : Verdict)
    (root : Path) :
    let walk := tree.walk verdict root tree.depth [] []
    (∀ items, Walked tree verdict root [] [] items ↔ items = walk) ∧
    (∀ above names, Calls tree verdict root above names →
      ∃ items, Walked tree verdict root above names items ∧ items <:+: walk) ∧
    (∀ names place, Lists tree verdict root names place → ∀ k < names.length,
      ∃ other, Lists tree verdict root (names.take k) other ∧ other ≠ place) ∧
    (∀ path, .error (.loop path) ∈ itemsBelow tree verdict root ↔
      ∃ names, path = root.below names ∧ Reached tree verdict root names ∧
        ∃ k < names.length, ∃ place, tree.directoryAt? (root.below (names.take k)) = some place ∧
          tree.directoryAt? (root.below names) = some place) ∧
    (∀ names place, Lists tree verdict root names place ↔
      Reached tree verdict root names ∧ tree.directoryAt? (root.below names) = some place ∧
        (∀ k < names.length, tree.directoryAt? (root.below (names.take k)) ≠ some place) ∧
        place ∉ tree.closed) ∧
    (∀ (files : List Written) (spec : FileSpec), FileSpec.ofLines files = .ok spec →
      root.hasNul = false →
      items tree ⟨root, files⟩ = .ok (itemsBelow tree spec.verdict? root)) := by
  intro walk
  have ends := walked_iff tree verdict root
  refine ⟨ends, ?_, ?_, ?_, ?_, ?_⟩
  · exact call_within tree verdict root walk ((ends walk).mpr rfl)
  · exact listed_once tree verdict root proper
  · intro path
    have kept : keeps verdict root (.error (.loop path)) = true := rfl
    rw [itemsBelow, List.mem_filter, kept]
    simp only [and_true]
    exact loop_iff tree verdict root proper path
  · intro names place
    rw [lists_iff tree verdict root proper names place]
    constructor
    · intro listed
      obtain ⟨reached, passable⟩ := listed
      exact ⟨reached, passable.directory, passable.fresh, passable.listed⟩
    · intro open_way
      obtain ⟨reached, directory, fresh, listed⟩ := open_way
      exact ⟨reached, directory, reached.kept, fresh, listed⟩
  · intro files spec compiled plain
    exact (items_ok_iff tree ⟨root, files⟩ _).mpr ⟨spec, compiled, plain, rfl⟩

def twinTree : FileTree where
  entries := [(["r"], .directory), (["r", "a"], .directory), (["r", "a", "n.md"], .file []),
    (["r", "a", "up"], .link ".."), (["r", "b"], .link "a")]

theorem twinTree_listed_twice :
    let root : Path := ⟨.root, ["r"]⟩
    let verdict : Verdict := fun _ => some true
    twinTree.Proper ∧ Lists twinTree verdict root ["a"] ["r", "a"] ∧
      Lists twinTree verdict root ["b"] ["r", "a"] ∧
      .error (.loop (root.below ["b", "up"])) ∈ itemsBelow twinTree verdict root := by
  intro root verdict
  have proper : twinTree.Proper := by
    have steps : ∀ row ∈ twinTree.entries, ∀ name ∈ row.1, name ≠ "." ∧ name ≠ ".." := by decide
    exact fun place entry member => steps (place, entry) member
  obtain ⟨_, _, _, loops, lists, _⟩ := walk_ends_at_loops twinTree proper verdict root
  have kept (names : List String) : names ≠ [] → verdict (relativeText names ++ "/") ≠ some false :=
    fun _ => by decide
  have top : Passable twinTree verdict root [] ["r"] :=
    ⟨by rfl, kept [], fun _ none_above => absurd none_above (Nat.not_lt_zero _), by decide⟩
  have reached (name : String) (step : IsStep name) : Reached twinTree verdict root [name] := by
    refine ⟨by simpa using step, ?_, kept [name]⟩
    intro k within
    obtain rfl := Nat.lt_one_iff.mp within
    exact ⟨["r"], top⟩
  have listed (name : String) (step : IsStep name)
      (leads : twinTree.directoryAt? (root.below [name]) = some ["r", "a"]) :
      Lists twinTree verdict root [name] ["r", "a"] := by
    apply (lists [name] ["r", "a"]).mpr
    refine ⟨reached name step, leads, ?_, by decide⟩
    intro k within
    obtain rfl := Nat.lt_one_iff.mp within
    exact fun same => absurd (top.directory.symm.trans same) (by decide)
  have beside := listed "b" ⟨by decide, by decide⟩ (by rfl)
  refine ⟨proper, listed "a" ⟨by decide, by decide⟩ (by rfl), beside, ?_⟩
  apply (loops _).mpr
  have way : Reached twinTree verdict root ["b", "up"] := by
    refine ⟨by unfold IsStep; decide, ?_, kept _⟩
    intro k within
    match k, within with
    | 0, _ => exact ⟨["r"], top⟩
    | 1, _ => exact ⟨["r", "a"], ((lists_iff twinTree verdict root proper _ _).mp beside).2⟩
  exact ⟨["b", "up"], rfl, way, 0, by decide, ["r"], by rfl, by rfl⟩

/-- A directory that the system refuses to list is reported where an open way comes to it without
containing it, and nowhere else. -/
theorem closed_directory_reported (tree : FileTree) (proper : tree.Proper) (verdict : Verdict)
    (root : Path) (names : List String) (place : Place)
    (here : tree.directoryAt? (root.below names) = some place) :
    (∃ error, .error (.unlisted (root.below names) error) ∈ itemsBelow tree verdict root) ↔
      Reached tree verdict root names ∧
        (∀ k < names.length, tree.directoryAt? (root.below (names.take k)) ≠ some place) ∧
        place ∈ tree.closed := by
  have inside := ((tree.directoryAt_iff _ _).mp here).2
  have refused : (∃ error, tree.listFault? place (root.below names).text = some error) ↔
      place ∈ tree.closed := by
    rw [← Option.ne_none_iff_exists', ne_eq, listFault_none_iff]
    simp [inside]
  have kept (error : FrontMatter.SystemError) :
      keeps verdict root (.error (.unlisted (root.below names) error)) = true := rfl
  simp only [itemsBelow, List.mem_filter, kept, and_true, ← refused,
    refusal_iff tree verdict root proper names place here]
  constructor
  · intro reported
    obtain ⟨error, reached, apart, cause⟩ := reported
    exact ⟨reached, apart, error, cause⟩
  · intro reported
    obtain ⟨reached, apart, error, cause⟩ := reported
    exact ⟨error, reached, apart, cause⟩

/-- The walk goes on behind a directory that it may not list. -/
example :
    let root : Path := ⟨.root, ["r"]⟩
    let tree : FileTree := {
      entries := [(["r"], .directory), (["r", "locked"], .directory), (["r", "sub"], .directory),
        (["r", "locked", "n.md"], .file []), (["r", "sub", "f.md"], .file [])]
      closed := [["r", "locked"]] }
    itemsBelow tree (fun _ => some true) root =
      [.error (.unlisted (root.below ["locked"])
        (.numbered 13 "Permission denied" "'/r/locked'")), .ok (root.below ["sub", "f.md"])] := by
  rfl

end DocumentRoot

end DocFinder
