import DocFinder.Proofs.Selection.Course

/-! What becomes of a source that gives its items once. Wherever a selection is left, the items that
were drawn are a beginning of the source, a recorder has just these on record, and a second pass goes
over a record of all of them. -/

namespace DocFinder.Selection

/-- Where a source that gives its items once stands after some draws, with the present pass. -/
inductive Stands (given : List PathItem) : Bool → Nat → Supply → Option Pass → Prop
  | untouched : Stands given false 0 (.iterator given) none
  | drawing (gone rest : List PathItem) (parts : gone ++ rest = given) :
      Stands given false gone.length (.iterator []) (some ⟨.drawn, rest⟩)
  | usedUp : Stands given false given.length (.iterator []) none
  | waiting : Stands given true 0 (.recorder (some given) []) none
  | recording (gone rest : List PathItem) (parts : gone ++ rest = given) :
      Stands given true gone.length (.recorder none gone) (some ⟨.recorded, rest⟩)
  | recorded : Stands given true given.length (.recorder none given) none
  | replaying (gone rest : List PathItem) (parts : gone ++ rest = given) :
      Stands given true given.length (.recorder none given) (some ⟨.listed, rest⟩)

theorem examine_silent (opener : Opener) (matchers : List Matcher) (item : PathItem) (event : Event)
    (member : event ∈ (examine opener matchers item).events) :
    event.isDrawn = false ∧ event.isCalled = false := by
  have seen (events : List DocFinder.Event) (inside : event ∈ events.map Event.examined) :
      event.isDrawn = false ∧ event.isCalled = false := by
    obtain ⟨_, _, rfl⟩ := List.mem_map.mp inside
    exact ⟨rfl, rfl⟩
  cases item with
  | error error =>
      rw [examine, List.mem_singleton] at member
      subst event
      exact ⟨rfl, rfl⟩
  | ok path =>
      simp only [examine] at member
      split at member
      · rcases List.mem_append.mp member with inside | last
        · exact seen _ inside
        · rw [List.mem_singleton.mp last]
          exact ⟨rfl, rfl⟩
      · exact seen _ member
      · rcases List.mem_append.mp member with inside | last
        · exact seen _ inside
        · rw [List.mem_singleton.mp last]
          exact ⟨rfl, rfl⟩
      · exact seen _ member

theorem examine_undrawn (opener : Opener) (matchers : List Matcher) (item : PathItem) :
    (examine opener matchers item).events.countP Event.isDrawn = 0 := by
  rw [List.countP_eq_zero]
  intro event member
  rw [(examine_silent opener matchers item event member).1]
  exact Bool.false_ne_true

namespace Stands

variable {given : List PathItem} {twice : Bool} {draws : Nat} {supply : Supply}

theorem begin (stands : Stands given twice draws supply none) (tree : FileTree) :
    ∃ pass after, supply.begin tree = .ok (pass, after) ∧ Stands given twice draws after (some pass) ∧
      supply.front = [] := by
  cases stands with
  | untouched => exact ⟨_, _, rfl, .drawing [] given rfl, rfl⟩
  | usedUp => exact ⟨_, _, rfl, .drawing given [] (List.append_nil given), rfl⟩
  | waiting => exact ⟨_, _, rfl, .recording [] given rfl, rfl⟩
  | recorded => exact ⟨_, _, rfl, .replaying [] given rfl, rfl⟩

theorem drew {feed : Feed} {item : PathItem} {rest : List PathItem}
    (stands : Stands given twice draws supply (some ⟨feed, item :: rest⟩)) :
    Stands given twice (draws + feed.events.countP Event.isDrawn) (supply.drew item feed)
      (some ⟨feed, rest⟩) := by
  have moved (gone : List PathItem) (parts : gone ++ item :: rest = given) :
      (gone ++ [item]) ++ rest = given := by
    rw [← parts, List.append_assoc]
    rfl
  have one_more (gone : List PathItem) : gone.length + 1 = (gone ++ [item]).length := by
    rw [List.length_append, List.length_singleton]
  cases stands with
  | drawing gone rest parts =>
      change Stands given _ (gone.length + 1) _ _
      rw [one_more]
      exact .drawing _ rest (moved gone parts)
  | recording gone rest parts =>
      change Stands given _ (gone.length + 1) _ _
      rw [one_more]
      exact .recording _ rest (moved gone parts)
  | replaying gone rest parts => exact .replaying _ rest (moved gone parts)

theorem ended {feed : Feed} (stands : Stands given twice draws supply (some ⟨feed, []⟩)) :
    Stands given twice draws supply none := by
  cases stands with
  | drawing gone rest parts =>
      rw [List.append_nil] at parts
      subst gone
      exact .usedUp
  | recording gone rest parts =>
      rw [List.append_nil] at parts
      subst gone
      exact .recorded
  | replaying gone rest parts => exact .recorded

theorem stretch {feed : Feed} {rest : List PathItem}
    (stands : Stands given twice draws supply (some ⟨feed, rest⟩)) (opener : Opener)
    (matchers : List Matcher) :
    let part := Selection.stretch opener matchers feed supply rest
    let after := draws + part.events.countP Event.isDrawn
    Stands given twice after part.supply (some ⟨feed, part.rest⟩) ∧
      (part.stop = .exhausted → Stands given twice after part.supply none) := by
  induction rest generalizing draws supply with
  | nil => exact ⟨stands, fun _ => stands.ended⟩
  | cons item rest ih =>
      have moved := stands.drew
      have quiet := examine_undrawn opener matchers item
      have count : (feed.events ++ (examine opener matchers item).events).countP Event.isDrawn =
          feed.events.countP Event.isDrawn := by
        rw [List.countP_append, quiet, Nat.add_zero]
      rw [Selection.stretch]
      dsimp only
      split
      · rw [count]
        exact ⟨moved, Stop.noConfusion⟩
      · rw [count]
        exact ⟨moved, Stop.noConfusion⟩
      · rw [List.countP_append, count, ← Nat.add_assoc]
        exact ih moved

end Stands

namespace Course

/-- A source stands in a course where the draws that were seen have brought it. -/
def Keeps (given : List PathItem) (twice : Bool) (course : Course) : Prop :=
  Stands given twice (course.log.countP Event.isDrawn) course.supply course.pass

variable {given : List PathItem} {twice : Bool} {course : Course}

theorem start_keeps (given : List PathItem) (query : Query) :
    (start (.iterator given) query).Keeps given query.smartName.isSome := by
  unfold Keeps start PathSource.supply
  cases query.smartName.isSome
  · exact .untouched
  · exact .waiting

theorem Keeps.present (keeps : course.Keeps given twice) (tree : FileTree) :
    ∃ pass begun, course.present tree = .ok (pass, begun) ∧
      Stands given twice (begun.log.countP Event.isDrawn) begun.supply (some pass) := by
  unfold Keeps at keeps
  unfold Course.present
  cases under_way : course.pass with
  | some pass =>
      rw [under_way] at keeps
      exact ⟨pass, course, rfl, keeps⟩
  | none =>
      rw [under_way] at keeps
      obtain ⟨pass, after, begun, stands, silent⟩ := keeps.begin tree
      have same : course.log ++ course.supply.front = course.log := by
        rw [silent, List.append_nil]
      simp only [begun, same]
      exact ⟨pass, _, rfl, stands⟩

theorem Keeps.goOn (keeps : course.Keeps given twice) (tree : FileTree) (phases : List (List Matcher)) :
    (course.goOn tree phases).2.Keeps given twice := by
  induction phases generalizing course with
  | nil => exact keeps
  | cons matchers later ih =>
      obtain ⟨pass, begun, present, stands⟩ := keeps.present tree
      obtain ⟨within, ended⟩ := stands.stretch tree.opener matchers
      rw [← List.countP_append] at within ended
      rw [Course.goOn, present]
      dsimp only
      generalize Selection.stretch tree.opener matchers pass.feed begun.supply pass.rest = part
        at within ended ⊢
      obtain ⟨events, supply, rest, stop⟩ := part
      cases stop with
      | yielded item => exact within
      | broken breakdown => exact within
      | exhausted =>
          dsimp only
          split
          · exact within
          · exact ih (ended rfl)

theorem Keeps.run (keeps : course.Keeps given twice) (tree : FileTree) (n : Nat) :
    (course.run tree n).course.Keeps given twice := by
  induction n generalizing course with
  | zero => exact keeps
  | succ n ih =>
      have kept := keeps.goOn tree course.phases
      rw [Course.run, Course.next]
      generalize Course.goOn tree course.phases course = asked at kept ⊢
      obtain ⟨answer, reached⟩ := asked
      rcases answer with breakdown | _ | item
      · exact kept
      · exact kept
      · exact ih kept

/-- What a caller finds who leaves a selection: the items drawn are the beginning of the source, a
recorder has just them on record, and what is replayed is a record of all items. -/
structure Finds (given : List PathItem) (twice : Bool) (draws : Nat) (course : Course) : Prop where
  within : draws ≤ given.length
  left : course.left = given.drop draws
  record : twice = true → ∃ source, course.supply = .recorder source (given.take draws)
  replayed : ∀ rest, course.pass = some ⟨.listed, rest⟩ →
    course.supply = .recorder none given ∧ draws = given.length ∧ rest <:+ given

theorem Keeps.finds (keeps : course.Keeps given twice) :
    Finds given twice (course.log.countP Event.isDrawn) course := by
  obtain ⟨supply, phases, pass, produced, log⟩ := course
  dsimp only [Keeps] at keeps ⊢
  generalize log.countP Event.isDrawn = draws at keeps ⊢
  cases keeps with
  | untouched => exact ⟨Nat.zero_le _, rfl, Bool.noConfusion, by rintro _ ⟨⟩⟩
  | drawing gone rest parts =>
      subst given
      exact ⟨by simp, List.drop_left.symm, Bool.noConfusion, by rintro _ ⟨⟩⟩
  | usedUp => exact ⟨Nat.le_refl _, List.drop_length.symm, Bool.noConfusion, by rintro _ ⟨⟩⟩
  | waiting => exact ⟨Nat.zero_le _, rfl, fun _ => ⟨some given, rfl⟩, by rintro _ ⟨⟩⟩
  | recording gone rest parts =>
      subst given
      refine ⟨by simp, List.drop_left.symm, fun _ => ⟨none, ?_⟩, by rintro _ ⟨⟩⟩
      exact congrArg _ List.take_left.symm
  | recorded =>
      refine ⟨Nat.le_refl _, List.drop_length.symm, fun _ => ⟨none, ?_⟩, by rintro _ ⟨⟩⟩
      exact congrArg _ List.take_length.symm
  | replaying gone rest parts =>
      refine ⟨Nat.le_refl _, List.drop_length.symm, fun _ => ⟨none, ?_⟩, ?_⟩
      · exact congrArg _ List.take_length.symm
      · rintro _ ⟨⟩
        exact ⟨rfl, rfl, gone, parts⟩

theorem run_finds (tree : FileTree) (given : List PathItem) (query : Query) (n : Nat) :
    let stopped := (start (.iterator given) query).run tree n
    Finds given query.smartName.isSome stopped.selection.draws stopped.course :=
  ((start_keeps given query).run tree n).finds

end Course

end DocFinder.Selection
