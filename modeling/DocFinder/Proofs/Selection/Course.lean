import DocFinder.Proofs.Selection.Single
import DocFinder.Proofs.Selection.TwoPhases
import DocFinder.Selection.Course

/-! A selection that is asked for one item after the other. What a caller has seen is a beginning of
the whole selection, and a recorder holds what was drawn so far. -/

namespace DocFinder.Selection

theorem cut_isPrefix (n : Nat) (events : List Event) : cut n events <+: events := by
  induction events generalizing n with
  | nil => cases n <;> exact List.prefix_refl _
  | cons event rest ih =>
      cases n with
      | zero => exact List.nil_prefix
      | succ n =>
          cases event with
          | yielded item => exact (List.prefix_cons_inj _).mpr (ih n)
          | _ => exact (List.prefix_cons_inj _).mpr (ih (n + 1))

theorem cut_items (n : Nat) (events : List Event) :
    (cut n events).filterMap Event.item? = (events.filterMap Event.item?).take n := by
  induction events generalizing n with
  | nil => cases n <;> rfl
  | cons event rest ih =>
      cases n with
      | zero => rfl
      | succ n =>
          cases event with
          | yielded item => exact congrArg (item :: ·) (ih n)
          | _ => exact ih (n + 1)

theorem cut_nothing (events : List Event) : cut 0 events = [] := by cases events <;> rfl

theorem cut_silent (front rest : List Event) (n : Nat)
    (silent : front.filterMap Event.item? = []) : cut (n + 1) (front ++ rest) =
      front ++ cut (n + 1) rest := by
  induction front with
  | nil => rfl
  | cons event front ih =>
      cases event with
      | yielded item => cases silent
      | _ => exact congrArg (_ :: ·) (ih silent)

theorem take_items (selection : Selection) (n : Nat) :
    (selection.take n).items = selection.items.take n := by
  unfold take
  by_cases within : n ≤ selection.items.length
  · rw [if_pos within]
    exact cut_items n selection.events
  · rw [if_neg within, List.take_of_length_le (by omega)]

theorem take_breakdown (selection : Selection) (n : Nat) :
    (selection.take n).breakdown =
      if n ≤ selection.items.length then none else selection.breakdown := by
  unfold take
  split <;> rfl

theorem take_isPrefix (selection : Selection) (n : Nat) :
    (selection.take n).events <+: selection.events := by
  unfold take
  split
  · exact cut_isPrefix n selection.events
  · exact List.prefix_refl _

theorem take_zero (selection : Selection) : selection.take 0 = ⟨[], none⟩ := by
  rw [take, if_pos (Nat.zero_le _), cut_nothing]

theorem take_barren (events : List Event) (breakdown : Option Breakdown) (n : Nat)
    (quiet : events.filterMap Event.item? = []) :
    take ⟨events, breakdown⟩ (n + 1) = ⟨events, breakdown⟩ := by
  have nothing : items ⟨events, breakdown⟩ = [] := quiet
  rw [take, nothing, List.length_nil, if_neg (Nat.not_succ_le_zero n)]

theorem take_nothing (n : Nat) : take ⟨[], none⟩ n = ⟨[], none⟩ := by
  cases n with
  | zero => exact take_zero _
  | succ n => exact take_barren [] none n rfl

theorem take_item (silent : List Event) (item : SelectionItem) (rest : Selection) (n : Nat)
    (quiet : silent.filterMap Event.item? = []) :
    (andThen ⟨silent ++ [.yielded item], none⟩ rest).take (n + 1) =
      andThen ⟨silent ++ [.yielded item], none⟩ (rest.take n) := by
  have first : items ⟨silent ++ [.yielded item], none⟩ = [item] := by
    rw [items_append, quiet]
    rfl
  have both := (andThen_spec ⟨silent ++ [.yielded item], none⟩ rest).1
  rw [first] at both
  have count : (andThen ⟨silent ++ [.yielded item], none⟩ rest).items.length =
      rest.items.length + 1 := by
    rw [both]
    rfl
  have front : cut (n + 1) (silent ++ [.yielded item] ++ rest.events) =
      silent ++ [.yielded item] ++ cut n rest.events := by
    rw [List.append_assoc, cut_silent _ _ _ quiet, List.append_assoc]
    rfl
  unfold take
  rw [count]
  by_cases within : n ≤ rest.items.length
  · rw [if_pos (Nat.succ_le_succ within), if_pos within]
    simp only [andThen, front]
  · rw [if_neg (fun more => within (Nat.le_of_succ_le_succ more)), if_neg within]

theorem andThen_assoc (first second third : Selection) :
    (first.andThen second).andThen third = first.andThen (second.andThen third) := by
  rcases first with ⟨_, _ | _⟩ <;> rcases second with ⟨_, _ | _⟩ <;> simp [andThen]

theorem examine_shape (opener : Opener) (matchers : List Matcher) (item : PathItem) :
    (∃ silent result, examine opener matchers item = ⟨silent ++ [.yielded result], none⟩ ∧
        silent.filterMap Event.item? = []) ∨
      ∃ silent breakdown, examine opener matchers item = ⟨silent, breakdown⟩ ∧
        silent.filterMap Event.item? = [] := by
  cases item with
  | error error => exact Or.inl ⟨[], .error error, rfl, rfl⟩
  | ok path =>
      have quiet := examined_yield_nothing (Matcher.allAccept opener { path } matchers).events
      simp only [examine]
      split
      · exact Or.inl ⟨_, _, rfl, quiet⟩
      · exact Or.inr ⟨_, none, rfl, quiet⟩
      · exact Or.inl ⟨_, _, rfl, quiet⟩
      · exact Or.inr ⟨_, some _, rfl, quiet⟩

inductive Splits (goOn : Supply → List PathItem → Passed) (whole : Passed) : Stretch → Prop
  | yielded (silent : List Event) (item : SelectionItem) (supply : Supply) (rest : List PathItem)
      (quiet : silent.filterMap Event.item? = [])
      (parts : whole = ⟨andThen ⟨silent ++ [.yielded item], none⟩ (goOn supply rest).selection,
        (goOn supply rest).supply⟩) :
      Splits goOn whole ⟨silent ++ [.yielded item], supply, rest, .yielded item⟩
  | exhausted (silent : List Event) (supply : Supply) (quiet : silent.filterMap Event.item? = [])
      (parts : whole = ⟨⟨silent, none⟩, supply⟩) :
      Splits goOn whole ⟨silent, supply, [], .exhausted⟩
  | broken (silent : List Event) (supply : Supply) (rest : List PathItem) (breakdown : Breakdown)
      (quiet : silent.filterMap Event.item? = [])
      (parts : whole = ⟨⟨silent, some breakdown⟩, supply⟩) :
      Splits goOn whole ⟨silent, supply, rest, .broken breakdown⟩

theorem stretch_splits (opener : Opener) (matchers : List Matcher) (feed : Feed) (supply : Supply)
    (given : List PathItem) :
    Splits (goOver opener matchers feed) (goOver opener matchers feed supply given)
      (stretch opener matchers feed supply given) := by
  have undrawn : feed.events.filterMap Event.item? = [] := by cases feed <;> rfl
  induction given generalizing supply with
  | nil => exact .exhausted [] supply rfl rfl
  | cons item rest ih =>
      rw [goOver, stretch]
      rcases examine_shape opener matchers item with
        ⟨silent, result, shape, quiet⟩ | ⟨silent, breakdown, shape, quiet⟩
      · have front : (feed.events ++ silent).filterMap Event.item? = [] := by
          rw [List.filterMap_append, undrawn, quiet, List.append_nil]
        have first : items ⟨silent ++ [.yielded result], none⟩ = [result] := by
          rw [items_append, quiet]
          rfl
        simp only [shape, first, ← List.append_assoc]
        exact .yielded _ result _ rest front rfl
      · have front : (feed.events ++ silent).filterMap Event.item? = [] := by
          rw [List.filterMap_append, undrawn, quiet, List.append_nil]
        have nothing : items ⟨silent, breakdown⟩ = [] := quiet
        cases breakdown with
        | some breakdown =>
            simp only [shape]
            exact .broken _ _ rest breakdown front rfl
        | none =>
            -- The item yields nothing, so that the part goes on with the next one.
            simp only [shape, nothing]
            have joined (more : List Event) (unseen : more.filterMap Event.item? = []) :
                (feed.events ++ silent ++ more).filterMap Event.item? = [] := by
              rw [List.filterMap_append, front, unseen, List.append_nil]
            have later := ih (supply.drew item feed)
            generalize stretch opener matchers feed (supply.drew item feed) rest = part at later ⊢
            cases later with
            | yielded more found after behind unseen parts =>
                rw [parts, ← List.append_assoc]
                refine .yielded _ found after behind (joined more unseen) ?_
                rw [← andThen_assoc]
                simp only [andThen, List.append_assoc]
            | exhausted more after unseen parts =>
                rw [parts]
                exact .exhausted _ after (joined more unseen) rfl
            | broken more after behind breakdown unseen parts =>
                rw [parts]
                exact .broken _ after behind breakdown (joined more unseen) rfl

namespace Course

def passed (tree : FileTree) (matchers : List Matcher) (course : Course) : Passed :=
  match course.pass with
  | some pass => goOver tree.opener matchers pass.feed course.supply pass.rest
  | none => Selection.pass tree matchers course.supply

def toCome (tree : FileTree) (course : Course) : Selection :=
  match course.phases with
  | [] => ⟨[], none⟩
  | matchers :: later =>
    let passed := course.passed tree matchers
    if course.produced = false ∧ passed.selection.items = [] then
      passed.selection.andThen (ofPhases tree later passed.supply)
    else passed.selection

theorem toCome_unbegun (tree : FileTree) (course : Course) (unbegun : course.pass = none)
    (barren : course.produced = false) :
    course.toCome tree = ofPhases tree course.phases course.supply := by
  unfold toCome
  cases course.phases with
  | nil => rfl
  | cons matchers later =>
      simp only [passed, unbegun, barren, ofPhases, List.isEmpty_iff, true_and]

theorem toCome_start (tree : FileTree) (source : PathSource) (query : Query) :
    (start source query).toCome tree = ofQuery tree source query :=
  toCome_unbegun tree (start source query) rfl rfl

/-- Going on to the next item splits off what is seen on the way from what is to come. -/
inductive Goes (tree : FileTree) (course : Course) :
    Except Breakdown (Option SelectionItem) × Course → Prop
  | item (silent : List Event) (item : SelectionItem) (reached : Course)
      (quiet : silent.filterMap Event.item? = [])
      (seen : reached.log = course.log ++ (silent ++ [.yielded item]))
      (parts : course.toCome tree =
        andThen ⟨silent ++ [.yielded item], none⟩ (reached.toCome tree)) :
      Goes tree course (.ok (some item), reached)
  | ended (silent : List Event) (reached : Course) (quiet : silent.filterMap Event.item? = [])
      (seen : reached.log = course.log ++ silent) (parts : course.toCome tree = ⟨silent, none⟩) :
      Goes tree course (.ok none, reached)
  | broken (silent : List Event) (reached : Course) (breakdown : Breakdown)
      (quiet : silent.filterMap Event.item? = []) (seen : reached.log = course.log ++ silent)
      (parts : course.toCome tree = ⟨silent, some breakdown⟩) :
      Goes tree course (.error breakdown, reached)

/-- Where nothing is yielded on the way to a course, going on from there is going on from before. -/
theorem Goes.behind {tree : FileTree} {course next : Course}
    {answer : Except Breakdown (Option SelectionItem) × Course} (goes : Goes tree next answer)
    (silent : List Event) (quiet : silent.filterMap Event.item? = [])
    (log : next.log = course.log ++ silent)
    (follows : course.toCome tree = andThen ⟨silent, none⟩ (next.toCome tree)) :
    Goes tree course answer := by
  have joined (more : List Event) (unseen : more.filterMap Event.item? = []) :
      (silent ++ more).filterMap Event.item? = [] := by
    rw [List.filterMap_append, quiet, unseen, List.append_nil]
  cases goes with
  | item more item reached unseen seen parts =>
      refine .item (silent ++ more) item reached (joined more unseen) ?_ ?_
      · simp only [seen, log, List.append_assoc]
      · rw [follows, parts, ← andThen_assoc]
        simp only [andThen, List.append_assoc]
  | ended more reached unseen seen parts =>
      refine .ended (silent ++ more) reached (joined more unseen) ?_ ?_
      · simp only [seen, log, List.append_assoc]
      · rw [follows, parts]
        rfl
  | broken more reached breakdown unseen seen parts =>
      refine .broken (silent ++ more) reached breakdown (joined more unseen) ?_ ?_
      · simp only [seen, log, List.append_assoc]
      · rw [follows, parts]
        rfl

theorem present_spec (tree : FileTree) (course begun : Course) (pass : Pass)
    (present : course.present tree = .ok (pass, begun)) :
    ∃ front, front.filterMap Event.item? = [] ∧ begun.log = course.log ++ front ∧
      begun.produced = course.produced ∧ ∀ matchers,
        let rest := goOver tree.opener matchers pass.feed begun.supply pass.rest
        course.passed tree matchers = ⟨andThen ⟨front, none⟩ rest.selection, rest.supply⟩ := by
  unfold Course.present at present
  unfold passed
  cases under_way : course.pass with
  | some running =>
      rw [under_way] at present
      cases present
      exact ⟨[], rfl, (List.append_nil _).symm, rfl, fun matchers => rfl⟩
  | none =>
      rw [under_way] at present
      cases start : course.supply.begin tree with
      | error breakdown =>
          rw [start] at present
          cases present
      | ok first =>
          rw [start] at present
          cases present
          refine ⟨course.supply.front, (source_silent Event.item? course.supply rfl rfl).1, rfl, rfl,
            fun matchers => ?_⟩
          simp only [Selection.pass, start]

theorem present_fails (tree : FileTree) (course : Course) (breakdown : Breakdown)
    (fails : course.present tree = .error breakdown) (matchers : List Matcher) :
    (course.passed tree matchers).selection = ⟨[], some breakdown⟩ := by
  unfold Course.present at fails
  unfold passed
  cases under_way : course.pass with
  | some running =>
      rw [under_way] at fails
      cases fails
  | none =>
      rw [under_way] at fails
      cases start : course.supply.begin tree with
      | error first =>
          rw [start] at fails
          cases fails
          simp only [Selection.pass, start]
      | ok first =>
          rw [start] at fails
          cases fails

/-- A pass that breaks off without a result is the last one. -/
theorem toCome_broken (tree : FileTree) (course : Course) (matchers : List Matcher)
    (later : List (List Matcher)) (phases : course.phases = matchers :: later) (events : List Event)
    (breakdown : Breakdown)
    (broken : (course.passed tree matchers).selection = ⟨events, some breakdown⟩) :
    course.toCome tree = ⟨events, some breakdown⟩ := by
  simp only [toCome, phases, broken, andThen, ite_self]

theorem toCome_yielding (tree : FileTree) (course : Course) (matchers : List Matcher)
    (later : List (List Matcher)) (phases : course.phases = matchers :: later)
    (yields : course.produced = true ∨ (course.passed tree matchers).selection.items ≠ []) :
    course.toCome tree = (course.passed tree matchers).selection := by
  simp only [toCome, phases]
  apply if_neg
  rintro ⟨unproduced, nothing⟩
  rcases yields with produced | something
  · rw [produced] at unproduced
    cases unproduced
  · exact something nothing

/-- A pass that has not yielded and ends without a result is followed by the next one. -/
theorem toCome_barren (tree : FileTree) (course : Course) (matchers : List Matcher)
    (later : List (List Matcher)) (phases : course.phases = matchers :: later)
    (unproduced : course.produced = false) (silent : List Event) (supply : Supply)
    (quiet : silent.filterMap Event.item? = [])
    (ended : course.passed tree matchers = ⟨⟨silent, none⟩, supply⟩) :
    course.toCome tree = andThen ⟨silent, none⟩ (ofPhases tree later supply) := by
  have nothing : Selection.items ⟨silent, none⟩ = [] := quiet
  simp only [toCome, phases, ended, unproduced, nothing, and_self, if_true]

theorem goOn_goes (tree : FileTree) (course : Course) :
    Goes tree course (goOn tree course.phases course) := by
  generalize same : course.phases = phases
  induction phases generalizing course with
  | nil =>
      refine .ended [] _ rfl (List.append_nil _).symm ?_
      simp only [toCome, same]
  | cons matchers later ih =>
      rw [goOn]
      cases present : course.present tree with
      | error breakdown =>
          exact .broken [] _ breakdown rfl (List.append_nil _).symm
            (toCome_broken tree course matchers later same [] breakdown
              (present_fails tree course breakdown present matchers))
      | ok first =>
          obtain ⟨pass, begun⟩ := first
          obtain ⟨front, unseen, log, produced, course_passed⟩ :=
            present_spec tree course begun pass present
          have whole := course_passed matchers
          have split := stretch_splits tree.opener matchers pass.feed begun.supply pass.rest
          have joined (silent : List Event) (quiet : silent.filterMap Event.item? = []) :
              (front ++ silent).filterMap Event.item? = [] := by
            rw [List.filterMap_append, unseen, quiet, List.append_nil]
          dsimp only
          generalize stretch tree.opener matchers pass.feed begun.supply pass.rest = part at split ⊢
          cases split with
          | yielded silent item supply rest quiet parts =>
              rw [parts] at whole
              have yields : (course.passed tree matchers).selection.items ≠ [] := by
                rw [whole]
                simp [andThen, items, Event.item?]
              refine .item (front ++ silent) item _ (joined silent quiet) ?_ ?_
              · simp only [log, List.append_assoc]
              · rw [toCome_yielding tree course matchers later same (Or.inr yields),
                  toCome_yielding tree _ matchers later rfl (Or.inl rfl), whole]
                simp only [andThen, passed, List.append_assoc]
          | exhausted silent supply quiet parts =>
              rw [parts] at whole
              dsimp only
              cases yielded : begun.produced with
              | true =>
                  rw [if_pos rfl]
                  refine .ended (front ++ silent) _ (joined silent quiet) ?_ ?_
                  · simp only [ended, log, List.append_assoc]
                  · rw [toCome_yielding tree course matchers later same
                      (Or.inl (produced.symm.trans yielded)), whole]
                    rfl
              | false =>
                  rw [if_neg Bool.false_ne_true]
                  let next : Course := ⟨supply, later, none, false, begun.log ++ silent⟩
                  have follows : course.toCome tree =
                      andThen ⟨front ++ silent, none⟩ (next.toCome tree) := by
                    rw [toCome_unbegun tree next rfl rfl]
                    exact toCome_barren tree course matchers later same
                      (produced.symm.trans yielded) (front ++ silent) supply
                      (joined silent quiet) whole
                  refine (ih next rfl).behind (front ++ silent) (joined silent quiet) ?_ follows
                  simp only [next, log, List.append_assoc]
          | broken silent supply rest breakdown quiet parts =>
              rw [parts] at whole
              refine .broken (front ++ silent) _ breakdown (joined silent quiet) ?_ ?_
              · simp only [ended, log, List.append_assoc]
              · exact toCome_broken tree course matchers later same _ breakdown
                  (congrArg Passed.selection whole)

/-- What a caller sees who asks for some items is that beginning of what is to come. -/
theorem run_takes (tree : FileTree) (n : Nat) (course : Course) :
    (course.run tree n).selection =
      andThen ⟨course.log, none⟩ ((course.toCome tree).take n) := by
  induction n generalizing course with
  | zero =>
      rw [take_zero]
      exact (andThen_nothing _).symm
  | succ n ih =>
      have goes := goOn_goes tree course
      rw [run, next]
      generalize goOn tree course.phases course = answer at goes ⊢
      cases goes with
      | item silent item reached quiet seen parts =>
          rw [parts, take_item silent item _ n quiet, ← andThen_assoc]
          simp only [ih, seen, andThen]
      | ended silent reached quiet seen parts =>
          rw [parts, take_barren silent none n quiet]
          simp only [Stopped.selection, seen, andThen]
      | broken silent reached breakdown quiet seen parts =>
          rw [parts, take_barren silent _ n quiet]
          simp only [Stopped.selection, seen, andThen]

theorem run_selection (tree : FileTree) (source : PathSource) (query : Query) (n : Nat) :
    ((start source query).run tree n).selection = (ofQuery tree source query).take n := by
  rw [run_takes, toCome_start]
  simp only [start, andThen, List.nil_append]

end Course

end DocFinder.Selection
