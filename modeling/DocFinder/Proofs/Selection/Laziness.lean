import DocFinder.Proofs.Selection.Recording
import Mathlib.Data.List.TakeWhile

/-! How much of its source a selection uses. The kinds of sources are told apart only by what is seen
while items are drawn, and no item is drawn before it is needed. -/

namespace DocFinder.Selection

theorem andThen_extends (first second : Selection) :
    ∃ tail ending, first.andThen second = ⟨first.events ++ tail, ending⟩ := by
  rcases first with ⟨events, _ | breakdown⟩
  · exact ⟨second.events, second.breakdown, rfl⟩
  · exact ⟨[], some breakdown, by simp [andThen]⟩

theorem ofItems_append (opener : Opener) (matchers : List Matcher) (drawing : List Event)
    (before rest : List PathItem) :
    ofItems opener matchers drawing (before ++ rest) =
      (ofItems opener matchers drawing before).andThen (ofItems opener matchers drawing rest) := by
  induction before with
  | nil => rfl
  | cons item before ih => simp only [List.cons_append, ofItems, ih, andThen_assoc]

/-- What is seen while items are drawn is seen once for each item up to the one that ends the pass. -/
theorem countP_ofItems (opener : Opener) (matchers : List Matcher) (drawing : List Event)
    (given : List PathItem) (counted : Event → Bool)
    (silent : ∀ item, ∀ event ∈ (examine opener matchers item).events, counted event = false) :
    (ofItems opener matchers drawing given).events.countP counted =
      min given.length ((unbroken opener matchers given).length + 1) * drawing.countP counted := by
  induction given with
  | nil => simp [ofItems]
  | cons item rest ih =>
      have quiet : (examine opener matchers item).events.countP counted = 0 := by
        rw [List.countP_eq_zero]
        intro event member
        rw [silent item event member]
        exact Bool.false_ne_true
      have ended := (examine_spec opener matchers item).2
      rw [ofItems, unbroken_cons]
      cases broken : breakdownAt? opener matchers item with
      | none =>
          rw [broken] at ended
          simp only [andThen, ended, List.countP_append, quiet, ih, List.length_cons,
            Nat.add_min_add_right, Nat.add_mul, Nat.one_mul]
          omega
      | some breakdown =>
          rw [broken] at ended
          simp only [andThen, ended, List.countP_append, quiet, List.length_nil, List.length_cons]
          have one : min (rest.length + 1) (0 + 1) = 1 := by omega
          rw [one, Nat.one_mul, Nat.add_zero]

theorem draws_ofItems (opener : Opener) (matchers : List Matcher) (given : List PathItem) :
    (ofItems opener matchers [.drawn] given).draws =
      min given.length ((unbroken opener matchers given).length + 1) := by
  have count := countP_ofItems opener matchers [.drawn] given Event.isDrawn
    fun item event member => (examine_silent opener matchers item event member).1
  rw [draws, count]
  exact Nat.mul_one _

theorem calls_ofItems (opener : Opener) (matchers : List Matcher) (given : List PathItem) :
    (ofItems opener matchers [.drawn] given).calls = 0 := by
  have count := countP_ofItems opener matchers [.drawn] given Event.isCalled
    fun item event member => (examine_silent opener matchers item event member).2
  rw [calls, count]
  exact Nat.mul_zero _

theorem ofItems_produces (opener : Opener) (matchers : List Matcher)
    (before after : List PathItem) (item : PathItem) (result : SelectionItem)
    (quiet : ∀ earlier ∈ before, breakdownAt? opener matchers earlier = none)
    (produced : contribution opener matchers item = some result) :
    ∃ front rest breakdown,
      ofItems opener matchers [.drawn] (before ++ item :: after) =
        ⟨front ++ .yielded result :: rest, breakdown⟩ ∧
      front.filterMap Event.item? = before.filterMap (contribution opener matchers) ∧
      front.countP Event.isDrawn = before.length + 1 := by
  let first := ofItems opener matchers [.drawn] before
  have free := unbroken_free opener matchers before quiet
  obtain ⟨yielded, ended⟩ := ofItems_spec opener matchers [.drawn] before rfl
  rw [free] at yielded
  have whole : first.breakdown = none := ended.trans (List.findSome?_eq_none_iff.mpr quiet)
  have drawn : first.draws = before.length := by
    rw [draws_ofItems, free]
    omega
  have single := (examine_spec opener matchers item).1
  rw [produced] at single
  obtain ⟨seen, more, events, unseen⟩ := split_at_item _ [] [] result single
  have none_drawn : seen.countP Event.isDrawn = 0 := by
    rw [List.countP_eq_zero]
    intro event member
    have inside : event ∈ (examine opener matchers item).events := by
      rw [events]
      exact List.mem_append_left _ member
    rw [(examine_silent opener matchers item event inside).1]
    exact Bool.false_ne_true
  have first_yield : first.events.filterMap Event.item? =
      before.filterMap (contribution opener matchers) := yielded
  have first_drawn : first.events.countP Event.isDrawn = before.length := drawn
  obtain ⟨tail, ending, later⟩ := andThen_extends
    ⟨[.drawn] ++ (examine opener matchers item).events, (examine opener matchers item).breakdown⟩
    (ofItems opener matchers [.drawn] after)
  refine ⟨first.events ++ .drawn :: seen, more ++ tail, ending, ?_, ?_, ?_⟩
  · calc
      ofItems opener matchers [.drawn] (before ++ item :: after) =
          first.andThen (ofItems opener matchers [.drawn] (item :: after)) :=
        ofItems_append opener matchers [.drawn] before (item :: after)
      _ = ⟨first.events ++ ([.drawn] ++ (examine opener matchers item).events ++ tail), ending⟩ := by
        rw [andThen, whole, ofItems, later]
      _ = ⟨first.events ++ .drawn :: seen ++ .yielded result :: (more ++ tail), ending⟩ := by
        rw [events]
        simp
  · rw [List.filterMap_append, first_yield, List.filterMap_cons_none rfl, unseen, List.append_nil]
  · rw [List.countP_append, first_drawn, List.countP_cons_of_pos rfl, none_drawn]

theorem producer (f : PathItem → Option SelectionItem) (given : List PathItem) (n : Nat)
    (within : n < (given.filterMap f).length) :
    ∃ before item after, given = before ++ item :: after ∧ (before.filterMap f).length = n ∧
      f item = (given.filterMap f)[n]? := by
  induction given generalizing n with
  | nil => exact absurd within (Nat.not_lt_zero n)
  | cons item rest ih =>
      cases added : f item with
      | none =>
          rw [List.filterMap_cons_none added] at within ⊢
          obtain ⟨before, found, after, parts, count, produced⟩ := ih n within
          refine ⟨item :: before, found, after, congrArg (item :: ·) parts, ?_, produced⟩
          rw [List.filterMap_cons_none added, count]
      | some result =>
          rw [List.filterMap_cons_some added] at within ⊢
          cases n with
          | zero => exact ⟨[], item, rest, rfl, rfl, added⟩
          | succ n =>
              obtain ⟨before, found, after, parts, count, produced⟩ :=
                ih n (Nat.lt_of_succ_lt_succ within)
              refine ⟨item :: before, found, after, congrArg (item :: ·) parts, ?_, produced⟩
              rw [List.filterMap_cons_some added, List.length_cons, count]

/-- A caller that wants an item gets past a part that yields none. -/
theorem take_andThen (first second : Selection) (n : Nat) (nothing : first.items = [])
    (whole : first.breakdown = none) :
    (first.andThen second).take (n + 1) = first.andThen (second.take (n + 1)) := by
  obtain ⟨both, _⟩ := andThen_spec first second
  rw [nothing, whole] at both
  have same : (first.andThen second).items = second.items := both
  unfold take
  rw [same]
  by_cases within : n + 1 ≤ second.items.length
  · rw [if_pos within, if_pos within]
    simp only [andThen, whole, cut_silent first.events second.events n nothing]
  · rw [if_neg within, if_neg within]

theorem countP_andThen (counted : Event → Bool) (first second : Selection)
    (whole : first.breakdown = none) :
    (first.andThen second).events.countP counted =
      first.events.countP counted + second.events.countP counted := by
  simp only [andThen, whole, List.countP_append]

theorem countP_take (counted : Event → Bool) (selection : Selection) (n : Nat)
    (nothing : selection.events.countP counted = 0) :
    (selection.take n).events.countP counted = 0 := by
  have fewer : (selection.take n).events.countP counted ≤ selection.events.countP counted :=
    (take_isPrefix selection n).sublist.countP_le
  omega

/-- The matchers of the first pass of a query, which is the only one without a smart name. -/
def firstMatchers (query : Query) : List Matcher :=
  (match query.smartName with
    | none => .always
    | some name => .nameIs name) :: query.matchers

def firstResults (opener : Opener) (query : Query) (given : List PathItem) : List SelectionItem :=
  (unbroken opener (firstMatchers query) given).filterMap (contribution opener (firstMatchers query))

/-- A query has a smart name, and the pass for whole names came to its end without a result. -/
structure FallsBack (opener : Opener) (query : Query) (given : List PathItem) (name : String) :
    Prop where
  smart : query.smartName = some name
  nothing : firstResults opener query given = []
  whole : ∀ item ∈ given, breakdownAt? opener (firstMatchers query) item = none

section

variable (tree : FileTree) (query : Query) (given : List PathItem)

theorem first_spec (source : PathSource) (gives : source.items tree = .ok given) :
    let first := (pass tree (firstMatchers query) (source.supply query)).selection
    first.items = firstResults tree.opener query given ∧
      first.breakdown = given.findSome? (breakdownAt? tree.opener (firstMatchers query)) :=
  pass_spec tree (firstMatchers query) (source.supply query) given
    ((supply_items tree source query).trans gives)

theorem ofQuery_first (source : PathSource) (gives : source.items tree = .ok given)
    (stays : ∀ name, ¬ FallsBack tree.opener query given name) :
    ofQuery tree source query =
      (pass tree (firstMatchers query) (source.supply query)).selection := by
  obtain ⟨items, ended⟩ := first_spec tree query given source gives
  cases smart : query.smartName with
  | none =>
      rw [ofQuery_plain tree source query smart]
      simp only [firstMatchers, smart]
  | some name =>
      have matchers : firstMatchers query = .nameIs name :: query.matchers := by
        simp only [firstMatchers, smart]
      rw [matchers] at items ended ⊢
      rw [ofQuery_smart tree source query name smart]
      apply (andThen_fallback _ _).1
      by_cases nothing : firstResults tree.opener query given = []
      · right
        intro whole
        rw [whole, eq_comm, List.findSome?_eq_none_iff] at ended
        exact stays name ⟨smart, nothing, by rw [matchers]; exact ended⟩
      · left
        rw [items]
        exact nothing

/-- A query that falls back goes over the items once more, in the source that the first pass left. -/
theorem ofQuery_second (source : PathSource) (gives : source.items tree = .ok given) (name : String)
    (back : FallsBack tree.opener query given name) :
    let first := pass tree (firstMatchers query) (source.supply query)
    ofQuery tree source query = first.selection.andThen
        (pass tree (.nameStartsWith name :: query.matchers) first.supply).selection ∧
      first.selection.items = [] ∧ first.selection.breakdown = none ∧
      first.supply.items tree = .ok given := by
  intro first
  obtain ⟨items, ended⟩ := first_spec tree query given source gives
  have nothing : first.selection.items = [] := items.trans back.nothing
  have whole : first.selection.breakdown = none :=
    ended.trans (List.findSome?_eq_none_iff.mpr back.whole)
  have twice : query.smartName.isSome = true := by
    rw [back.smart]
    rfl
  have again := pass_again tree source query (firstMatchers query) given gives twice whole
  refine ⟨?_, nothing, whole, again⟩
  have matchers : firstMatchers query = .nameIs name :: query.matchers := by
    simp only [firstMatchers, back.smart]
  simp only [first, matchers] at nothing ⊢
  rw [ofQuery_smart tree source query name back.smart]
  simp only [nothing, List.isEmpty_nil, if_true]

theorem ofQuery_stays (source : PathSource) (gives : source.items tree = .ok given) (name : String)
    (smart : query.smartName = some name) (stays : ¬ FallsBack tree.opener query given name) :
    ofQuery tree source query =
      (pass tree (.nameIs name :: query.matchers) (source.supply query)).selection := by
  have matchers : firstMatchers query = .nameIs name :: query.matchers := by
    simp only [firstMatchers, smart]
  rw [← matchers]
  refine ofQuery_first tree query given source gives fun other back => ?_
  obtain rfl : name = other := Option.some.inj (smart.symm.trans back.smart)
  exact stays back

theorem ofQuery_falls_back (source : PathSource) (gives : source.items tree = .ok given)
    (name : String) (back : FallsBack tree.opener query given name) :
    let supply := (pass tree (firstMatchers query) (source.supply query)).supply
    let second := (pass tree (.nameStartsWith name :: query.matchers) supply).selection
    supply.items tree = .ok given ∧ (ofQuery tree source query).items = second.items ∧
      (ofQuery tree source query).breakdown = second.breakdown := by
  intro supply second
  obtain ⟨course, nothing, ended, again⟩ := ofQuery_second tree query given source gives name back
  obtain ⟨items, breakdown⟩ :=
    andThen_spec (pass tree (firstMatchers query) (source.supply query)).selection second
  rw [← course, nothing, ended] at items
  rw [← course, ended] at breakdown
  exact ⟨again, items, breakdown⟩

theorem ofQuery_alike (source other : PathSource) (gives : source.items tree = .ok given)
    (too : other.items tree = .ok given) :
    (ofQuery tree source query).items = (ofQuery tree other query).items ∧
      (ofQuery tree source query).breakdown = (ofQuery tree other query).breakdown := by
  by_cases back : ∃ name, FallsBack tree.opener query given name
  · obtain ⟨name, back⟩ := back
    let beginnings := .nameStartsWith name :: query.matchers
    obtain ⟨again, items, ended⟩ := ofQuery_falls_back tree query given source gives name back
    obtain ⟨other_again, other_items, other_ended⟩ :=
      ofQuery_falls_back tree query given other too name back
    obtain ⟨more, more_ended⟩ := pass_spec tree beginnings _ given again
    obtain ⟨other_more, other_more_ended⟩ := pass_spec tree beginnings _ given other_again
    rw [items, ended, other_items, other_ended]
    exact ⟨more.trans other_more.symm, more_ended.trans other_more_ended.symm⟩
  · rw [not_exists] at back
    obtain ⟨items, ended⟩ := first_spec tree query given source gives
    obtain ⟨other_items, other_ended⟩ := first_spec tree query given other too
    rw [ofQuery_first tree query given source gives back,
      ofQuery_first tree query given other too back]
    exact ⟨items.trans other_items.symm, ended.trans other_ended.symm⟩

theorem pass_iterator (matchers : List Matcher) :
    (pass tree matchers ((PathSource.iterator given).supply query)).selection =
      ofItems tree.opener matchers [.drawn] given := by
  rw [pass_course tree matchers _ given (supply_items tree (.iterator given) query)]
  unfold PathSource.supply
  cases query.smartName.isSome <;> rfl

theorem pass_callable (matchers : List Matcher) :
    pass tree matchers (.callable given) =
      ⟨andThen ⟨[.called], none⟩ (ofItems tree.opener matchers [.drawn] given), .callable given⟩ := by
  simp only [pass, Supply.begin, goOver_selection]
  rw [goOver_unrecorded _ _ _ _ _ (by decide)]
  rfl

/-- A pass over a source that gives its items once takes up to the one that a result comes from. -/
theorem drawn_for_result (before after : List PathItem) (item : PathItem) (result : SelectionItem)
    (stays : ∀ name, ¬ FallsBack tree.opener query (before ++ item :: after) name)
    (quiet : ∀ earlier ∈ before,
      breakdownAt? tree.opener (firstMatchers query) earlier = none)
    (produced : contribution tree.opener (firstMatchers query) item = some result) :
    ((ofQuery tree (.iterator (before ++ item :: after)) query).take
      ((before.filterMap (contribution tree.opener (firstMatchers query))).length + 1)).draws =
        before.length + 1 := by
  obtain ⟨front, rest, breakdown, course, yielded, count⟩ :=
    ofItems_produces tree.opener (firstMatchers query) before after item result quiet produced
  have first := ofQuery_first tree query _ (.iterator (before ++ item :: after)) rfl stays
  have left := take_at front rest result breakdown
  rw [yielded, ← course, ← pass_iterator tree query, ← first] at left
  rw [left, Selection.draws, List.countP_append, count]
  rfl

theorem draws_of_whole (matchers : List Matcher) (whole : ∀ item ∈ given,
    breakdownAt? tree.opener matchers item = none) :
    (ofItems tree.opener matchers [.drawn] given).draws = given.length := by
  rw [draws_ofItems, unbroken_free tree.opener matchers given whole]
  omega

theorem finds (wanted : Nat) :
    Course.Finds given query.smartName.isSome
      ((ofQuery tree (.iterator given) query).take wanted).draws
      ((Course.start (.iterator given) query).run tree wanted).course := by
  rw [← Course.run_selection]
  exact Course.run_finds tree given query wanted

theorem drawn_for_second (name : String) (back : FallsBack tree.opener query given name)
    (n : Nat) :
    ((ofQuery tree (.iterator given) query).take (n + 1)).draws = given.length := by
  obtain ⟨course, nothing, whole, _⟩ :=
    ofQuery_second tree query given (.iterator given) rfl name back
  have all := draws_of_whole tree given (firstMatchers query) back.whole
  rw [← pass_iterator tree query given] at all
  have within := (finds tree query given (n + 1)).within
  rw [course, take_andThen _ _ n nothing whole, draws, countP_andThen _ _ _ whole] at within ⊢
  rw [draws] at all
  omega

theorem left_of_drawn (wanted : Nat)
    (all : ((ofQuery tree (.iterator given) query).take wanted).draws = given.length) :
    ((Course.start (.iterator given) query).run tree wanted).course.left = [] := by
  rw [(finds tree query given wanted).left, all, List.drop_length]

theorem second_replays (name : String) (back : FallsBack tree.opener query given name) (n : Nat) :
    let second := .nameStartsWith name :: query.matchers
    let stopped := (Course.start (.iterator given) query).run tree (n + 1)
    stopped.selection.items =
        ((unbroken tree.opener second given).filterMap (contribution tree.opener second)).take
          (n + 1) ∧
      stopped.course.left = [] ∧ ∃ source, stopped.course.supply = .recorder source given := by
  intro second stopped
  obtain ⟨again, items, _⟩ := ofQuery_falls_back tree query given (.iterator given) rfl name back
  have all := drawn_for_second tree query given name back n
  refine ⟨?_, left_of_drawn tree query given (n + 1) all, ?_⟩
  · simp only [stopped, Course.run_selection, take_items]
    rw [items, (pass_spec tree second _ given again).1]
  · have twice : query.smartName.isSome = true := by
      rw [back.smart]
      rfl
    have record := (finds tree query given (n + 1)).record twice
    rwa [all, List.take_length] at record

/-- Where the results run out before a caller has as many as it wants, all items were drawn. -/
theorem drawn_when_exhausted (wanted : Nat)
    (short : ((ofQuery tree (.iterator given) query).take wanted).items.length < wanted)
    (whole : ((ofQuery tree (.iterator given) query).take wanted).breakdown = none) :
    ((ofQuery tree (.iterator given) query).take wanted).draws = given.length := by
  by_cases back : ∃ name, FallsBack tree.opener query given name
  · obtain ⟨name, back⟩ := back
    obtain ⟨n, rfl⟩ := Nat.exists_eq_add_one.mpr (Nat.zero_lt_of_lt short)
    exact drawn_for_second tree query given name back n
  · rw [not_exists] at back
    have same := ofQuery_first tree query given (.iterator given) rfl back
    have ended := (first_spec tree query given (.iterator given) rfl).2
    rw [take_items, List.length_take] at short
    have enough : ¬ wanted ≤ (ofQuery tree (.iterator given) query).items.length := by omega
    rw [take_breakdown, if_neg enough, same, ended, List.findSome?_eq_none_iff] at whole
    rw [take, if_neg enough, same, pass_iterator]
    exact draws_of_whole tree given (firstMatchers query) whole

theorem calls_for_results (n : Nat) :
    ((∃ name, FallsBack tree.opener query given name) →
      ((ofQuery tree (.callable given) query).take (n + 1)).calls = 2) ∧
    ((∀ name, ¬ FallsBack tree.opener query given name) →
      ((ofQuery tree (.callable given) query).take (n + 1)).calls = 1) := by
  let call : Selection := ⟨[.called], none⟩
  have once (matchers : List Matcher) :
      (pass tree matchers (.callable given)).selection.events.countP Event.isCalled = 1 ∧
        ((pass tree matchers (.callable given)).selection.take (n + 1)).events.countP
          Event.isCalled = 1 := by
    have none_called := calls_ofItems tree.opener matchers given
    rw [pass_callable]
    change (call.andThen _).events.countP Event.isCalled = 1 ∧
      ((call.andThen _).take (n + 1)).events.countP Event.isCalled = 1
    rw [take_andThen call _ n rfl rfl, countP_andThen _ call _ rfl, countP_andThen _ call _ rfl,
      countP_take _ _ _ none_called]
    exact ⟨congrArg (1 + ·) none_called, rfl⟩
  have supply : (PathSource.callable given).supply query = .callable given := rfl
  constructor
  · rintro ⟨name, back⟩
    obtain ⟨course, nothing, whole, _⟩ :=
      ofQuery_second tree query given (.callable given) rfl name back
    rw [course, take_andThen _ _ n nothing whole, calls, countP_andThen _ _ _ whole, supply,
      (once _).1]
    have left : (pass tree (firstMatchers query) (.callable given)).supply = .callable given := by
      rw [pass_callable]
    rw [left, (once _).2]
  · intro stays
    rw [ofQuery_first tree query given (.callable given) rfl stays]
    exact (once _).2

theorem left_behind (before after : List PathItem) (item : PathItem)
    (parts : given = before ++ item :: after) : given.drop (before.length + 1) = after := by
  rw [parts, List.drop_append, List.drop_of_length_le (Nat.le_succ _), Nat.add_sub_cancel_left]
  rfl

theorem stays_of_result (n : Nat) (within : n < (firstResults tree.opener query given).length)
    (name : String) : ¬ FallsBack tree.opener query given name := by
  intro back
  rw [back.nothing] at within
  exact Nat.not_lt_zero n within

theorem drawn_up_to_producer (n : Nat)
    (within : n < (firstResults tree.opener query given).length) :
    ∃ before item after, given = before ++ item :: after ∧
      (before.filterMap (contribution tree.opener (firstMatchers query))).length = n ∧
      contribution tree.opener (firstMatchers query) item =
        (firstResults tree.opener query given)[n]? ∧
      ((Course.start (.iterator given) query).run tree (n + 1)).course.left = after := by
  have stays := stays_of_result tree query given n within
  obtain ⟨before, item, later, front, count, produced⟩ := producer _ _ n within
  obtain ⟨rest, whole⟩ : unbroken tree.opener (firstMatchers query) given <+: given :=
    List.takeWhile_prefix _
  have parts : given = before ++ item :: (later ++ rest) := by
    rw [← whole, front]
    simp
  have quiet : ∀ earlier ∈ before,
      breakdownAt? tree.opener (firstMatchers query) earlier = none := by
    intro earlier member
    have inside : earlier ∈ unbroken tree.opener (firstMatchers query) given := by
      rw [front]
      exact List.mem_append_left _ member
    have quiet_here := List.mem_takeWhile_imp inside
    exact Option.isNone_iff_eq_none.mp quiet_here
  have result := produced.trans (List.getElem?_eq_getElem within)
  refine ⟨before, item, later ++ rest, parts, count, produced, ?_⟩
  rw [parts] at stays
  have drawn := drawn_for_result tree query before (later ++ rest) item _ stays quiet result
  rw [count, ← parts] at drawn
  rw [(finds tree query given (n + 1)).left, drawn]
  exact left_behind given before (later ++ rest) item parts

theorem drawn_up_to_breakdown (before after : List PathItem) (item : PathItem)
    (breakdown : Breakdown) (parts : given = before ++ item :: after)
    (quiet : ∀ earlier ∈ before, breakdownAt? tree.opener (firstMatchers query) earlier = none)
    (broken : breakdownAt? tree.opener (firstMatchers query) item = some breakdown) (wanted : Nat)
    (more : (firstResults tree.opener query given).length < wanted) :
    ((ofQuery tree (.iterator given) query).take wanted).breakdown = some breakdown ∧
      ((Course.start (.iterator given) query).run tree wanted).course.left = after := by
  have stays (name : String) : ¬ FallsBack tree.opener query given name := by
    intro back
    have none_broken := back.whole item (by rw [parts]; simp)
    rw [broken] at none_broken
    cases none_broken
  obtain ⟨items, _⟩ := first_spec tree query given (.iterator given) rfl
  have first := ofQuery_first tree query given (.iterator given) rfl stays
  have enough : ¬ wanted ≤ (ofQuery tree (.iterator given) query).items.length := by
    rw [first, items]
    exact Nat.not_le_of_lt more
  have whole : (ofQuery tree (.iterator given) query).take wanted =
      ofItems tree.opener (firstMatchers query) [.drawn] given := by
    rw [take, if_neg enough, first, pass_iterator]
  have front : unbroken tree.opener (firstMatchers query) given = before := by
    rw [parts, unbroken_append _ _ _ _ quiet, unbroken_cons, broken, List.append_nil]
  constructor
  · have at_item : given.findSome? (breakdownAt? tree.opener (firstMatchers query)) =
        some breakdown := by
      rw [List.findSome?_eq_some_iff]
      exact ⟨before, item, after, parts, broken, quiet⟩
    rw [whole, ← at_item]
    exact (ofItems_spec tree.opener (firstMatchers query) [.drawn] given rfl).2
  · have draws : ((ofQuery tree (.iterator given) query).take wanted).draws =
        before.length + 1 := by
      rw [whole, draws_ofItems, front, parts, List.length_append, List.length_cons]
      omega
    rw [(finds tree query given wanted).left, draws]
    exact left_behind given before after item parts

end

/-- A caller that stops after `wanted` results gets the same ones from a list, from a source that is
called for each pass and from one that gives its items once. The last draws each item at most once
and none before it is needed. It is recorded if the query has a smart name: the record is what was
drawn, and a second pass goes over a record of all items. The source that is called is called for each
pass that is begun. -/
theorem sources_used_lazily (tree : FileTree) (query : Query) (given : List PathItem) (wanted : Nat) :
    let first := firstMatchers query
    let results := firstResults tree.opener query given
    let asked (source : PathSource) := (Course.start source query).run tree wanted
    let listed := (asked (.list given)).selection
    let called := (asked (.callable given)).selection
    let drawn := (asked (.iterator given)).selection
    let reached := (asked (.iterator given)).course
    (called.items = listed.items ∧ called.breakdown = listed.breakdown) ∧
    (drawn.items = listed.items ∧ drawn.breakdown = listed.breakdown) ∧
    Course.Finds given query.smartName.isSome drawn.draws reached ∧
    (wanted = 0 → reached.left = given ∧ called.calls = 0) ∧
    (∀ n, wanted = n + 1 → n < results.length →
      listed.items = results.take wanted ∧
        ∃ before item after, given = before ++ item :: after ∧
          (before.filterMap (contribution tree.opener first)).length = n ∧
          contribution tree.opener first item = results[n]? ∧ reached.left = after) ∧
    (∀ name, FallsBack tree.opener query given name → 0 < wanted →
      let second := .nameStartsWith name :: query.matchers
      drawn.items =
          ((unbroken tree.opener second given).filterMap (contribution tree.opener second)).take
            wanted ∧
        reached.left = [] ∧ ∃ source, reached.supply = .recorder source given) ∧
    (listed.items.length < wanted → listed.breakdown = none → reached.left = []) ∧
    (∀ before item after breakdown, given = before ++ item :: after →
      (∀ earlier ∈ before, breakdownAt? tree.opener first earlier = none) →
      breakdownAt? tree.opener first item = some breakdown → results.length < wanted →
      listed.breakdown = some breakdown ∧ reached.left = after) ∧
    (0 < wanted →
      ((∃ name, FallsBack tree.opener query given name) → called.calls = 2) ∧
        ((∀ name, ¬ FallsBack tree.opener query given name) → called.calls = 1)) := by
  intro first results asked listed called drawn reached
  -- What is seen of each source is the beginning of its whole selection.
  have seen (source : PathSource) :
      (asked source).selection = (ofQuery tree source query).take wanted :=
    Course.run_selection tree source query wanted
  have alike (source : PathSource) (gives : source.items tree = .ok given) :
      (asked source).selection.items = listed.items ∧
        (asked source).selection.breakdown = listed.breakdown := by
    obtain ⟨items, breakdown⟩ := ofQuery_alike tree query given source (.list given) gives rfl
    simp only [listed, seen, take_items, take_breakdown, items, breakdown, and_self]
  have found : Course.Finds given query.smartName.isSome drawn.draws reached :=
    Course.run_finds tree given query wanted
  refine ⟨alike (.callable given) rfl, alike (.iterator given) rfl, found, ?_, ?_, ?_, ?_, ?_, ?_⟩
  · rintro rfl
    constructor
    · rw [found.left]
      rfl
    · rfl
  · rintro n rfl within
    have stays := stays_of_result tree query given n within
    constructor
    · simp only [listed, seen, take_items,
        ofQuery_first tree query given (.list given) rfl stays]
      rw [(first_spec tree query given (.list given) rfl).1]
    · exact drawn_up_to_producer tree query given n within
  · intro name back some_wanted
    obtain ⟨n, rfl⟩ := Nat.exists_eq_add_one.mpr some_wanted
    exact second_replays tree query given name back n
  · intro ran_out whole
    obtain ⟨items, breakdown⟩ := alike (.iterator given) rfl
    rw [← items, seen] at ran_out
    rw [← breakdown, seen] at whole
    exact left_of_drawn tree query given wanted
      (drawn_when_exhausted tree query given wanted ran_out whole)
  · intro before item after breakdown parts quiet broken more
    obtain ⟨ended, rest⟩ := drawn_up_to_breakdown tree query given before after item breakdown parts
      quiet broken wanted more
    refine ⟨(alike (.iterator given) rfl).2.symm.trans ?_, rest⟩
    rw [seen]
    exact ended
  · intro some_wanted
    obtain ⟨n, rfl⟩ := Nat.exists_eq_add_one.mpr some_wanted
    simp only [called, seen]
    exact calls_for_results tree query given n

/-- No note has the whole name. For the first result of the second pass all notes were drawn once and
are on record, and a source that is called was called twice. -/
theorem beginnings_need_all :
    let given : List PathItem := [.ok ⟨.relative, ["note.md"]⟩, .ok ⟨.relative, ["other.md"]⟩]
    let query : Query := ⟨some "no", []⟩
    let stopped := (Course.start (.iterator given) query).run {} 1
    FallsBack ({} : FileTree).opener query given "no" ∧
      stopped.selection.items = [.ok { path := ⟨.relative, ["note.md"]⟩ }] ∧
      stopped.course.left = [] ∧ (∃ source, stopped.course.supply = .recorder source given) ∧
      ((Course.start (.callable given) query).run {} 1).selection.calls = 2 := by
  have back : FallsBack ({} : FileTree).opener ⟨some "no", []⟩
      [.ok ⟨.relative, ["note.md"]⟩, .ok ⟨.relative, ["other.md"]⟩] "no" := by
    refine ⟨rfl, by rfl, ?_⟩
    intro item member
    simp only [List.mem_cons, List.not_mem_nil, or_false] at member
    rcases member with rfl | rfl <;> rfl
  intro given query stopped
  obtain ⟨_, _, _, _, _, second, _, _, calls⟩ := sources_used_lazily {} query given 1
  obtain ⟨items, left, record⟩ := second "no" back Nat.zero_lt_one
  exact ⟨back, items.trans (by rfl), left, record, (calls Nat.zero_lt_one).1 ⟨"no", back⟩⟩

end DocFinder.Selection
