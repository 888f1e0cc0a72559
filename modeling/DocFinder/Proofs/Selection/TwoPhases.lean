import DocFinder.Proofs.Judgement
import DocFinder.Selection

namespace DocFinder

def PathSource.items (tree : FileTree) : PathSource → Except Breakdown (List PathItem)
  | .tree root => root.items tree
  | .list items | .callable items | .iterator items => .ok items

namespace Selection

namespace Supply

def items (tree : FileTree) : Supply → Except Breakdown (List PathItem)
  | .tree root => root.items tree
  | .list items | .callable items | .iterator items => .ok items
  | .recorder source seen => .ok (source.getD seen)

def feed : Supply → Feed
  | .tree _ | .list _ | .recorder none _ => .listed
  | .callable _ | .iterator _ => .drawn
  | .recorder (some _) _ => .recorded

def isSteady : Supply → Bool
  | .tree _ | .list _ | .callable _ => true
  | .iterator _ | .recorder _ _ => false

theorem begin_steady (tree : FileTree) (supply : Supply) (given : List PathItem)
    (gives : supply.items tree = .ok given) (steady : supply.isSteady = true) :
    supply.begin tree = .ok (⟨supply.feed, given⟩, supply) ∧ supply.feed ≠ .recorded := by
  cases supply with
  | tree root =>
      change root.items tree = .ok given at gives
      rw [begin, gives]
      exact ⟨rfl, Feed.noConfusion⟩
  | list items =>
      cases gives
      exact ⟨rfl, Feed.noConfusion⟩
  | callable items =>
      cases gives
      exact ⟨rfl, Feed.noConfusion⟩
  | _ => cases steady

theorem begin_gives (tree : FileTree) (supply : Supply) (given : List PathItem)
    (gives : supply.items tree = .ok given) :
    ∃ after, supply.begin tree = .ok (⟨supply.feed, given⟩, after) := by
  cases supply with
  | tree root =>
      change root.items tree = .ok given at gives
      exact ⟨.tree root, by rw [begin, gives]; rfl⟩
  | recorder source seen =>
      cases source <;> cases gives <;> exact ⟨_, rfl⟩
  | _ =>
      cases gives
      exact ⟨_, rfl⟩

theorem begin_fails (tree : FileTree) (supply : Supply) (breakdown : Breakdown)
    (fails : supply.items tree = .error breakdown) : supply.begin tree = .error breakdown := by
  cases supply with
  | tree root =>
      change root.items tree = .error breakdown at fails
      rw [begin, fails]
      rfl
  | _ => cases fails

end Supply

@[simp] theorem supply_items (tree : FileTree) (source : PathSource) (query : Query) :
    (source.supply query).items tree = source.items tree := by
  cases source with
  | iterator rest => cases smart : query.smartName.isSome <;> simp [PathSource.supply, smart] <;> rfl
  | _ => rfl

def contribution (opener : Opener) (matchers : List Matcher) : PathItem → Option SelectionItem
  | .error error => some (.error error)
  | .ok path =>
    if Matcher.reachesMetadata path matchers then
      match opener.load path with
      | .ok metadata =>
        if matchers.all (·.holds path metadata) then some (.ok (opener.loaded path)) else none
      | .error (.document error) => some (.error error)
      | .error (.breakdown _) => none
    else if matchers.all (·.holds path none) then some (.ok { path }) else none

def breakdownAt? (opener : Opener) (matchers : List Matcher) : PathItem → Option Breakdown
  | .error _ => none
  | .ok path =>
    if Matcher.reachesMetadata path matchers then
      match opener.load path with
      | .error (.breakdown breakdown) => some breakdown
      | _ => none
    else none

/-- The items in front of the first one that ends a selection. -/
def unbroken (opener : Opener) (matchers : List Matcher) (items : List PathItem) :
    List PathItem :=
  items.takeWhile fun item => (breakdownAt? opener matchers item).isNone

@[simp] theorem examined_yield_nothing (events : List DocFinder.Event) :
    (events.map Event.examined).filterMap Event.item? = [] := by
  induction events with
  | nil => rfl
  | cons event rest ih => exact ih

theorem items_append (first second : List Event) (breakdown : Option Breakdown) :
    items ⟨first ++ second, breakdown⟩ = first.filterMap Event.item? ++ second.filterMap Event.item? :=
  List.filterMap_append

theorem examine_spec (opener : Opener) (matchers : List Matcher) (item : PathItem) :
    (examine opener matchers item).items = (contribution opener matchers item).toList ∧
      (examine opener matchers item).breakdown = breakdownAt? opener matchers item := by
  cases item with
  | error error => exact ⟨rfl, rfl⟩
  | ok path =>
      obtain ⟨result, document⟩ := Matcher.allAccept_unread opener path matchers
      unfold examine contribution breakdownAt?
      simp only [result, document]
      cases reached : Matcher.reachesMetadata path matchers with
      | false =>
          cases matchers.all (·.holds path none) <;> simp [items, Event.item?]
      | true =>
          cases outcome : opener.load path with
          | ok metadata =>
              cases accepted : matchers.all (·.holds path metadata) <;>
                simp [items, Except.map, accepted, Event.item?]
          | error failure => cases failure <;> simp [items, Except.map, Event.item?]

theorem unbroken_cons (opener : Opener) (matchers : List Matcher) (item : PathItem)
    (rest : List PathItem) :
    unbroken opener matchers (item :: rest) =
      match breakdownAt? opener matchers item with
      | none => item :: unbroken opener matchers rest
      | some _ => [] := by
  rw [unbroken, List.takeWhile_cons]
  cases breakdownAt? opener matchers item <;> rfl

theorem unbroken_append (opener : Opener) (matchers : List Matcher) (before rest : List PathItem)
    (quiet : ∀ item ∈ before, breakdownAt? opener matchers item = none) :
    unbroken opener matchers (before ++ rest) = before ++ unbroken opener matchers rest := by
  apply List.takeWhile_append_of_pos
  intro item member
  rw [quiet item member]
  rfl

theorem breakdownAt_iff (opener : Opener) (matchers : List Matcher) (item : PathItem)
    (breakdown : Breakdown) :
    breakdownAt? opener matchers item = some breakdown ↔
      ∃ path, item = .ok path ∧ Matcher.reachesMetadata path matchers = true ∧
        opener.load path = .error (.breakdown breakdown) := by
  cases item with
  | error error => simp [breakdownAt?]
  | ok path =>
      cases reached : Matcher.reachesMetadata path matchers with
      | false => simp [breakdownAt?, reached]
      | true =>
          cases outcome : opener.load path with
          | ok metadata => simp [breakdownAt?, reached, outcome]
          | error failure => cases failure <;> simp [breakdownAt?, reached, outcome]

theorem contribution_of_breakdown (opener : Opener) (matchers : List Matcher) (item : PathItem)
    (breakdown : Breakdown) (broken : breakdownAt? opener matchers item = some breakdown) :
    contribution opener matchers item = none := by
  obtain ⟨path, rfl, reached, failed⟩ := (breakdownAt_iff _ _ _ _).mp broken
  simp only [contribution, reached, failed, if_true]

theorem andThen_spec (first second : Selection) :
    (first.andThen second).items =
        first.items ++ (if first.breakdown.isNone then second.items else []) ∧
      (first.andThen second).breakdown = first.breakdown.or second.breakdown := by
  unfold andThen
  cases broken : first.breakdown with
  | some breakdown => simp [broken]
  | none => simp [items]

def ofItems (opener : Opener) (matchers : List Matcher) (drawing : List Event) :
    List PathItem → Selection
  | [] => ⟨[], none⟩
  | item :: rest =>
    let one := examine opener matchers item
    andThen ⟨drawing ++ one.events, one.breakdown⟩ (ofItems opener matchers drawing rest)

theorem goOver_selection (opener : Opener) (matchers : List Matcher) (feed : Feed) (supply : Supply)
    (given : List PathItem) :
    (goOver opener matchers feed supply given).selection =
      ofItems opener matchers feed.events given := by
  induction given generalizing supply with
  | nil => rfl
  | cons item rest ih =>
      rw [goOver, ofItems]
      cases broken : (examine opener matchers item).breakdown with
      | none => simp only [ih]
      | some breakdown => simp only [andThen]

theorem ofItems_spec (opener : Opener) (matchers : List Matcher) (drawing : List Event)
    (source : List PathItem) (silent : drawing.filterMap Event.item? = []) :
    (ofItems opener matchers drawing source).items =
        (unbroken opener matchers source).filterMap (contribution opener matchers) ∧
      (ofItems opener matchers drawing source).breakdown =
        source.findSome? (breakdownAt? opener matchers) := by
  -- What is seen while items are drawn yields nothing, so that one statement serves every source.
  induction source with
  | nil => exact ⟨rfl, rfl⟩
  | cons item rest ih =>
      obtain ⟨yielded, ended⟩ := examine_spec opener matchers item
      let one := examine opener matchers item
      let drawn : Selection := ⟨drawing ++ one.events, one.breakdown⟩
      have drawn_items : drawn.items = (contribution opener matchers item).toList := by
        rw [items_append, silent, List.nil_append]
        exact yielded
      obtain ⟨both, breakdown⟩ := andThen_spec drawn (ofItems opener matchers drawing rest)
      simp only [ofItems]
      refine ⟨both.trans ?_, breakdown.trans ?_⟩
      · rw [drawn_items, ih.1, unbroken_cons]
        change _ ++ (if (examine opener matchers item).breakdown.isNone then _ else _) = _
        rw [ended]
        cases broken : breakdownAt? opener matchers item with
        | none => cases added : contribution opener matchers item <;> simp [added]
        | some breakdown => simp [contribution_of_breakdown opener matchers item breakdown broken]
      · rw [ih.2, List.findSome?_cons]
        change (examine opener matchers item).breakdown.or _ = _
        rw [ended]
        cases breakdownAt? opener matchers item <;> rfl

theorem pass_course (tree : FileTree) (matchers : List Matcher) (supply : Supply)
    (given : List PathItem) (gives : supply.items tree = .ok given) :
    (pass tree matchers supply).selection = andThen ⟨supply.front, none⟩
      (ofItems tree.opener matchers supply.feed.events given) := by
  obtain ⟨after, begun⟩ := Supply.begin_gives tree supply given gives
  simp only [pass, begun, goOver_selection]

theorem source_silent {α : Type} (view : Event → Option α) (supply : Supply)
    (uncalled : view .called = none) (undrawn : view .drawn = none) :
    supply.front.filterMap view = [] ∧ supply.feed.events.filterMap view = [] := by
  constructor
  · unfold Supply.front
    cases supply.isCalled <;> simp [uncalled]
  · cases supply.feed <;> simp [Feed.events, undrawn]

theorem pass_spec (tree : FileTree) (matchers : List Matcher) (supply : Supply)
    (given : List PathItem) (gives : supply.items tree = .ok given) :
    (pass tree matchers supply).selection.items =
        (unbroken tree.opener matchers given).filterMap (contribution tree.opener matchers) ∧
      (pass tree matchers supply).selection.breakdown =
        given.findSome? (breakdownAt? tree.opener matchers) := by
  obtain ⟨front, drawing⟩ := source_silent Event.item? supply rfl rfl
  obtain ⟨yielded, ended⟩ :=
    ofItems_spec tree.opener matchers supply.feed.events given drawing
  obtain ⟨both, breakdown⟩ := andThen_spec ⟨supply.front, none⟩
    (ofItems tree.opener matchers supply.feed.events given)
  rw [pass_course tree matchers supply given gives]
  constructor
  · rw [both, items, front]
    exact yielded
  · rw [breakdown]
    exact ended

/-- A recorder has on record what a pass has drawn, up to the item that ends it. -/
theorem goOver_recorded (opener : Opener) (matchers : List Matcher) (source : Option (List PathItem))
    (seen given : List PathItem) :
    (goOver opener matchers .recorded (.recorder source seen) given).supply =
      .recorder source (seen ++ given.take ((unbroken opener matchers given).length + 1)) := by
  induction given generalizing seen with
  | nil => simp [goOver]
  | cons item rest ih =>
      have ended := (examine_spec opener matchers item).2
      rw [goOver, unbroken_cons]
      cases broken : breakdownAt? opener matchers item with
      | some breakdown =>
          rw [broken] at ended
          simp [ended, Supply.drew]
      | none =>
          rw [broken] at ended
          simp [ended, Supply.drew, ih]

theorem goOver_unrecorded (opener : Opener) (matchers : List Matcher) (feed : Feed) (supply : Supply)
    (given : List PathItem) (unrecorded : feed ≠ .recorded) :
    (goOver opener matchers feed supply given).supply = supply := by
  have left (item : PathItem) : supply.drew item feed = supply := by
    cases feed with
    | recorded => exact absurd rfl unrecorded
    | _ => rfl
  induction given with
  | nil => rfl
  | cons item rest ih =>
      rw [goOver, left]
      cases (examine opener matchers item).breakdown with
      | none => exact ih
      | some breakdown => rfl

theorem unbroken_free (opener : Opener) (matchers : List Matcher) (given : List PathItem)
    (quiet : ∀ item ∈ given, breakdownAt? opener matchers item = none) :
    unbroken opener matchers given = given := by
  have all := unbroken_append opener matchers given [] quiet
  rw [List.append_nil] at all
  exact all.trans (List.append_nil given)

/-- Behind a pass that came to its end, the source gives all its items once more, if the query may need
them: a recorder has drawn all of them by then. -/
theorem pass_again (tree : FileTree) (source : PathSource) (query : Query) (matchers : List Matcher)
    (given : List PathItem) (gives : source.items tree = .ok given)
    (twice : query.smartName.isSome = true)
    (whole : (pass tree matchers (source.supply query)).selection.breakdown = none) :
    (pass tree matchers (source.supply query)).supply.items tree = .ok given := by
  rw [(pass_spec tree matchers _ given ((supply_items tree source query).trans gives)).2,
    List.findSome?_eq_none_iff] at whole
  have again (supply : Supply) (steady : supply.isSteady = true)
      (gives : supply.items tree = .ok given) :
      (pass tree matchers supply).supply.items tree = .ok given := by
    obtain ⟨begun, unrecorded⟩ := Supply.begin_steady tree supply given gives steady
    simp only [pass, begun]
    rw [goOver_unrecorded _ _ _ _ _ unrecorded]
    exact gives
  cases source with
  | iterator rest =>
      cases gives
      simp only [pass, PathSource.supply, twice, if_true, Supply.begin]
      rw [goOver_recorded, unbroken_free _ _ _ whole, List.take_of_length_le (Nat.le_succ _)]
      rfl
  | _ => exact again _ rfl gives

/-- A path with a NUL bars a pass that has to read what stands there. -/
def Bars (query : Query) (named : Matcher) (item : PathItem) : Prop :=
  ∃ path, item = .ok path ∧ path.hasNul = true ∧
    Matcher.reachesMetadata path (named :: query.matchers) = true

/-- A selection is one pass: what all items contribute or, if a path bars it, what the items in front
of that path contribute. -/
structure IsPass (opener : Opener) (query : Query) (named : Matcher) (given : List PathItem)
    (selection : Selection) : Prop where
  whole : (∀ item ∈ given, ¬ Bars query named item) →
    selection.items = given.filterMap (contribution opener (named :: query.matchers)) ∧
      selection.breakdown = none
  barred : (∃ item ∈ given, Bars query named item) →
    selection.breakdown = some .nulInPath ∧
      ∃ before item after, given = before ++ item :: after ∧ Bars query named item ∧
        (∀ earlier ∈ before, ¬ Bars query named earlier) ∧
        selection.items = before.filterMap (contribution opener (named :: query.matchers))

theorem load_nul (tree : FileTree) (path : Path) (nul : path.hasNul = true) :
    tree.opener.load path = .error (.breakdown .nulInPath) := by
  simp only [Opener.load, FileTree.opener, nul, if_true, Document.read]

/-- Only a NUL in the path or a scalar that cannot be converted ends more than one document. -/
theorem load_breakdown (tree : FileTree) (path : Path) (breakdown : Breakdown)
    (failed : tree.opener.load path = .error (.breakdown breakdown)) :
    path.hasNul = true ∨ ∃ fault, breakdown = .unconvertible fault := by
  cases nul : path.hasNul with
  | true => exact Or.inl rfl
  | false =>
      right
      simp only [Opener.load, FileTree.opener, nul, Bool.false_eq_true, if_false] at failed
      cases content : tree.content path with
      | error fault =>
          simp only [content, Document.read] at failed
          cases failed
      | ok bytes =>
          simp only [content, Document.read] at failed
          cases outcome : (FrontMatter.extract (.ofBytes bytes) FrontMatter.chunkSize).outcome with
          | ok metadata =>
              rw [outcome] at failed
              cases failed
          | error problem =>
              rw [outcome] at failed
              cases problem <;> cases failed
              exact ⟨_, rfl⟩

theorem breakdownAt_convertible (tree : FileTree) (query : Query) (named : Matcher)
    (item : PathItem)
    (convertible : ∀ path fault, item = .ok path →
      tree.opener.load path ≠ .error (.breakdown (.unconvertible fault))) :
    (Bars query named item →
        breakdownAt? tree.opener (named :: query.matchers) item = some .nulInPath) ∧
      (¬ Bars query named item →
        breakdownAt? tree.opener (named :: query.matchers) item = none) := by
  constructor
  · rintro ⟨path, rfl, nul, reached⟩
    exact (breakdownAt_iff _ _ _ _).mpr ⟨path, rfl, reached, load_nul tree path nul⟩
  · intro free
    cases broken : breakdownAt? tree.opener (named :: query.matchers) item with
    | none => rfl
    | some breakdown =>
        obtain ⟨path, same, reached, failed⟩ := (breakdownAt_iff _ _ _ _).mp broken
        rcases load_breakdown tree path breakdown failed with nul | ⟨fault, rfl⟩
        · exact absurd ⟨path, same, nul, reached⟩ free
        · exact absurd failed (convertible path fault same)

theorem first_barrier (tree : FileTree) (query : Query) (named : Matcher) (given : List PathItem)
    (convertible : ∀ path fault, .ok path ∈ given →
      tree.opener.load path ≠ .error (.breakdown (.unconvertible fault)))
    (barred : ∃ item ∈ given, Bars query named item) :
    ∃ before item after, given = before ++ item :: after ∧ Bars query named item ∧
      (∀ earlier ∈ before, ¬ Bars query named earlier) ∧
      given.findSome? (breakdownAt? tree.opener (named :: query.matchers)) = some .nulInPath ∧
      unbroken tree.opener (named :: query.matchers) given = before := by
  let matchers := named :: query.matchers
  have only_nul (item : PathItem) (member : item ∈ given) :=
    breakdownAt_convertible tree query named item
      (fun path fault same => convertible path fault (same ▸ member))
  obtain ⟨barrier, member, bars⟩ := barred
  have broken_somewhere : given.findSome? (breakdownAt? tree.opener matchers) ≠ none := by
    intro quiet
    have broken := (only_nul barrier member).1 bars
    rw [List.findSome?_eq_none_iff.mp quiet barrier member] at broken
    cases broken
  obtain ⟨breakdown, first⟩ := Option.ne_none_iff_exists'.mp broken_somewhere
  obtain ⟨before, item, after, parts, broken, quiet⟩ := List.findSome?_eq_some_iff.mp first
  have inside : item ∈ given := by
    rw [parts]
    simp
  have item_bars : Bars query named item := by
    by_cases bars : Bars query named item
    · exact bars
    · rw [(only_nul item inside).2 bars] at broken
      cases broken
  rw [(only_nul item inside).1 item_bars, Option.some.injEq] at broken
  subst breakdown
  refine ⟨before, item, after, parts, item_bars, ?_, first, ?_⟩
  · intro earlier earlier_in earlier_bars
    have earlier_broken := (only_nul earlier (by rw [parts]; simp [earlier_in])).1 earlier_bars
    rw [quiet earlier earlier_in] at earlier_broken
    cases earlier_broken
  · have stop : unbroken tree.opener matchers (item :: after) = [] := by
      rw [unbroken_cons, (only_nul item inside).1 item_bars]
    rw [parts, unbroken_append tree.opener matchers before (item :: after) quiet, stop,
      List.append_nil]

theorem pass_isPass (tree : FileTree) (query : Query) (named : Matcher) (supply : Supply)
    (given : List PathItem) (gives : supply.items tree = .ok given)
    (convertible : ∀ path fault, .ok path ∈ given →
      tree.opener.load path ≠ .error (.breakdown (.unconvertible fault))) :
    IsPass tree.opener query named given
      (pass tree (named :: query.matchers) supply).selection := by
  obtain ⟨yielded, ended⟩ := pass_spec tree (named :: query.matchers) supply given gives
  constructor
  · intro free
    have quiet : ∀ item ∈ given,
        breakdownAt? tree.opener (named :: query.matchers) item = none := by
      intro item member
      apply (breakdownAt_convertible tree query named item _).2 (free item member)
      exact fun path fault same => convertible path fault (same ▸ member)
    rw [unbroken_free _ _ _ quiet] at yielded
    exact ⟨yielded, ended.trans (List.findSome?_eq_none_iff.mpr quiet)⟩
  · intro barred
    obtain ⟨before, item, after, parts, bars, earlier, first, front⟩ :=
      first_barrier tree query named given convertible barred
    rw [front] at yielded
    exact ⟨ended.trans first, before, item, after, parts, bars, earlier, yielded⟩

theorem isPass_congr (opener : Opener) (query : Query) (named : Matcher) (given : List PathItem)
    (first second : Selection) (items : second.items = first.items)
    (breakdown : second.breakdown = first.breakdown) (pass : IsPass opener query named given first) :
    IsPass opener query named given second := by
  obtain ⟨whole, barred⟩ := pass
  constructor
  · rw [items, breakdown]
    exact whole
  · rw [items, breakdown]
    exact barred

theorem contribution_nameIs (opener : Opener) (query : Query) (name : String) (item : PathItem)
    (document : Document)
    (added : contribution opener (.nameIs name :: query.matchers) item = some (.ok document)) :
    document.name? = some name := by
  cases item with
  | error error => cases added
  | ok path =>
      have named (metadata : Option Value)
          (accepted : (Matcher.nameIs name :: query.matchers).all (·.holds path metadata) = true) :
          Document.name? { path } = some name := by
        rw [List.all_cons, Bool.and_eq_true] at accepted
        exact eq_of_beq accepted.1
      simp only [contribution] at added
      split at added
      · split at added
        · rename_i metadata _
          split at added
          · rename_i accepted
            cases added
            exact named metadata accepted
          · cases added
        · cases added
        · cases added
      · split at added
        · rename_i accepted
          cases added
          exact named none accepted
        · cases added

theorem andThen_fallback (first second : Selection) :
    (first.items ≠ [] ∨ first.breakdown ≠ none →
      (if first.items.isEmpty then first.andThen second else first) = first) ∧
    (first.items = [] → first.breakdown = none →
      (if first.items.isEmpty then first.andThen second else first).items = second.items ∧
        (if first.items.isEmpty then first.andThen second else first).breakdown =
          second.breakdown) := by
  constructor
  · intro settled
    cases yielded : first.items with
    | nil =>
        rcases settled with nonempty | broken
        · exact absurd yielded nonempty
        · obtain ⟨breakdown, ended⟩ := Option.ne_none_iff_exists'.mp broken
          simp only [List.isEmpty_nil, if_true, andThen, ended]
    | cons item rest => simp only [List.isEmpty_cons, Bool.false_eq_true, if_false]
  · intro nothing unbroken
    obtain ⟨items, breakdown⟩ := andThen_spec first second
    rw [nothing, unbroken] at items
    rw [unbroken] at breakdown
    rw [nothing, List.isEmpty_nil, if_pos rfl]
    exact ⟨items, breakdown⟩

/-- A pass for a whole name yields no document of another name. -/
theorem isPass_nameIs (opener : Opener) (query : Query) (name : String) (given : List PathItem)
    (selection : Selection) (pass : IsPass opener query (.nameIs name) given selection)
    (document : Document) (yielded : .ok document ∈ selection.items) :
    document.name? = some name := by
  have contributed : ∃ some_given : List PathItem, .ok document ∈
      some_given.filterMap (contribution opener (.nameIs name :: query.matchers)) := by
    by_cases free : ∀ item ∈ given, ¬ Bars query (.nameIs name) item
    · exact ⟨given, (pass.whole free).1 ▸ yielded⟩
    · obtain ⟨_, before, _, _, _, _, _, items⟩ := pass.barred (by simpa using free)
      exact ⟨before, items ▸ yielded⟩
  obtain ⟨some_given, member⟩ := contributed
  obtain ⟨item, _, added⟩ := List.mem_filterMap.mp member
  exact contribution_nameIs opener query name item document added

theorem andThen_nothing (first : Selection) : first.andThen ⟨[], none⟩ = first := by
  rcases first with ⟨events, _ | breakdown⟩ <;> simp [andThen]

theorem ofPhases_last (tree : FileTree) (matchers : List Matcher) (supply : Supply) :
    ofPhases tree [matchers] supply = (pass tree matchers supply).selection := by
  simp only [ofPhases, andThen_nothing, ite_self]

theorem ofQuery_plain (tree : FileTree) (source : PathSource) (query : Query)
    (plain : query.smartName = none) : ofQuery tree source query =
      (pass tree (.always :: query.matchers) (source.supply query)).selection := by
  simp only [ofQuery, Query.phases, plain, ofPhases_last]

theorem ofQuery_smart (tree : FileTree) (source : PathSource) (query : Query) (name : String)
    (smart : query.smartName = some name) :
    let exact := pass tree (.nameIs name :: query.matchers) (source.supply query)
    ofQuery tree source query =
      if exact.selection.items.isEmpty then exact.selection.andThen
        (pass tree (.nameStartsWith name :: query.matchers) exact.supply).selection
      else exact.selection := by
  simp only [ofQuery, Query.phases, smart]
  rw [ofPhases, ofPhases_last]

theorem ofQuery_of_failure (tree : FileTree) (source : PathSource) (query : Query)
    (breakdown : Breakdown) (fails : source.items tree = .error breakdown) :
    ofQuery tree source query = ⟨[], some breakdown⟩ := by
  have broken (matchers : List Matcher) :
      (pass tree matchers (source.supply query)).selection = ⟨[], some breakdown⟩ := by
    have never := Supply.begin_fails tree (source.supply query) breakdown
      ((supply_items tree source query).trans fails)
    simp only [pass, never]
  cases smart : query.smartName with
  | none => rw [ofQuery_plain tree source query smart, broken]
  | some name =>
      rw [ofQuery_smart tree source query name smart, broken]
      rfl

theorem ofQuery_fails (tree : FileTree) (source : PathSource) (query : Query)
    (breakdown : Breakdown) (fails : source.items tree = .error breakdown) :
    (ofQuery tree source query).items = [] ∧
      (ofQuery tree source query).breakdown = some breakdown := by
  rw [ofQuery_of_failure tree source query breakdown fails]
  exact ⟨rfl, rfl⟩

theorem ofQuery_named (tree : FileTree) (source : PathSource) (query : Query) (name : String)
    (smart : query.smartName = some name) (given : List PathItem)
    (whole : IsPass tree.opener query (.nameIs name) given
      (pass tree (.nameIs name :: query.matchers) (source.supply query)).selection) :
    let exact := given.filterMap (contribution tree.opener (.nameIs name :: query.matchers))
    let first := (pass tree (.nameIs name :: query.matchers) (source.supply query)).selection
    let second := (pass tree (.nameStartsWith name :: query.matchers)
      (pass tree (.nameIs name :: query.matchers) (source.supply query)).supply).selection
    (exact ≠ [] ∨ (∃ item ∈ given, Bars query (.nameIs name) item) →
      ofQuery tree source query = first) ∧
    (exact = [] → (∀ item ∈ given, ¬ Bars query (.nameIs name) item) →
      (ofQuery tree source query).items = second.items ∧
        (ofQuery tree source query).breakdown = second.breakdown) := by
  intro exact first second
  have course : ofQuery tree source query =
      if first.items.isEmpty then first.andThen second else first :=
    ofQuery_smart tree source query name smart
  obtain ⟨stays, falls_back⟩ := andThen_fallback first second
  rw [← course] at stays falls_back
  constructor
  · intro found
    apply stays
    by_cases free : ∀ item ∈ given, ¬ Bars query (.nameIs name) item
    · rw [(whole.whole free).1]
      rcases found with nonempty | ⟨item, member, bars⟩
      · exact Or.inl nonempty
      · exact absurd bars (free item member)
    · right
      rw [(whole.barred (by simpa using free)).1]
      exact Option.some_ne_none _
  · intro nothing free
    obtain ⟨items, breakdown⟩ := whole.whole free
    exact falls_back (items.trans nothing) breakdown

/-- A selection is the pass for whole names if that yields anything, and the pass for beginnings of
names if not; a selection without a smart name is one pass. It breaks off only where a path with a
NUL has to be read or the source itself fails. -/
theorem selection_in_two_phases (tree : FileTree) (source : PathSource) (query : Query) :
    let selection := ofQuery tree source query
    (∀ breakdown, source.items tree = .error breakdown →
      selection.items = [] ∧ selection.breakdown = some breakdown) ∧
    ∀ given, source.items tree = .ok given →
      (∀ path fault, .ok path ∈ given →
        tree.opener.load path ≠ .error (.breakdown (.unconvertible fault))) →
      (query.smartName = none → IsPass tree.opener query .always given selection) ∧
      ∀ name, query.smartName = some name →
        let exact := given.filterMap (contribution tree.opener (.nameIs name :: query.matchers))
        (exact ≠ [] ∨ (∃ item ∈ given, Bars query (.nameIs name) item) →
          IsPass tree.opener query (.nameIs name) given selection) ∧
        (exact = [] → (∀ item ∈ given, ¬ Bars query (.nameIs name) item) →
          IsPass tree.opener query (.nameStartsWith name) given selection) ∧
        ∀ document, .ok document ∈ selection.items → document.name? ≠ some name → exact = [] := by
  intro selection
  refine ⟨ofQuery_fails tree source query, fun given gives convertible => ?_⟩
  have first_gives := (supply_items tree source query).trans gives
  have pass_for (named : Matcher) (supply : Supply) (gives : supply.items tree = .ok given) :=
    pass_isPass tree query named supply given gives convertible
  refine ⟨?_, ?_⟩
  · intro plain
    have only : selection =
        (pass tree (.always :: query.matchers) (source.supply query)).selection :=
      ofQuery_plain tree source query plain
    rw [only]
    exact pass_for .always _ first_gives
  · intro name smart exact
    have whole := pass_for (.nameIs name) _ first_gives
    obtain ⟨stays, falls_back⟩ := ofQuery_named tree source query name smart given whole
    refine ⟨?_, ?_, ?_⟩
    · intro found
      simp only [selection, stays found]
      exact whole
    · intro nothing free
      obtain ⟨items, breakdown⟩ := falls_back nothing free
      have second_gives := pass_again tree source query (.nameIs name :: query.matchers) given gives
        (by rw [smart]; rfl) (whole.whole free).2
      exact isPass_congr tree.opener query (.nameStartsWith name) given _ selection items breakdown
        (pass_for _ _ second_gives)
    · intro document yielded other_name
      by_cases nothing : exact = []
      · exact nothing
      · simp only [selection, stays (Or.inl nothing)] at yielded
        exact absurd (isPass_nameIs tree.opener query name given _ whole document yielded) other_name

theorem fallback_for_beginnings :
    let given : List PathItem := [.ok ⟨.relative, ["note.md"]⟩, .ok ⟨.relative, ["other.md"]⟩]
    let query : Query := ⟨some "no", [.field "k" (.equals "v")]⟩
    given.filterMap (contribution ({} : FileTree).opener (.nameIs "no" :: query.matchers)) = [] ∧
      IsPass ({} : FileTree).opener query (.nameStartsWith "no") given
        (ofQuery {} (.list given) query) := by
  intro given query
  have each (holds : Path → Prop) (note : holds ⟨.relative, ["note.md"]⟩)
      (other : holds ⟨.relative, ["other.md"]⟩) : ∀ path, .ok path ∈ given → holds path := by
    intro path member
    simp only [given, List.mem_cons, List.not_mem_nil, or_false, Except.ok.injEq] at member
    rcases member with rfl | rfl
    · exact note
    · exact other
  have plain := each (·.hasNul = false) (by decide) (by decide)
  have absent := each (({} : FileTree).content · = .error .missing) (by rfl) (by rfl)
  have refused := each ((Matcher.nameIs "no").holds · none = false) (by rfl) (by rfl)
  have convertible : ∀ path fault, .ok path ∈ given →
      ({} : FileTree).opener.load path ≠ .error (.breakdown (.unconvertible fault)) := by
    intro path fault member failed
    simp only [Opener.load, FileTree.opener, plain path member, absent path member,
      Bool.false_eq_true, if_false, Document.read] at failed
    cases failed
  have nothing : given.filterMap
      (contribution ({} : FileTree).opener (.nameIs "no" :: query.matchers)) = [] := by
    rw [List.filterMap_eq_nil_iff]
    intro item member
    cases item with
    | error error => simp [given] at member
    | ok path =>
        simp [contribution, Matcher.reaches_cons, Matcher.needsMetadata, refused path member]
  have free : ∀ item ∈ given, ¬ Bars query (.nameIs "no") item := by
    rintro item member ⟨path, rfl, nul, _⟩
    rw [plain path member] at nul
    cases nul
  obtain ⟨_, phases⟩ := selection_in_two_phases {} (.list given) query
  obtain ⟨_, named⟩ := phases given rfl convertible
  exact ⟨nothing, (named "no" rfl).2.1 nothing free⟩

theorem nul_ends_selection :
    let path : Path := ⟨.relative, ["a\x00b"]⟩
    let query : Query := ⟨none, [.field "k" (.equals "v")]⟩
    let selection := ofQuery {} (.list [.ok path]) query
    Matcher.reachesMetadata path (.always :: query.matchers) = true ∧
      ({} : FileTree).opener.load path = .error (.breakdown .nulInPath) ∧
      selection.items = [] ∧ selection.breakdown = some .nulInPath := by
  refine ⟨?_, ?_, ?_, ?_⟩
  · rfl
  · rfl
  · rfl
  · rfl

end Selection

end DocFinder
