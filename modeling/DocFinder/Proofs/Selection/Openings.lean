import DocFinder.Proofs.Document.Openings
import DocFinder.Proofs.DocumentRoot.Distinct
import DocFinder.Proofs.FileTree.Contents
import DocFinder.Proofs.Selection.Order

namespace DocFinder

theorem FileTree.documents_append (first second : List PathItem) :
    documents (first ++ second) = documents first ++ documents second :=
  List.filterMap_append

namespace Selection

def Event.opening? : Event → Option Path
  | examined event => event.opening?
  | _ => none

def openings (selection : Selection) : List Path := selection.events.filterMap Event.opening?

theorem openings_append (first second : List Event) (breakdown : Option Breakdown) :
    openings ⟨first ++ second, breakdown⟩ =
      first.filterMap Event.opening? ++ second.filterMap Event.opening? :=
  List.filterMap_append

section

variable (opener : Opener) (matchers : List Matcher)

theorem examine_openings (item : PathItem) :
    (examine opener matchers item).openings =
      (FileTree.documents [item]).filter (Matcher.reachesMetadata · matchers) := by
  cases item with
  | error error => rfl
  | ok path =>
      have seen : ((Matcher.allAccept opener { path } matchers).events.map
          Event.examined).filterMap Event.opening? =
            [path].filter (Matcher.reachesMetadata · matchers) := by
        rw [List.filterMap_map]
        apply (Matcher.openings_unread opener path matchers).trans
        cases reached : Matcher.reachesMetadata path matchers <;> simp [reached]
      have and_yielded (result : SelectionItem) (breakdown : Option Breakdown) :
          openings ⟨(Matcher.allAccept opener { path } matchers).events.map Event.examined ++
            [.yielded result], breakdown⟩ = [path].filter (Matcher.reachesMetadata · matchers) := by
        rw [openings_append, seen]
        exact List.append_nil _
      simp only [examine]
      split
      · exact and_yielded _ _
      · exact seen
      · exact and_yielded _ _
      · exact seen

/-- Up to the item that ends it, a pass opens the documents that it has to read, and no other. -/
theorem ofItems_openings (drawing : List Event) (given : List PathItem)
    (silent : drawing.filterMap Event.opening? = []) :
    (ofItems opener matchers drawing given).openings =
      (FileTree.documents (given.take ((unbroken opener matchers given).length + 1))).filter
        (Matcher.reachesMetadata · matchers) := by
  induction given with
  | nil => rfl
  | cons item rest ih =>
      have here : (drawing ++ (examine opener matchers item).events).filterMap Event.opening? =
          (FileTree.documents [item]).filter (Matcher.reachesMetadata · matchers) := by
        rw [List.filterMap_append, silent, List.nil_append]
        exact examine_openings opener matchers item
      have ended := (examine_spec opener matchers item).2
      rw [ofItems, unbroken_cons]
      cases broken : breakdownAt? opener matchers item with
      | some breakdown =>
          rw [broken] at ended
          simp only [andThen, ended]
          exact here
      | none =>
          rw [broken] at ended
          simp only [andThen, ended]
          let rest_read := rest.take ((unbroken opener matchers rest).length + 1)
          calc
            openings ⟨drawing ++ (examine opener matchers item).events ++
                (ofItems opener matchers drawing rest).events,
                (ofItems opener matchers drawing rest).breakdown⟩ =
                (FileTree.documents [item]).filter (Matcher.reachesMetadata · matchers) ++
                  (ofItems opener matchers drawing rest).openings := by
              rw [openings_append, here]
              rfl
            _ = (FileTree.documents ([item] ++ rest_read)).filter
                (Matcher.reachesMetadata · matchers) := by
              rw [ih, FileTree.documents_append, List.filter_append]

end

theorem pass_openings (tree : FileTree) (matchers : List Matcher) (supply : Supply)
    (given : List PathItem) (gives : supply.items tree = .ok given) :
    (pass tree matchers supply).selection.openings =
      (FileTree.documents
        (given.take ((unbroken tree.opener matchers given).length + 1))).filter
          (Matcher.reachesMetadata · matchers) := by
  obtain ⟨front, drawing⟩ := source_silent Event.opening? supply rfl rfl
  rw [pass_course tree matchers supply given gives, andThen, openings_append, front]
  exact ofItems_openings tree.opener matchers supply.feed.events given drawing

/-- A document has to be read in a pass: the query asks for front matter, the name is accepted, and so
is the document by each matcher in front of the first one that asks. -/
structure ToRead (query : Query) (named : Matcher) (path : Path) : Prop where
  asked : ∃ matcher ∈ query.matchers, matcher.needsMetadata = true
  named : named.holds path none = true
  front : ∀ matcher ∈ query.matchers.takeWhile (!·.needsMetadata), matcher.holds path none = true

theorem toRead_conditions (query : Query) (named : Matcher) (path : Path) :
    ToRead query named path ↔
      (∃ matcher ∈ query.matchers, matcher.needsMetadata = true) ∧ named.holds path none = true ∧
        ∀ matcher ∈ query.matchers.takeWhile (!·.needsMetadata), matcher.holds path none = true := by
  constructor
  · intro toRead
    exact ⟨toRead.asked, toRead.named, toRead.front⟩
  · intro conditions
    exact ⟨conditions.1, conditions.2.1, conditions.2.2⟩

instance (query : Query) (named : Matcher) (path : Path) : Decidable (ToRead query named path) :=
  decidable_of_iff _ (toRead_conditions query named path).symm

theorem toRead_iff (query : Query) (named : Matcher) (path : Path)
    (unneeded : named.needsMetadata = false) :
    ToRead query named path ↔
      Matcher.reachesMetadata path (named :: query.matchers) = true := by
  rw [Matcher.reaches_cons, unneeded, Bool.false_or, Matcher.reachesMetadata, Bool.and_eq_true,
    Bool.and_eq_true, List.any_eq_true, List.all_eq_true, toRead_conditions, and_left_comm]

theorem ToRead.of_nameIs {query : Query} {name : String} {path : Path}
    (toRead : ToRead query (.nameIs name) path) : ToRead query (.nameStartsWith name) path := by
  refine ⟨toRead.asked, ?_, toRead.front⟩
  have named : Document.name? { path } = some name := eq_of_beq toRead.named
  rw [Matcher.holds, named]
  exact List.isPrefixOf_iff_prefix.mpr (List.prefix_refl _)

/-- A pass opens each document that has to be read once, in their order, and no other one. If a path
bars the pass, this is so up to that path. -/
structure OpensNeeded (query : Query) (named : Matcher) (given : List PathItem)
    (selection : Selection) : Prop where
  whole : (∀ item ∈ given, ¬ Bars query named item) →
    selection.openings = (FileTree.documents given).filter (ToRead query named ·)
  barred : ∀ before item after, given = before ++ item :: after → Bars query named item →
    (∀ earlier ∈ before, ¬ Bars query named earlier) →
    selection.openings = (FileTree.documents (before ++ [item])).filter (ToRead query named ·)

theorem pass_opensNeeded (tree : FileTree) (query : Query) (named : Matcher)
    (unneeded : named.needsMetadata = false) (supply : Supply) (given : List PathItem)
    (gives : supply.items tree = .ok given)
    (convertible : ∀ path fault, .ok path ∈ given →
      tree.opener.load path ≠ .error (.breakdown (.unconvertible fault))) :
    OpensNeeded query named given (pass tree (named :: query.matchers) supply).selection := by
  have only_nul (item : PathItem) (member : item ∈ given) :=
    breakdownAt_convertible tree query named item
      (fun path fault same => convertible path fault (same ▸ member))
  have opened := pass_openings tree (named :: query.matchers) supply given gives
  have same : (Matcher.reachesMetadata · (named :: query.matchers)) =
      fun path => decide (ToRead query named path) := by
    funext path
    rw [Bool.eq_iff_iff, decide_eq_true_iff, toRead_iff query named path unneeded]
  rw [same] at opened
  constructor
  · intro free
    rw [unbroken_free _ _ _ fun item member => (only_nul item member).2 (free item member),
      List.take_of_length_le (Nat.le_succ _)] at opened
    exact opened
  · intro before item after parts bars free
    have stop : unbroken tree.opener (named :: query.matchers) (item :: after) = [] := by
      rw [unbroken_cons, (only_nul item (by simp [parts])).1 bars]
    have front : unbroken tree.opener (named :: query.matchers) given = before := by
      rw [parts, unbroken_append _ _ _ _ fun earlier member =>
        (only_nul earlier (by simp [parts, member])).2 (free earlier member), stop, List.append_nil]
    rw [front, parts, List.take_append, List.take_of_length_le (Nat.le_succ _),
      Nat.add_sub_cancel_left] at opened
    exact opened

theorem examine_congr (opener other : Opener) (matchers : List Matcher) (item : PathItem)
    (alike : ∀ path, item = .ok path → Matcher.reachesMetadata path matchers = true →
      opener path = other path) :
    examine opener matchers item = examine other matchers item := by
  cases item with
  | error error => rfl
  | ok path =>
      simp only [examine, Matcher.allAccept_congr opener other path matchers (alike path rfl)]

theorem goOver_congr (opener other : Opener) (matchers : List Matcher) (feed : Feed)
    (supply : Supply) (given : List PathItem)
    (alike : ∀ path, .ok path ∈ given → Matcher.reachesMetadata path matchers = true →
      opener path = other path) :
    goOver opener matchers feed supply given = goOver other matchers feed supply given := by
  induction given generalizing supply with
  | nil => rfl
  | cons item rest ih =>
      have first := examine_congr opener other matchers item fun path same =>
        alike path (same ▸ List.mem_cons_self)
      have later := ih (supply.drew item feed) fun path member =>
        alike path (List.mem_cons_of_mem _ member)
      rw [goOver, goOver, first, later]

theorem Supply.begin_rewrite (change : Place → List UInt8 → List UInt8) (tree : FileTree)
    (supply : Supply) : supply.begin (tree.rewrite change) = supply.begin tree := by
  cases supply with
  | tree root => simp only [Supply.begin, FileTree.rewrite_items]
  | recorder source seen => cases source <;> rfl
  | _ => rfl

theorem pass_rewrite (tree : FileTree) (change : Place → List UInt8 → List UInt8) (query : Query)
    (named : Matcher) (unneeded : named.needsMetadata = false) (supply : Supply)
    (given : List PathItem) (gives : supply.items tree = .ok given)
    (kept : ∀ path, .ok path ∈ given → ToRead query named path →
      (tree.rewrite change).content path = tree.content path) :
    pass (tree.rewrite change) (named :: query.matchers) supply =
      pass tree (named :: query.matchers) supply := by
  obtain ⟨after, begun⟩ := Supply.begin_gives tree supply given gives
  have same := goOver_congr (tree.rewrite change).opener tree.opener (named :: query.matchers)
    supply.feed after given fun path member reached => FileTree.opener_congr _ _ _
      (kept path member ((toRead_iff query named path unneeded).mpr reached))
  simp only [pass, Supply.begin_rewrite, begun, same]

/-- A selection stays the same, whatever is written to files that do not have to be read for it. -/
def GoesByRead (tree : FileTree) (source : PathSource) (query : Query) (named : Matcher)
    (given : List PathItem) : Prop :=
  ∀ change, (∀ path, .ok path ∈ given → ToRead query named path →
    (tree.rewrite change).content path = tree.content path) →
    ofQuery (tree.rewrite change) source query = ofQuery tree source query

section

variable (tree : FileTree) (source : PathSource) (query : Query) (given : List PathItem)
  (gives : source.items tree = .ok given)

include gives

theorem unnamed_goesByRead (plain : query.smartName = none) :
    GoesByRead tree source query .always given := by
  intro change kept
  have same := pass_rewrite tree change query .always rfl (source.supply query) given
    ((supply_items tree source query).trans gives) kept
  rw [ofQuery_plain _ source query plain, ofQuery_plain tree source query plain, same]

theorem named_goesByRead (name : String) (smart : query.smartName = some name) :
    GoesByRead tree source query (.nameStartsWith name) given := by
  intro change kept
  have first := pass_rewrite tree change query (.nameIs name) rfl (source.supply query) given
    ((supply_items tree source query).trans gives)
    fun path member toRead => kept path member toRead.of_nameIs
  rw [ofQuery_smart _ source query name smart, ofQuery_smart tree source query name smart, first]
  cases whole :
      (pass tree (.nameIs name :: query.matchers) (source.supply query)).selection.breakdown with
  | some breakdown => simp only [andThen, whole]
  | none =>
      have again := pass_again tree source query _ given gives (by rw [smart]; rfl) whole
      rw [pass_rewrite tree change query (.nameStartsWith name) rfl _ given again kept]

theorem named_openings (name : String) (smart : query.smartName = some name) :
    let exact := pass tree (.nameIs name :: query.matchers) (source.supply query)
    let beginnings := pass tree (.nameStartsWith name :: query.matchers) exact.supply
    (FallsBack tree.opener query given name →
      (ofQuery tree source query).openings =
        exact.selection.openings ++ beginnings.selection.openings) ∧
    (¬ FallsBack tree.opener query given name →
      (ofQuery tree source query).openings = exact.selection.openings) := by
  intro exact beginnings
  constructor
  · intro back
    obtain ⟨course, _, whole, _⟩ := ofQuery_second tree query given source gives name back
    have first : pass tree (firstMatchers query) (source.supply query) = exact := by
      simp only [exact, firstMatchers, smart]
    rw [first] at course whole
    rw [course, andThen, whole]
    exact openings_append _ _ _
  · intro stays
    rw [ofQuery_stays tree query given source gives name smart stays]

theorem opened_begins (name : String) (smart : query.smartName = some name) (path : Path)
    (opened : path ∈ (ofQuery tree source query).openings) :
    (Matcher.nameStartsWith name).holds path none = true := by
  have of_pass (named : Matcher) (unneeded : named.needsMetadata = false) (supply : Supply)
      (gives : supply.items tree = .ok given)
      (member : path ∈ (pass tree (named :: query.matchers) supply).selection.openings) :
      ToRead query named path := by
    rw [pass_openings tree _ supply given gives] at member
    exact (toRead_iff query named path unneeded).mpr (List.mem_filter.mp member).2
  have first := (supply_items tree source query).trans gives
  obtain ⟨both, one⟩ := named_openings tree source query given gives name smart
  by_cases back : FallsBack tree.opener query given name
  · obtain ⟨_, _, whole, _⟩ := ofQuery_second tree query given source gives name back
    simp only [firstMatchers, smart] at whole
    have again := pass_again tree source query _ given gives (by rw [smart]; rfl) whole
    rw [both back, List.mem_append] at opened
    rcases opened with exact | beginning
    · exact (of_pass (.nameIs name) rfl _ first exact).of_nameIs.named
    · exact (of_pass (.nameStartsWith name) rfl _ again beginning).named
  · rw [one back] at opened
    exact (of_pass (.nameIs name) rfl _ first opened).of_nameIs.named

end

theorem contribution_isLoaded (opener : Opener) (matchers : List Matcher) (item : PathItem)
    (document : Document) (added : contribution opener matchers item = some (.ok document)) :
    document.isLoaded = matchers.any (·.needsMetadata) := by
  cases item with
  | error error => cases added
  | ok path =>
      simp only [contribution] at added
      cases reached : Matcher.reachesMetadata path matchers with
      | true =>
          have asked : matchers.any (·.needsMetadata) = true := by
            rw [Matcher.reachesMetadata, Bool.and_eq_true] at reached
            exact reached.1
          rw [reached, if_pos rfl] at added
          cases outcome : opener.load path with
          | ok metadata =>
              simp only [outcome] at added
              split at added
              · cases added
                rw [asked]
                simp only [Opener.loaded, outcome, Document.slotOf, Document.isLoaded]
              · cases added
          | error failure =>
              cases failure <;> simp [outcome] at added
      | false =>
          rw [reached, if_neg Bool.false_ne_true] at added
          split at added
          · rename_i accepted
            cases added
            rw [← Matcher.reaches_of_accepted path matchers accepted, reached]
            rfl
          · cases added

theorem yielded_isLoaded (tree : FileTree) (source : PathSource) (query : Query)
    (given : List PathItem) (gives : source.items tree = .ok given) (document : Document)
    (yielded : .ok document ∈ (ofQuery tree source query).items) :
    document.isLoaded = query.matchers.any (·.needsMetadata) := by
  have of_pass (named : Matcher) (unneeded : named.needsMetadata = false) (supply : Supply)
      (gives : supply.items tree = .ok given)
      (member : .ok document ∈ (pass tree (named :: query.matchers) supply).selection.items) :
      document.isLoaded = query.matchers.any (·.needsMetadata) := by
    rw [(pass_spec tree _ supply given gives).1] at member
    obtain ⟨item, _, added⟩ := List.mem_filterMap.mp member
    rw [contribution_isLoaded tree.opener _ item document added, List.any_cons, unneeded,
      Bool.false_or]
  have first := (supply_items tree source query).trans gives
  cases smart : query.smartName with
  | none =>
      rw [ofQuery_plain tree source query smart] at yielded
      exact of_pass .always rfl _ first yielded
  | some name =>
      by_cases back : FallsBack tree.opener query given name
      · obtain ⟨again, items, _⟩ := ofQuery_falls_back tree query given source gives name back
        rw [items] at yielded
        exact of_pass (.nameStartsWith name) rfl _ again yielded
      · rw [ofQuery_stays tree query given source gives name smart back] at yielded
        exact of_pass (.nameIs name) rfl _ first yielded

/-- Each pass opens the documents that it has to read, once, and no other: with a smart name, none
whose name does not begin with it. Nothing else that stands in files makes a difference, and a document
is yielded loaded if and only if the query asks for front matter. A path with a NUL that has to be read
ends the pass, and documents behind it are not opened. -/
theorem files_opened_as_needed (tree : FileTree) (source : PathSource) (query : Query) :
    let selection := ofQuery tree source query
    (∀ breakdown, source.items tree = .error breakdown → selection.openings = []) ∧
    ∀ given, source.items tree = .ok given →
      (∀ path fault, .ok path ∈ given →
        tree.opener.load path ≠ .error (.breakdown (.unconvertible fault))) →
      (query.smartName = none →
        OpensNeeded query .always given selection ∧ GoesByRead tree source query .always given) ∧
      (∀ name, query.smartName = some name →
        let exact := pass tree (.nameIs name :: query.matchers) (source.supply query)
        let beginnings := pass tree (.nameStartsWith name :: query.matchers) exact.supply
        OpensNeeded query (.nameIs name) given exact.selection ∧
        (exact.selection.breakdown = none →
          OpensNeeded query (.nameStartsWith name) given beginnings.selection) ∧
        (FallsBack tree.opener query given name →
          selection.openings = exact.selection.openings ++ beginnings.selection.openings) ∧
        (¬ FallsBack tree.opener query given name →
          selection.openings = exact.selection.openings) ∧
        (∀ path ∈ selection.openings, (Matcher.nameStartsWith name).holds path none = true) ∧
        GoesByRead tree source query (.nameStartsWith name) given) ∧
      ∀ document, .ok document ∈ selection.items →
        (document.isLoaded = true ↔ ∃ matcher ∈ query.matchers, matcher.needsMetadata = true) := by
  intro selection
  refine ⟨?_, fun given gives convertible => ⟨?_, ?_, ?_⟩⟩
  · intro breakdown fails
    simp only [selection, ofQuery_of_failure tree source query breakdown fails]
    rfl
  · intro plain
    have only : selection =
        (pass tree (.always :: query.matchers) (source.supply query)).selection :=
      ofQuery_plain tree source query plain
    rw [only]
    exact ⟨pass_opensNeeded tree query .always rfl _ given
      ((supply_items tree source query).trans gives) convertible,
      unnamed_goesByRead tree source query given gives plain⟩
  · intro name smart exact beginnings
    obtain ⟨both, one⟩ := named_openings tree source query given gives name smart
    refine ⟨?_, fun whole => ?_, both, one, opened_begins tree source query given gives name smart,
      named_goesByRead tree source query given gives name smart⟩
    · exact pass_opensNeeded tree query (.nameIs name) rfl _ given
        ((supply_items tree source query).trans gives) convertible
    · have again := pass_again tree source query _ given gives (by rw [smart]; rfl) whole
      exact pass_opensNeeded tree query (.nameStartsWith name) rfl _ given again convertible
  · intro document yielded
    rw [yielded_isLoaded tree source query given gives document yielded, List.any_eq_true]

/-- No note has the whole name, and of the two only the one whose name begins with it is opened.
Whatever is written to the other one, the selection is the same. -/
theorem other_note_left_closed :
    let bytes : List UInt8 := [45, 45, 45, 10, 107, 58, 32, 118, 10, 45, 45, 45, 10]
    let tree : FileTree :=
      { entries := [(["note.md"], .file bytes), (["other.md"], .file bytes)] }
    let given : List PathItem := [.ok ⟨.relative, ["note.md"]⟩, .ok ⟨.relative, ["other.md"]⟩]
    let query : Query := ⟨some "no", [.field "k" (.equals "v")]⟩
    let selection := ofQuery tree (.list given) query
    FallsBack tree.opener query given "no" ∧
      selection.openings = [⟨.relative, ["note.md"]⟩] ∧
      (documents selection.items).map (·.isLoaded) = [true] ∧
      ∀ written, ofQuery (tree.rewrite fun place kept =>
        if place = ["other.md"] then written else kept) (.list given) query = selection := by
  intro bytes tree given query selection
  have each (holds : Path → Prop) (note : holds ⟨.relative, ["note.md"]⟩)
      (other : holds ⟨.relative, ["other.md"]⟩) : ∀ path, .ok path ∈ given → holds path := by
    intro path member
    simp only [given, List.mem_cons, List.not_mem_nil, or_false, Except.ok.injEq] at member
    rcases member with rfl | rfl
    · exact note
    · exact other
  have settled := each (Document.settles <| tree.opener.load ·) (by decide +kernel)
    (by decide +kernel)
  have convertible : ∀ path fault, .ok path ∈ given →
      tree.opener.load path ≠ .error (.breakdown (.unconvertible fault)) := by
    intro path fault member
    exact Document.not_breakdown _ (settled path member) _
  have plain := each (·.hasNul = false) (by decide) (by decide)
  have free (named : Matcher) : ∀ item ∈ given, ¬ Bars query named item := by
    rintro item member ⟨path, rfl, nul, _⟩
    rw [plain path member] at nul
    cases nul
  have back : FallsBack tree.opener query given "no" := by
    have quiet : (firstResults tree.opener query given).isEmpty = true ∧
        ∀ item ∈ given, breakdownAt? tree.opener (firstMatchers query) item = none := by
      decide +kernel
    exact ⟨rfl, List.isEmpty_iff.mp quiet.1, quiet.2⟩
  obtain ⟨_, opened⟩ := files_opened_as_needed tree (.list given) query
  obtain ⟨_, named, _⟩ := opened given rfl convertible
  obtain ⟨exact, beginnings, both, _, _, unread⟩ := named "no" rfl
  refine ⟨back, ?_, ?_, fun written => unread _ (each _ ?_ ?_)⟩
  · rw [both back, exact.whole (free _), (beginnings (by decide +kernel)).whole (free _)]
    decide +kernel
  · decide +kernel
  · intro _
    rfl
  · intro toRead
    exact absurd toRead (by decide +kernel)

theorem nul_leaves_note_closed :
    let note : Path := ⟨.relative, ["n.md"]⟩
    let tree : FileTree := { entries := [(["n.md"],
      .file [45, 45, 45, 10, 107, 58, 32, 118, 10, 45, 45, 45, 10])] }
    let given : List PathItem := [.ok ⟨.relative, ["a\x00b"]⟩, .ok note]
    let query : Query := ⟨none, [.field "k" (.equals "v")]⟩
    (∀ path fault, .ok path ∈ given →
        tree.opener.load path ≠ .error (.breakdown (.unconvertible fault))) ∧
      ToRead query .always note ∧ note ∉ (ofQuery tree (.list given) query).openings := by
  intro note tree given query
  refine ⟨?_, by decide +kernel, by decide +kernel⟩
  intro path fault member failed
  simp only [given, List.mem_cons, List.not_mem_nil, or_false, Except.ok.injEq] at member
  rcases member with rfl | rfl
  · rw [load_nul tree _ (by decide)] at failed
    cases failed
  · exact Document.not_breakdown _ (by decide +kernel) _ failed

end Selection

end DocFinder
