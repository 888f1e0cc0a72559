import DocFinder.Finder.Payload
import DocFinder.Proofs.Document.Memory
import DocFinder.Proofs.DocumentRoot.Distinct
import DocFinder.Proofs.Selection.Laziness

/-! Listings with documents that cannot be read. A failure of a document's own is reported in its
place, and the other entries are what they are without that document. Any other failure ends the
whole listing. -/

namespace DocFinder

inductive Selection.MakesPass (opener : Opener) (query : Query) (given : List PathItem) :
    List Matcher → Prop
  | first : MakesPass opener query given (firstMatchers query)
  | second (name : String) (back : FallsBack opener query given name) :
    MakesPass opener query given (.nameStartsWith name :: query.matchers)

namespace Listing

open Selection

/-- Whether the front matter of a document is needed to list it: for a matcher that is reached, or
for the entry itself. -/
def needs (matchers : List Matcher) (withMetadata : Bool) (path : Path) : Bool :=
  Matcher.reachesMetadata path matchers || (withMetadata && matchers.all (·.holds path none))

/-- A document ends a listing: its front matter is needed and reading it breaks down, or its entry
holds front matter that JSON cannot carry. -/
inductive Crashes (opener : Opener) (matchers : List Matcher) (withMetadata : Bool) (path : Path) :
    Breakdown → Prop
  | reading (breakdown : Breakdown) (needed : needs matchers withMetadata path = true)
    (failed : opener.load path = .error (.breakdown breakdown)) :
    Crashes opener matchers withMetadata path breakdown
  | writing (metadata : Option Value) (asked : withMetadata = true)
    (loaded : opener.load path = .ok metadata)
    (accepted : matchers.all (·.holds path metadata) = true)
    (unwritable : (metadata.getD .null).json? = none) :
    Crashes opener matchers withMetadata path .keyTooLong

/-- The front matter of a document is needed in a pass, and its reading fails in a way that is the
document's own. -/
structure Broken (opener : Opener) (query : Query) (given : List PathItem) (withMetadata : Bool)
    (path : Path) (error : DocumentError) : Prop where
  needed : ∃ matchers, MakesPass opener query given matchers ∧
    needs matchers withMetadata path = true
  failed : opener.load path = .error (.document error)

def Ends (opener : Opener) (query : Query) (given : List PathItem) (withMetadata : Bool)
    (path : Path) (breakdown : Breakdown) : Prop :=
  ∃ matchers, MakesPass opener query given matchers ∧
    Crashes opener matchers withMetadata path breakdown

def ofAccepted (withMetadata : Bool) (path : Path) (metadata : Option Value) :
    Except FinderError Listing :=
  if withMetadata then
    (jsonOf metadata).map fun value => { found := [{ path, metadata := some value }] }
  else .ok { found := [{ path }] }

def entry (opener : Opener) (matchers : List Matcher) (withMetadata : Bool) :
    PathItem → Except FinderError Listing
  | .error error => .ok { errors := [error] }
  | .ok path =>
    if needs matchers withMetadata path then
      match opener.load path with
      | .ok metadata =>
        if matchers.all (·.holds path metadata) then ofAccepted withMetadata path metadata
        else .ok {}
      | .error (.document error) => .ok { errors := [error] }
      | .error (.breakdown breakdown) => .error (.breakdown breakdown)
    else if matchers.all (·.holds path none) then .ok { found := [{ path }] } else .ok {}

def ofItem (opener : Opener) (withMetadata : Bool) (item : SelectionItem) :
    Except FinderError Listing :=
  (ofEvent opener withMetadata (.yielded item)).result

/-- The listing that items add up to. The first failure ends it. -/
def gather {α : Type} (entry : α → Except FinderError Listing) :
    List α → Except FinderError Listing
  | [] => .ok {}
  | item :: rest => (entry item).bind fun listing => (gather entry rest).map listing.append

def stopAt (breakdown : Option Breakdown) (listing : Listing) : Except FinderError Listing :=
  match breakdown with
  | some breakdown => .error (.breakdown breakdown)
  | none => .ok listing

theorem append_assoc (first second third : Listing) :
    (first.append second).append third = first.append (second.append third) := by
  simp only [append, List.append_assoc]

theorem map_append_empty (result : Except FinderError Listing) :
    result.map (append {}) = result := by
  cases result <;> rfl

theorem stopAt_append (breakdown : Option Breakdown) (first second : Listing) :
    (stopAt breakdown second).map first.append = stopAt breakdown (first.append second) := by
  cases breakdown <;> rfl

theorem andThen_result (first second : Report Listing) :
    (andThen first second).result =
      first.result.bind fun listing => second.result.map listing.append := by
  unfold andThen
  cases result : first.result with
  | error error => exact result
  | ok listing => rfl

section

variable {α : Type} (entry : α → Except FinderError Listing)

theorem gather_append (before rest : List α) :
    gather entry (before ++ rest) =
      (gather entry before).bind fun front => (gather entry rest).map front.append := by
  induction before with
  | nil => exact (map_append_empty _).symm
  | cons item before ih =>
      rw [List.cons_append, gather, gather, ih]
      cases entry item with
      | error error => rfl
      | ok listing =>
          cases gather entry before with
          | error error => rfl
          | ok front =>
              cases gather entry rest with
              | error error => rfl
              | ok back => exact congrArg Except.ok (append_assoc listing front back).symm

theorem gather_complete (items : List α)
    (whole : ∀ item ∈ items, ∃ listing, entry item = .ok listing) :
    ∃ listing, gather entry items = .ok listing := by
  induction items with
  | nil => exact ⟨{}, rfl⟩
  | cons item rest ih =>
      obtain ⟨listing, one⟩ := whole item (List.mem_cons_self ..)
      obtain ⟨later, others⟩ := ih fun other member => whole other (List.mem_cons_of_mem item member)
      refine ⟨listing.append later, ?_⟩
      rw [gather, one, others]
      rfl

theorem gather_fails (before after : List α) (item : α) (error : FinderError)
    (whole : ∀ earlier ∈ before, ∃ listing, entry earlier = .ok listing)
    (failed : entry item = .error error) :
    gather entry (before ++ item :: after) = .error error := by
  obtain ⟨front, gathered⟩ := gather_complete entry before whole
  rw [gather_append, gathered, gather, failed]
  rfl

/-- A listing falls into what stands in front of an item, its own entry and what stands behind. -/
theorem gather_parts (before after : List α) (item : α) (listing : Listing)
    (listed : gather entry (before ++ item :: after) = .ok listing) :
    ∃ front one back, gather entry before = .ok front ∧ entry item = .ok one ∧
      gather entry after = .ok back ∧ listing = front.append (one.append back) := by
  rw [gather_append, gather] at listed
  cases first : gather entry before with
  | error error =>
      rw [first] at listed
      cases listed
  | ok front =>
      cases single : entry item with
      | error error =>
          rw [first, single] at listed
          cases listed
      | ok one =>
          cases last : gather entry after with
          | error error =>
              rw [first, single, last] at listed
              cases listed
          | ok back =>
              rw [first, single, last] at listed
              cases listed
              exact ⟨front, one, back, rfl, rfl, rfl, rfl⟩

theorem gather_congr (other : α → Except FinderError Listing) (items : List α)
    (same : ∀ item ∈ items, entry item = other item) : gather entry items = gather other items := by
  induction items with
  | nil => rfl
  | cons item rest ih =>
      rw [gather, gather, same item (List.mem_cons_self ..),
        ih fun later member => same later (List.mem_cons_of_mem item member)]

end

/-- A listing depends on what was selected and on what broke the selection off, on nothing else that
was seen on the way. -/
theorem ofSelection_result (opener : Opener) (withMetadata : Bool) (selection : Selection) :
    (ofSelection opener withMetadata selection).result =
      (gather (ofItem opener withMetadata) selection.items).bind (stopAt selection.breakdown) := by
  obtain ⟨events, breakdown⟩ := selection
  induction events with
  | nil => cases breakdown <;> rfl
  | cons event rest ih =>
      have step := andThen_result (ofEvent opener withMetadata event)
        (ofSelection opener withMetadata ⟨rest, breakdown⟩)
      rw [ih] at step
      refine Eq.trans step ?_
      have silent (quiet : (ofEvent opener withMetadata event).result = .ok {}) :
          ((ofEvent opener withMetadata event).result.bind fun listing =>
            ((gather (ofItem opener withMetadata) (items ⟨rest, breakdown⟩)).bind
              (stopAt breakdown)).map listing.append) =
            (gather (ofItem opener withMetadata) (items ⟨rest, breakdown⟩)).bind
              (stopAt breakdown) := by
        rw [quiet]
        exact map_append_empty _
      cases event with
      | yielded item =>
          change _ = (gather (ofItem opener withMetadata) (item :: items ⟨rest, breakdown⟩)).bind _
          rw [gather, ofItem]
          cases (ofEvent opener withMetadata (.yielded item)).result with
          | error error => rfl
          | ok listing =>
              cases gather (ofItem opener withMetadata) (items ⟨rest, breakdown⟩) with
              | error error => rfl
              | ok later => exact stopAt_append breakdown listing later
      | called => exact silent rfl
      | drawn => exact silent rfl
      | examined event => cases event <;> exact silent rfl

theorem ofItem_fresh (opener : Opener) (document : Document) (fresh : document.Fresh opener) :
    ofItem opener true (.ok document) =
      match opener.load document.path with
      | .ok metadata => ofAccepted true document.path metadata
      | .error (.document error) => .ok { errors := [error] }
      | .error (.breakdown breakdown) => .error (.breakdown breakdown) := by
  have read : (document.metadata opener).result = opener.load document.path := fresh
  simp only [ofItem, ofEvent, ofDocument, if_true, read]
  cases opener.load document.path with
  | ok metadata => rfl
  | error failure => cases failure <;> rfl

theorem ofItem_loaded (opener : Opener) (withMetadata : Bool) (path : Path)
    (metadata : Option Value) (loaded : opener.load path = .ok metadata) :
    ofItem opener withMetadata (.ok (opener.loaded path)) = ofAccepted withMetadata path metadata := by
  cases withMetadata with
  | false => rfl
  | true =>
      have same : (opener.loaded path).path = path := rfl
      rw [ofItem_fresh opener _ (fresh_loaded opener path metadata loaded), same, loaded]

theorem entry_spec (opener : Opener) (matchers : List Matcher) (withMetadata : Bool)
    (item : PathItem) :
    entry opener matchers withMetadata item =
      match breakdownAt? opener matchers item with
      | some breakdown => .error (.breakdown breakdown)
      | none => ((contribution opener matchers item).map (ofItem opener withMetadata)).getD (.ok {}) := by
  -- A document that a matcher has read answers from memory; one that no matcher has read is read for
  -- its entry, or not at all.
  cases item with
  | error error => rfl
  | ok path =>
      cases reached : Matcher.reachesMetadata path matchers with
      | true =>
          have needed : needs matchers withMetadata path = true := by
            rw [needs, reached, Bool.true_or]
          simp only [entry, needed, breakdownAt?, contribution, reached, if_true]
          cases loaded : opener.load path with
          | ok metadata =>
              have answer := ofItem_loaded opener withMetadata path metadata loaded
              cases accepted : matchers.all (·.holds path metadata) with
              | true =>
                  simp only [accepted, if_true, Option.map_some, Option.getD_some, answer]
              | false =>
                  simp only [accepted, Bool.false_eq_true, if_false, Option.map_none,
                    Option.getD_none]
          | error failure => cases failure <;> rfl
      | false =>
          simp only [entry, needs, breakdownAt?, contribution, reached, Bool.false_or,
            Bool.false_eq_true, if_false]
          cases accepted : matchers.all (·.holds path none) with
          | false => simp
          | true =>
              cases withMetadata with
              | false => rfl
              | true =>
                  have read := ofItem_fresh opener _ (fresh_unread opener path)
                  simp only [Bool.and_true, if_true, Option.map_some, Option.getD_some, read]
                  cases opener.load path with
                  | ok metadata =>
                      have still := Matcher.holds_of_unreached path none metadata matchers reached accepted
                      simp only [still, if_true]
                  | error failure => cases failure <;> rfl

theorem gather_pass (opener : Opener) (matchers : List Matcher) (withMetadata : Bool)
    (given : List PathItem) :
    (gather (ofItem opener withMetadata)
        ((unbroken opener matchers given).filterMap (contribution opener matchers))).bind
        (stopAt (given.findSome? (breakdownAt? opener matchers))) =
      gather (entry opener matchers withMetadata) given := by
  induction given with
  | nil => rfl
  | cons item rest ih =>
      rw [unbroken_cons, List.findSome?_cons, gather, entry_spec, ← ih]
      cases breakdownAt? opener matchers item with
      | some breakdown => rfl
      | none =>
          cases added : contribution opener matchers item with
          | none =>
              simp only [List.filterMap_cons_none added]
              exact (map_append_empty _).symm
          | some result =>
              simp only [List.filterMap_cons_some added, gather, Option.map_some, Option.getD_some]
              cases ofItem opener withMetadata result with
              | error error => rfl
              | ok listing =>
                  cases gather (ofItem opener withMetadata)
                      ((unbroken opener matchers rest).filterMap (contribution opener matchers)) with
                  | error error => rfl
                  | ok later => exact (stopAt_append _ listing later).symm

section

variable (tree : FileTree) (query : Query) (given : List PathItem)

theorem silent_before_second (opener : Opener) (name : String)
    (back : FallsBack opener query given name) (item : PathItem) (member : item ∈ given) :
    contribution opener (firstMatchers query) item = none ∧
      breakdownAt? opener (firstMatchers query) item = none := by
  have nothing := back.nothing
  rw [firstResults, unbroken_free _ _ given back.whole, List.filterMap_eq_nil_iff] at nothing
  exact ⟨nothing item member, back.whole item member⟩

/-- A selection is what its last pass yields. Another pass goes over the items in silence. -/
theorem ofQuery_last (source : PathSource) (gives : source.items tree = .ok given) :
    ∃ last, MakesPass tree.opener query given last ∧
      (ofQuery tree source query).items =
        (unbroken tree.opener last given).filterMap (contribution tree.opener last) ∧
      (ofQuery tree source query).breakdown = given.findSome? (breakdownAt? tree.opener last) ∧
      ∀ matchers, MakesPass tree.opener query given matchers →
        matchers = last ∨ ∀ item ∈ given, contribution tree.opener matchers item = none ∧
          breakdownAt? tree.opener matchers item = none := by
  by_cases back : ∃ name, FallsBack tree.opener query given name
  · obtain ⟨name, back⟩ := back
    obtain ⟨again, items, breakdown⟩ := ofQuery_falls_back tree query given source gives name back
    obtain ⟨yielded, ended⟩ :=
      pass_spec tree (.nameStartsWith name :: query.matchers) _ given again
    rw [yielded] at items
    rw [ended] at breakdown
    refine ⟨_, .second name back, items, breakdown, ?_⟩
    rintro _ (_ | ⟨other, again⟩)
    · exact Or.inr (silent_before_second query given tree.opener name back)
    · obtain rfl : name = other := Option.some.inj (back.smart.symm.trans again.smart)
      exact Or.inl rfl
  · rw [not_exists] at back
    obtain ⟨yielded, ended⟩ := first_spec tree query given source gives
    rw [← ofQuery_first tree query given source gives back] at yielded ended
    refine ⟨firstMatchers query, .first, yielded, ended, ?_⟩
    rintro _ (_ | ⟨name, again⟩)
    · exact Or.inl rfl
    · exact absurd again (back name)

/-- A listing is what the items add up to in the last pass, and they add nothing in another one. -/
theorem ofQuery_gathered (withMetadata : Bool) (source : PathSource)
    (gives : source.items tree = .ok given) :
    ∃ last, MakesPass tree.opener query given last ∧
      (ofSelection tree.opener withMetadata (ofQuery tree source query)).result =
        gather (entry tree.opener last withMetadata) given ∧
      ∀ matchers, MakesPass tree.opener query given matchers →
        matchers = last ∨
          ∀ item ∈ given, entry tree.opener matchers withMetadata item = .ok {} := by
  obtain ⟨last, made, items, breakdown, others⟩ := ofQuery_last tree query given source gives
  refine ⟨last, made, ?_, ?_⟩
  · rw [ofSelection_result, items, breakdown]
    exact gather_pass tree.opener last withMetadata given
  · intro matchers pass
    rcases others matchers pass with same | silent
    · exact Or.inl same
    · right
      intro item member
      obtain ⟨nothing, whole⟩ := silent item member
      rw [entry_spec, whole, nothing]
      rfl

end

section

variable {opener : Opener} {matchers : List Matcher} {withMetadata : Bool} {path : Path}

theorem entry_failed (error : DocumentError) (needed : needs matchers withMetadata path = true)
    (failed : opener.load path = .error (.document error)) :
    entry opener matchers withMetadata (.ok path) = .ok { errors := [error] } := by
  simp only [entry, needed, failed, if_true]

theorem needs_of_accepted (metadata : Option Value)
    (accepted : matchers.all (·.holds path metadata) = true) :
    needs matchers true path = true := by
  unfold needs
  cases reached : Matcher.reachesMetadata path matchers with
  | true => rfl
  | false =>
      rw [Bool.false_or, Bool.true_and]
      exact Matcher.holds_of_unreached path metadata none matchers reached accepted

/-- An accepted document has an entry unless JSON cannot carry what its entry is asked to hold. -/
theorem ofAccepted_fails (metadata : Option Value) (error : FinderError)
    (failed : ofAccepted withMetadata path metadata = .error error) :
    withMetadata = true ∧ (metadata.getD .null).json? = none ∧
      error = .breakdown .keyTooLong := by
  cases withMetadata with
  | false => cases failed
  | true =>
      cases written : (metadata.getD .null).json? with
      | some value =>
          simp only [ofAccepted, jsonOf, written, if_true] at failed
          cases failed
      | none =>
          simp only [ofAccepted, jsonOf, written, if_true] at failed
          cases failed
          exact ⟨rfl, rfl, rfl⟩

theorem entry_error_iff (error : FinderError) :
    entry opener matchers withMetadata (.ok path) = .error error ↔
      ∃ breakdown, Crashes opener matchers withMetadata path breakdown ∧
        error = .breakdown breakdown := by
  constructor
  · intro failed
    rw [entry] at failed
    split at failed
    · rename_i needed
      split at failed
      · rename_i metadata loaded
        split at failed
        · rename_i accepted
          obtain ⟨asked, unwritable, rfl⟩ := ofAccepted_fails metadata error failed
          exact ⟨_, .writing metadata asked loaded accepted unwritable, rfl⟩
        · cases failed
      · cases failed
      · rename_i breakdown broken
        cases failed
        exact ⟨breakdown, .reading breakdown needed broken, rfl⟩
    · split at failed <;> cases failed
  · rintro ⟨_, crash, rfl⟩
    cases crash with
    | reading breakdown needed failed => simp only [entry, needed, failed, if_true]
    | writing metadata asked loaded accepted unwritable =>
        subst withMetadata
        simp only [entry, needs_of_accepted metadata accepted, loaded, accepted, ofAccepted, jsonOf,
          unwritable, if_true]
        rfl

theorem entry_complete (item : PathItem)
    (free : ∀ path breakdown, item = .ok path →
      ¬ Crashes opener matchers withMetadata path breakdown) :
    ∃ listing, entry opener matchers withMetadata item = .ok listing := by
  cases item with
  | error error => exact ⟨_, rfl⟩
  | ok path =>
      cases outcome : entry opener matchers withMetadata (.ok path) with
      | ok listing => exact ⟨listing, rfl⟩
      | error error =>
          obtain ⟨breakdown, crash, _⟩ := (entry_error_iff error).mp outcome
          exact absurd crash (free path breakdown rfl)

end

theorem failure_path (opener : Opener) (path : Path) (error : DocumentError)
    (failed : opener.load path = .error (.document error)) : error.path? = some path := by
  rcases Document.outcome_failed opener path 0 error failed with
    ⟨cause, rfl⟩ | ⟨fault, rfl⟩ | rfl <;> rfl

/-- What can end a listing at a document: a NUL in its path, a scalar that cannot be converted or a
key that is too long to be written. -/
theorem ends_cause (tree : FileTree) {query : Query} {given : List PathItem} {withMetadata : Bool}
    (path : Path) (breakdown : Breakdown)
    (ends : Ends tree.opener query given withMetadata path breakdown) :
    path.hasNul = true ∨ breakdown = .keyTooLong ∨ ∃ fault, breakdown = .unconvertible fault := by
  obtain ⟨matchers, _, crash⟩ := ends
  cases crash with
  | reading _ needed failed =>
      rcases load_breakdown tree path breakdown failed with nul | unconvertible
      · exact Or.inl nul
      · exact Or.inr (Or.inr unconvertible)
  | writing metadata asked loaded accepted unwritable => exact Or.inr (Or.inl rfl)

theorem entry_congr (first second : Opener) (matchers : List Matcher) (withMetadata : Bool)
    (item : PathItem) (same : ∀ path, item = .ok path → first.load path = second.load path) :
    entry first matchers withMetadata item = entry second matchers withMetadata item := by
  cases item with
  | error error => rfl
  | ok path => simp only [entry, same path rfl]

theorem makesPass_single (opener : Opener) (query : Query) (given : List PathItem)
    (matchers : List Matcher) (unnamed : query.smartName = none)
    (made : MakesPass opener query given matchers) : matchers = firstMatchers query := by
  cases made with
  | first => rfl
  | second name back =>
      have smart := back.smart
      rw [unnamed] at smart
      cases smart

section

variable {tree : FileTree} {query : Query} {given : List PathItem} {withMetadata : Bool}
variable {source : PathSource} (gives : source.items tree = .ok given)

include gives

theorem listing_complete
    (free : ∀ path breakdown, .ok path ∈ given →
      ¬ Ends tree.opener query given withMetadata path breakdown) :
    ∃ listing, (ofSelection tree.opener withMetadata (ofQuery tree source query)).result =
      .ok listing := by
  obtain ⟨last, made, gathered, _⟩ := ofQuery_gathered tree query given withMetadata source gives
  rw [gathered]
  apply gather_complete
  intro item member
  apply entry_complete
  rintro path breakdown rfl crash
  exact free path breakdown member ⟨last, made, crash⟩

theorem listing_ended (before after : List PathItem) (path : Path) (breakdown : Breakdown)
    (parts : given = before ++ .ok path :: after)
    (free : ∀ earlier other, .ok earlier ∈ before →
      ¬ Ends tree.opener query given withMetadata earlier other)
    (ends : Ends tree.opener query given withMetadata path breakdown) :
    (ofSelection tree.opener withMetadata (ofQuery tree source query)).result =
      .error (.breakdown breakdown) := by
  obtain ⟨last, made, gathered, others⟩ :=
    ofQuery_gathered tree query given withMetadata source gives
  obtain ⟨matchers, pass, crash⟩ := ends
  have failed : entry tree.opener matchers withMetadata (.ok path) = .error (.breakdown breakdown) :=
    (entry_error_iff _).mpr ⟨breakdown, crash, rfl⟩
  rcases others matchers pass with rfl | silent
  · rw [gathered, parts]
    apply gather_fails _ before after _ _ _ failed
    intro item member
    apply entry_complete
    rintro earlier other rfl crashed
    exact free earlier other member ⟨matchers, made, crashed⟩
  · have nothing := silent (.ok path) (by simp [parts])
    rw [failed] at nothing
    cases nothing

theorem listing_around (before after : List PathItem) (path : Path) (error : DocumentError)
    (parts : given = before ++ .ok path :: after)
    (broken : Broken tree.opener query given withMetadata path error) (listing : Listing)
    (listed : (ofSelection tree.opener withMetadata (ofQuery tree source query)).result =
      .ok listing) :
    ∃ last front back, MakesPass tree.opener query given last ∧
      gather (entry tree.opener last withMetadata) before = .ok front ∧
      gather (entry tree.opener last withMetadata) after = .ok back ∧
      listing.found = front.found ++ back.found ∧
      listing.errors = front.errors ++ error :: back.errors := by
  obtain ⟨last, made, gathered, others⟩ :=
    ofQuery_gathered tree query given withMetadata source gives
  obtain ⟨matchers, pass, needed⟩ := broken.needed
  have reported := entry_failed error needed broken.failed
  rcases others matchers pass with rfl | silent
  · rw [gathered, parts] at listed
    obtain ⟨front, one, back, first, single, rest, rfl⟩ :=
      gather_parts _ before after _ listing listed
    rw [reported] at single
    cases single
    exact ⟨matchers, front, back, made, first, rest, rfl, rfl⟩
  · have nothing := silent (.ok path) (by simp [parts])
    rw [reported] at nothing
    cases nothing

theorem listing_unaffected (unnamed : query.smartName = none) (before after : List PathItem)
    (path : Path) (error : DocumentError) (parts : given = before ++ .ok path :: after)
    (broken : Broken tree.opener query given withMetadata path error) (listing : Listing)
    (listed : (ofSelection tree.opener withMetadata (ofQuery tree source query)).result =
      .ok listing) :
    ∃ front back, listing.errors = front ++ error :: back ∧
      ∀ (other : FileTree) (fewer : PathSource), fewer.items other = .ok (before ++ after) →
        (∀ path, .ok path ∈ before ++ after → other.opener.load path = tree.opener.load path) →
        (ofSelection other.opener withMetadata (ofQuery other fewer query)).result =
          .ok ⟨listing.found, front ++ back⟩ := by
  obtain ⟨last, front, back, made, first, rest, found, errors⟩ :=
    listing_around gives before after path error parts broken listing listed
  refine ⟨front.errors, back.errors, errors, ?_⟩
  intro other fewer gives_fewer alike
  obtain ⟨other_last, other_made, gathered, _⟩ :=
    ofQuery_gathered other query (before ++ after) withMetadata fewer gives_fewer
  rw [makesPass_single _ query _ last unnamed made] at first rest
  rw [makesPass_single _ query _ other_last unnamed other_made] at gathered
  have same : ∀ item ∈ before ++ after,
      entry other.opener (firstMatchers query) withMetadata item =
        entry tree.opener (firstMatchers query) withMetadata item := by
    intro item member
    apply entry_congr
    rintro path rfl
    exact alike path member
  rw [gathered, gather_congr _ _ _ same, gather_append, first, rest, found]
  rfl

end

end Listing

namespace DocumentRoot

open Selection Listing

/-- A listing of a root whose file patterns can be read. Unless a document ends it, it is there: each
document that is needed and cannot be read is among the errors under its own path and, where no smart
name is asked for, everything else is as in a listing without that document. -/
theorem broken_documents_contained (tree : FileTree) (root : DocumentRoot) (clauses : List Clause)
    (preset : String) (withMetadata : Bool) (query : Query) (spec : FileSpec)
    (compiled : Query.compile clauses preset = .ok query)
    (patterns : FileSpec.ofLines root.files = .ok spec) :
    let result := (root.list tree clauses preset withMetadata).result
    let given := itemsBelow tree spec.verdict? root.path
    let broken := Broken tree.opener query given withMetadata
    let ends := Ends tree.opener query given withMetadata
    (root.path.hasNul = true → result = .error (.breakdown .nulInPath)) ∧
    (root.path.hasNul = false →
      root.items tree = .ok given ∧
      ((∀ path breakdown, .ok path ∈ given → ¬ ends path breakdown) →
        ∃ listing, result = .ok listing) ∧
      (∀ before path after breakdown, given = before ++ .ok path :: after →
        (∀ earlier other, .ok earlier ∈ before → ¬ ends earlier other) → ends path breakdown →
        result = .error (.breakdown breakdown)) ∧
      (∀ path breakdown, ends path breakdown →
        path.hasNul = true ∨ breakdown = .keyTooLong ∨ ∃ fault, breakdown = .unconvertible fault) ∧
      ∀ listing, result = .ok listing → ∀ path error, .ok path ∈ given → broken path error →
        error ∈ listing.errors ∧
        error.value = fieldsValue [("path", path.value), ("error", .text error.message)] ∧
        (query.smartName = none → ∃ before after front back,
          given = before ++ .ok path :: after ∧ .ok path ∉ before ++ after ∧
          listing.errors = front ++ error :: back ∧
          ∀ (other : FileTree) (fewer : PathSource), fewer.items other = .ok (before ++ after) →
            (∀ path, .ok path ∈ before ++ after →
              other.opener.load path = tree.opener.load path) →
            (ofSelection other.opener withMetadata (ofQuery other fewer query)).result =
              .ok ⟨listing.found, front ++ back⟩)) := by
  intro result given broken ends
  have course : result =
      (ofSelection tree.opener withMetadata (ofQuery tree (.tree root) query)).result := by
    simp only [result, list, compiled]
  constructor
  · intro nul
    have fails : root.items tree = .error .nulInPath := by
      simp only [DocumentRoot.items, patterns, nul, if_true]
    obtain ⟨items, ended⟩ := ofQuery_fails tree (.tree root) query .nulInPath fails
    rw [course, ofSelection_result, items, ended]
    rfl
  · intro plain
    have gives : root.items tree = .ok given := by
      simp only [DocumentRoot.items, patterns, plain, Bool.false_eq_true, if_false, given]
    have source : (PathSource.tree root).items tree = .ok given := gives
    refine ⟨gives, ?_, ?_, fun path breakdown => ends_cause tree path breakdown, ?_⟩
    · intro free
      rw [course]
      exact listing_complete source free
    · intro before path after breakdown parts free ended
      rw [course]
      exact listing_ended source before after path breakdown parts free ended
    · intro listing listed path error member failed
      rw [course] at listed
      obtain ⟨before, after, parts⟩ := List.append_of_mem member
      refine ⟨?_, ?_, ?_⟩
      · obtain ⟨_, front, back, _, _, _, _, errors⟩ :=
          listing_around source before after path error parts failed listing listed
        rw [errors]
        exact List.mem_append_right _ (List.mem_cons_self ..)
      · rw [DocumentError.value, failure_path tree.opener path error failed.failed]
        rfl
      · intro unnamed
        obtain ⟨front, back, errors, without⟩ :=
          listing_unaffected source unnamed before after path error parts failed listing listed
        exact ⟨before, after, front, back, parts,
          itemsBelow_once tree spec.verdict? root.path before after path parts, errors, without⟩

def ownFailure? : Except Failure (Option Value) → Option DocumentError
  | .error (.document error) => some error
  | _ => none

theorem eq_of_ownFailure (result : Except Failure (Option Value)) (error : DocumentError)
    (own : ownFailure? result = some error) : result = .error (.document error) := by
  unfold ownFailure? at own
  split at own
  · cases own
    rfl
  · cases own

def breakdownOf? : Except FinderError Listing → Option Breakdown
  | .error (.breakdown breakdown) => some breakdown
  | _ => none

theorem eq_of_breakdownOf (result : Except FinderError Listing) (breakdown : Breakdown)
    (ended : breakdownOf? result = some breakdown) : result = .error (.breakdown breakdown) := by
  unfold breakdownOf? at ended
  split at ended
  · cases ended
    rfl
  · cases ended

def treeWith (block : List UInt8) : FileTree where
  entries := [(["docs"], .directory),
    (["docs", "bad.md"], .file ([45, 45, 45, 10] ++ block ++ [10, 45, 45, 45, 10])),
    (["docs", "good.md"], .file [45, 45, 45, 10, 107, 58, 32, 118, 10, 45, 45, 45, 10])]

theorem bracket_contained :
    let root : DocumentRoot := { path := ⟨.relative, ["docs"]⟩ }
    let query : Query := ⟨none, [.field "k" (.equals "v")]⟩
    let tree := treeWith [91]
    Query.compile [.token "k:v"] Query.defaultPreset = .ok query ∧
      ∃ spec listing before after front back, FileSpec.ofLines root.files = .ok spec ∧
        (root.list tree [.token "k:v"] Query.defaultPreset false).result = .ok listing ∧
        listing.errors = front ++ .malformed (some ⟨.relative, ["docs", "bad.md"]⟩) :: back ∧
        (ofSelection tree.opener false (ofQuery tree (.list (before ++ after)) query)).result =
          .ok ⟨listing.found, front ++ back⟩ := by
  intro root query tree
  have compiled : Query.compile [.token "k:v"] Query.defaultPreset = .ok query := by rfl
  have readable : (FileSpec.ofLines root.files).isOk = true := by decide +kernel
  obtain ⟨spec, patterns⟩ : ∃ spec, FileSpec.ofLines root.files = .ok spec := by
    cases outcome : FileSpec.ofLines root.files with
    | error error =>
        rw [outcome] at readable
        cases readable
    | ok spec => exact ⟨spec, rfl⟩
  obtain ⟨_, contained⟩ :=
    broken_documents_contained tree root _ _ false query spec compiled patterns
  obtain ⟨gives, complete, _, _, reported⟩ := contained (by decide)
  have documents (path : Path) : .ok path ∈ itemsBelow tree spec.verdict? root.path ↔
      path = ⟨.relative, ["docs", "bad.md"]⟩ ∨ path = ⟨.relative, ["docs", "good.md"]⟩ := by
    have listed : (root.items tree).toOption.map FileTree.documents =
        some [⟨.relative, ["docs", "bad.md"]⟩, ⟨.relative, ["docs", "good.md"]⟩] := by
      decide +kernel
    rw [gives] at listed
    rw [← FileTree.mem_documents_iff, Option.some.inj listed, List.mem_cons, List.mem_singleton]
  have failed : tree.opener.load ⟨.relative, ["docs", "bad.md"]⟩ =
      .error (.document (.malformed (some ⟨.relative, ["docs", "bad.md"]⟩))) :=
    eq_of_ownFailure _ _ (by decide +kernel)
  have settled : Document.settles (tree.opener.load ⟨.relative, ["docs", "good.md"]⟩) = true := by
    decide +kernel
  have free : ∀ path breakdown, .ok path ∈ itemsBelow tree spec.verdict? root.path →
      ¬ Ends tree.opener query (itemsBelow tree spec.verdict? root.path) false path breakdown := by
    rintro path breakdown member ⟨matchers, _, crash⟩
    cases crash with
    | reading _ needed broken =>
        rcases (documents path).mp member with rfl | rfl
        · rw [failed] at broken
          cases broken
        · rw [broken] at settled
          cases settled
    | writing metadata asked loaded accepted unwritable => cases asked
  obtain ⟨listing, listed⟩ := complete free
  obtain ⟨_, _, unaffected⟩ := reported listing listed _ _ ((documents _).mpr (Or.inl rfl))
    ⟨⟨_, .first, by rfl⟩, failed⟩
  obtain ⟨before, after, front, back, _, _, errors, without⟩ := unaffected rfl
  exact ⟨compiled, spec, listing, before, after, front, back, patterns, listed, errors,
    without tree (.list (before ++ after)) rfl fun _ _ => rfl⟩

/-- A block with a number that has no digits: `k: 0b_`. Its reading is no failure of the document, and
the other document is not listed either. -/
theorem unconvertible_ends_listing :
    let root : DocumentRoot := { path := ⟨.relative, ["docs"]⟩ }
    let clauses : List Clause := [.token "k:v"]
    (Query.compile clauses Query.defaultPreset).isOk = true ∧
      (FileSpec.ofLines root.files).isOk = true ∧
      (root.list (treeWith [107, 58, 32, 48, 98, 95]) clauses Query.defaultPreset false).result =
        .error (.breakdown (.unconvertible .malformedNumber)) := by
  refine ⟨by decide +kernel, by decide +kernel, ?_⟩
  apply eq_of_breakdownOf
  decide +kernel

end DocumentRoot

end DocFinder
