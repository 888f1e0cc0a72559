import DocFinder.Proofs.Attempts
import DocFinder.Proofs.Document.Sharing
import DocFinder.Proofs.Query.Compilation
import DocFinder.Proofs.Selection.Laziness
import Mathlib.Data.List.Perm.Basic

/-! The order of criteria. It decides which documents are read and which of them fail, but not which
documents are found. -/

namespace DocFinder

namespace Query

theorem read_reordered {clauses others : List Clause} {criteria : List Criterion}
    (reordered : clauses.Perm others) (read : clauses.mapM Clause.read = .ok criteria) :
    ∃ moved, others.mapM Clause.read = .ok moved ∧ criteria.Perm moved := by
  obtain ⟨moved, read_moved, same⟩ :=
    List.perm_comp_forall₂ reordered.symm ((mapM_ok_iff _ _ _).mp read)
  exact ⟨moved, (mapM_ok_iff _ _ _).mpr read_moved, same.symm⟩

theorem renders_reordered {criteria others : List Criterion} {query : Query}
    (reordered : criteria.Perm others) (renders : Renders criteria query) :
    ∃ matchers, Renders others { query with matchers } ∧ query.matchers.Perm matchers := by
  obtain ⟨matchers, means, same⟩ :=
    List.perm_comp_forall₂ (reordered.filter (·.smartName?.isNone)).symm renders.matchers
  refine ⟨matchers, ⟨?_, means⟩, same.symm⟩
  have names := (reordered.filterMap Criterion.smartName?).symm
  rw [renders.smartName] at names
  change _ = query.smartName.toList
  cases named : query.smartName with
  | none =>
      rw [named] at names
      exact names.eq_nil
  | some name =>
      rw [named] at names
      exact names.eq_singleton

/-- Clauses that compile do so in any order. Only the order of the matchers is another one. -/
theorem compile_reordered {clauses others : List Clause} {preset : String} {query : Query}
    (reordered : clauses.Perm others) (compiled : compile clauses preset = .ok query) :
    ∃ matchers, compile others preset = .ok { query with matchers } ∧
      query.matchers.Perm matchers := by
  obtain ⟨known, criteria, read, renders⟩ := (compile_iff _ _ _).mp compiled
  obtain ⟨moved, read_moved, same⟩ := read_reordered reordered read
  obtain ⟨matchers, renders_moved, permuted⟩ := renders_reordered same renders
  exact ⟨matchers, (compile_iff _ _ _).mpr ⟨known, moved, read_moved, renders_moved⟩, permuted⟩

end Query

namespace Matcher

section

variable (path : Path) (matchers : List Matcher)

theorem reaches_of_accepted (accepted : matchers.all (·.holds path none) = true) :
    reachesMetadata path matchers = matchers.any (·.needsMetadata) := by
  have front : (matchers.takeWhile (!·.needsMetadata)).all (·.holds path none) = true := by
    rw [List.all_eq_true] at accepted ⊢
    exact fun matcher member => accepted matcher ((List.takeWhile_sublist _).subset member)
  rw [reachesMetadata, front, Bool.and_true]

/-- A document that is refused unread is refused by a matcher, whatever reading it would give. -/
theorem refused_unread (loading : Except Failure (Option Value))
    (unreached : reachesMetadata path matchers = false)
    (refused : matchers.all (·.holds path none) = false) :
    ∃ matcher ∈ matchers, matcher.verdict path loading = .ok false := by
  induction matchers with
  | nil => cases refused
  | cons matcher rest ih =>
      rw [reaches_cons, Bool.or_eq_false_iff] at unreached
      obtain ⟨unneeded, unreached⟩ := unreached
      cases accepts : matcher.holds path none with
      | false =>
          refine ⟨matcher, List.mem_cons_self, ?_⟩
          rw [verdict, unneeded, if_neg Bool.false_ne_true, accepts]
      | true =>
          rw [accepts, Bool.true_and] at unreached
          rw [List.all_cons, accepts, Bool.true_and] at refused
          obtain ⟨other, member, found⟩ := ih unreached refused
          exact ⟨other, List.mem_cons_of_mem matcher member, found⟩

end

end Matcher

namespace Selection

/-- Two results of the same items that have the same documents in the same order and share their
errors, except for load errors of documents that a matcher refuses without reading them. -/
inductive Aligned (opener : Opener) (matchers : List Matcher) :
    (first second : List SelectionItem) → Prop
  | nil : Aligned opener matchers [] []
  | same {first second : List SelectionItem} (item : SelectionItem)
    (rest : Aligned opener matchers first second) :
    Aligned opener matchers (item :: first) (item :: second)
  | onlyFirst {first second : List SelectionItem} {path : Path} {error : DocumentError}
    {matcher : Matcher} (unread : opener.load path = .error (.document error))
    (member : matcher ∈ matchers)
    (refuses : matcher.verdict path (opener.load path) = .ok false)
    (rest : Aligned opener matchers first second) :
    Aligned opener matchers (.error error :: first) second
  | onlySecond {first second : List SelectionItem} {path : Path} {error : DocumentError}
    {matcher : Matcher} (unread : opener.load path = .error (.document error))
    (member : matcher ∈ matchers)
    (refuses : matcher.verdict path (opener.load path) = .ok false)
    (rest : Aligned opener matchers first second) :
    Aligned opener matchers first (.error error :: second)

namespace Aligned

variable {opener : Opener} {matchers : List Matcher} {first second more others : List SelectionItem}

theorem append (aligned : Aligned opener matchers first second)
    (next : Aligned opener matchers more others) :
    Aligned opener matchers (first ++ more) (second ++ others) := by
  induction aligned with
  | nil => exact next
  | same item _ ih => exact .same item ih
  | onlyFirst unread member refuses _ ih => exact .onlyFirst unread member refuses ih
  | onlySecond unread member refuses _ ih => exact .onlySecond unread member refuses ih

theorem refl (results : List SelectionItem) : Aligned opener matchers results results := by
  induction results with
  | nil => exact .nil
  | cons item rest ih => exact .same item ih

theorem documents (aligned : Aligned opener matchers first second) :
    Selection.documents first = Selection.documents second := by
  induction aligned with
  | nil => rfl
  | same item _ ih => cases item <;> simpa [Selection.documents, Except.toOption] using ih
  | onlyFirst _ _ _ _ ih => exact ih
  | onlySecond _ _ _ _ ih => exact ih

theorem same_of_errorless (aligned : Aligned opener matchers first second)
    (clean : ∀ error, .error error ∉ first) (second_clean : ∀ error, .error error ∉ second) :
    first = second := by
  induction aligned with
  | nil => rfl
  | same item _ ih =>
      rw [ih (fun error member => clean error (List.mem_cons_of_mem item member))
        (fun error member => second_clean error (List.mem_cons_of_mem item member))]
  | onlyFirst => exact absurd List.mem_cons_self (clean _)
  | onlySecond => exact absurd List.mem_cons_self (second_clean _)

end Aligned

section

variable (opener : Opener)

/-- A matcher in front that needs no front matter only decides whether the others are asked. -/
theorem contribution_behind (named : Matcher) (matchers : List Matcher) (path : Path)
    (unneeded : named.needsMetadata = false) :
    contribution opener (named :: matchers) (.ok path) =
      if named.holds path none then contribution opener matchers (.ok path) else none := by
  have alike (metadata : Option Value) := Matcher.holds_of_unneeded path metadata named unneeded
  cases accepts : named.holds path none <;>
    simp [contribution, Matcher.reaches_cons, unneeded, alike, accepts]

theorem breakdownAt_behind (named : Matcher) (matchers : List Matcher) (path : Path)
    (unneeded : named.needsMetadata = false) :
    breakdownAt? opener (named :: matchers) (.ok path) =
      if named.holds path none then breakdownAt? opener matchers (.ok path) else none := by
  cases accepts : named.holds path none <;>
    simp [breakdownAt?, Matcher.reaches_cons, unneeded, accepts]

theorem contribution_loaded (matchers : List Matcher) (path : Path) (metadata : Option Value)
    (loaded : opener.load path = .ok metadata) :
    contribution opener matchers (.ok path) =
      if matchers.all (·.holds path metadata) then
        some (.ok (if matchers.any (·.needsMetadata) then opener.loaded path else { path }))
      else none := by
  cases reached : Matcher.reachesMetadata path matchers with
  | true =>
      have needed : matchers.any (·.needsMetadata) = true := by
        rw [Matcher.reachesMetadata, Bool.and_eq_true] at reached
        exact reached.1
      simp only [contribution, reached, loaded, needed, if_true]
  | false =>
      have alike : matchers.all (·.holds path metadata) = matchers.all (·.holds path none) := by
        rw [Bool.eq_iff_iff]
        exact ⟨Matcher.holds_of_unreached path metadata none matchers reached,
          Matcher.holds_of_unreached path none metadata matchers reached⟩
      simp only [contribution, reached, alike, Bool.false_eq_true, if_false]
      cases accepted : matchers.all (·.holds path none) with
      | false => rfl
      | true =>
          rw [Matcher.reaches_of_accepted path matchers accepted] at reached
          rw [reached]
          rfl

end

section

variable {opener : Opener} {matchers others : List Matcher} (permuted : matchers.Perm others)

include permuted

theorem contribution_aligned (item : PathItem)
    (unbroken : breakdownAt? opener matchers item = none)
    (other_unbroken : breakdownAt? opener others item = none) :
    Aligned opener matchers (contribution opener matchers item).toList
      (contribution opener others item).toList := by
  cases item with
  | error error => exact .refl _
  | ok path =>
      have all (metadata : Option Value) : matchers.all (·.holds path metadata) =
          others.all (·.holds path metadata) := permuted.all_eq
      have any : matchers.any (·.needsMetadata) = others.any (·.needsMetadata) := permuted.any_eq
      cases outcome : opener.load path with
      | ok metadata =>
          rw [contribution_loaded opener matchers path metadata outcome,
            contribution_loaded opener others path metadata outcome, all, any]
          exact .refl _
      | error failure =>
          cases failure with
          | breakdown breakdown =>
              have passed (matchers : List Matcher)
                  (unbroken : breakdownAt? opener matchers (.ok path) = none) :
                  Matcher.reachesMetadata path matchers = false := by
                simpa [breakdownAt?, outcome] using unbroken
              simp only [contribution, passed matchers unbroken, passed others other_unbroken, all]
              exact .refl _
          | document error =>
              have refusal (matchers : List Matcher) :=
                Matcher.refused_unread path matchers (opener.load path)
              simp only [contribution, outcome]
              cases accepted : matchers.all (·.holds path none) with
              | true =>
                  -- No order refuses the path, so that both read it or neither does.
                  have other_accepted := (all none).symm.trans accepted
                  rw [Matcher.reaches_of_accepted path matchers accepted,
                    Matcher.reaches_of_accepted path others other_accepted, any, other_accepted]
                  exact .refl _
              | false =>
                  have other_refused := (all none).symm.trans accepted
                  rw [other_refused]
                  cases reached : Matcher.reachesMetadata path matchers with
                  | true =>
                      cases other_reached : Matcher.reachesMetadata path others with
                      | true => exact .refl _
                      | false =>
                          obtain ⟨matcher, member, refuses⟩ :=
                            refusal others other_reached other_refused
                          exact .onlyFirst outcome (permuted.mem_iff.mpr member) refuses .nil
                  | false =>
                      cases other_reached : Matcher.reachesMetadata path others with
                      | true =>
                          obtain ⟨matcher, member, refuses⟩ := refusal matchers reached accepted
                          exact .onlySecond outcome member refuses .nil
                      | false => exact .refl _

theorem contribution_named_aligned (named : Matcher) (unneeded : named.needsMetadata = false)
    (item : PathItem) (unbroken : breakdownAt? opener (named :: matchers) item = none)
    (other_unbroken : breakdownAt? opener (named :: others) item = none) :
    Aligned opener matchers (contribution opener (named :: matchers) item).toList
      (contribution opener (named :: others) item).toList := by
  cases item with
  | error error => exact .refl _
  | ok path =>
      rw [breakdownAt_behind opener named _ path unneeded] at unbroken other_unbroken
      rw [contribution_behind opener named _ path unneeded,
        contribution_behind opener named _ path unneeded]
      cases accepts : named.holds path none with
      | false => exact .nil
      | true =>
          rw [accepts, if_pos rfl] at unbroken other_unbroken
          exact contribution_aligned permuted (.ok path) unbroken other_unbroken

theorem contributions_aligned (named : Matcher) (unneeded : named.needsMetadata = false)
    (given : List PathItem)
    (unbroken : ∀ item ∈ given, breakdownAt? opener (named :: matchers) item = none)
    (other_unbroken : ∀ item ∈ given, breakdownAt? opener (named :: others) item = none) :
    Aligned opener matchers (given.filterMap (contribution opener (named :: matchers)))
      (given.filterMap (contribution opener (named :: others))) := by
  simp only [List.filterMap_eq_flatMap_toList]
  induction given with
  | nil => exact .nil
  | cons item rest ih =>
      simp only [List.flatMap_cons]
      refine .append ?_ (ih (fun other member => unbroken other (List.mem_cons_of_mem item member))
        (fun other member => other_unbroken other (List.mem_cons_of_mem item member)))
      exact contribution_named_aligned permuted named unneeded item
        (unbroken item List.mem_cons_self) (other_unbroken item List.mem_cons_self)

/-- Where one of two passes breaks off earlier, it has found the first of the same documents. -/
theorem documents_prefix (named : Matcher) (unneeded : named.needsMetadata = false)
    (given : List PathItem) :
    let found (matchers : List Matcher) := documents
      ((unbroken opener (named :: matchers) given).filterMap
        (contribution opener (named :: matchers)))
    found matchers <+: found others ∨ found others <+: found matchers := by
  intro found
  -- Up to the first item that breaks one order off, both find the same.
  induction given with
  | nil => exact Or.inl (List.prefix_refl _)
  | cons item rest ih =>
      simp only [found, unbroken_cons] at ih ⊢
      cases broken : breakdownAt? opener (named :: matchers) item with
      | some breakdown => exact Or.inl List.nil_prefix
      | none =>
          cases other_broken : breakdownAt? opener (named :: others) item with
          | some breakdown => exact Or.inr List.nil_prefix
          | none =>
              have here := (contribution_named_aligned permuted named unneeded item broken
                other_broken).documents
              have split (matchers : List Matcher) (items : List PathItem) :
                  documents ((item :: items).filterMap (contribution opener (named :: matchers))) =
                    documents (contribution opener (named :: matchers) item).toList ++
                      documents (items.filterMap (contribution opener (named :: matchers))) := by
                simp only [List.filterMap_eq_flatMap_toList, List.flatMap_cons, documents,
                  List.flatMap_append]
              simp only [split, here, List.prefix_append_right_inj]
              exact ih

end

/-- One pass of a query and of the same query in another order. A pass breaks off where its own order
has to read a path with a NUL, and up to there the same documents are found. -/
structure FindAlike (opener : Opener) (query other : Query) (named : Matcher) (given : List PathItem)
    (first second : Selection) : Prop where
  isPass : IsPass opener query named given first
  otherIsPass : IsPass opener other named given second
  whole : first.breakdown = none → second.breakdown = none →
    Aligned opener query.matchers first.items second.items ∧
      documents first.items = documents second.items
  broken : documents first.items <+: documents second.items ∨
    documents second.items <+: documents first.items

theorem FindAlike.congr {opener : Opener} {query other : Query} {named : Matcher}
    {given : List PathItem} {first second firstLike secondLike : Selection}
    (alike : FindAlike opener query other named given first second)
    (items : firstLike.items = first.items) (ends : firstLike.breakdown = first.breakdown)
    (other_items : secondLike.items = second.items)
    (other_ends : secondLike.breakdown = second.breakdown) :
    FindAlike opener query other named given firstLike secondLike := by
  refine ⟨isPass_congr _ _ _ _ _ _ items ends alike.isPass,
    isPass_congr _ _ _ _ _ _ other_items other_ends alike.otherIsPass, ?_, ?_⟩
  · rw [items, ends, other_items, other_ends]
    exact alike.whole
  · rw [items, other_items]
    exact alike.broken

section

variable {tree : FileTree} {source : PathSource} {query other : Query} {given : List PathItem}
  (permuted : query.matchers.Perm other.matchers) (gives : source.items tree = .ok given)
  (convertible : ∀ path fault, .ok path ∈ given →
    tree.opener.load path ≠ .error (.breakdown (.unconvertible fault)))

include permuted gives convertible

omit gives in
theorem pass_findAlike (named : Matcher) (unneeded : named.needsMetadata = false)
    (supply other_supply : Supply) (gives : supply.items tree = .ok given)
    (other_gives : other_supply.items tree = .ok given) :
    FindAlike tree.opener query other named given
      (pass tree (named :: query.matchers) supply).selection
      (pass tree (named :: other.matchers) other_supply).selection := by
  obtain ⟨items, ends⟩ := pass_spec tree (named :: query.matchers) supply given gives
  obtain ⟨other_items, other_ends⟩ :=
    pass_spec tree (named :: other.matchers) other_supply given other_gives
  refine ⟨pass_isPass tree query named supply given gives convertible,
    pass_isPass tree other named other_supply given other_gives convertible, ?_, ?_⟩
  · intro whole other_whole
    rw [ends, List.findSome?_eq_none_iff] at whole
    rw [other_ends, List.findSome?_eq_none_iff] at other_whole
    have aligned := contributions_aligned permuted named unneeded given whole other_whole
    rw [items, other_items, unbroken_free _ _ _ whole, unbroken_free _ _ _ other_whole]
    exact ⟨aligned, aligned.documents⟩
  · rw [items, other_items]
    exact documents_prefix permuted named unneeded given

theorem unnamed_findAlike (unnamed : query.smartName = none) (other_unnamed : other.smartName = none) :
    FindAlike tree.opener query other .always given (ofQuery tree source query)
      (ofQuery tree source other) := by
  rw [ofQuery_plain tree source query unnamed, ofQuery_plain tree source other other_unnamed]
  exact pass_findAlike permuted convertible .always rfl _ _
    ((supply_items tree source query).trans gives) ((supply_items tree source other).trans gives)

/-- If no order fails in the pass for whole names, both orders go on to the beginnings of names or
neither does. -/
theorem named_findAlike (name : String) (smart : query.smartName = some name)
    (other_smart : other.smartName = some name)
    (whole : ∀ item ∈ given, breakdownAt? tree.opener (firstMatchers query) item = none)
    (other_whole : ∀ item ∈ given, breakdownAt? tree.opener (firstMatchers other) item = none)
    (clean : ∀ error, .error error ∉ firstResults tree.opener query given)
    (other_clean : ∀ error, .error error ∉ firstResults tree.opener other given) :
    (FallsBack tree.opener query given name ↔ FallsBack tree.opener other given name) ∧
      (¬ FallsBack tree.opener query given name →
        FindAlike tree.opener query other (.nameIs name) given (ofQuery tree source query)
          (ofQuery tree source other)) ∧
      (FallsBack tree.opener query given name →
        FindAlike tree.opener query other (.nameStartsWith name) given (ofQuery tree source query)
          (ofQuery tree source other)) := by
  have matchers : firstMatchers query = .nameIs name :: query.matchers := by
    simp only [firstMatchers, smart]
  have other_matchers : firstMatchers other = .nameIs name :: other.matchers := by
    simp only [firstMatchers, other_smart]
  have same : firstResults tree.opener query given = firstResults tree.opener other given := by
    rw [firstResults, firstResults, unbroken_free _ _ _ whole, unbroken_free _ _ _ other_whole]
      at *
    rw [matchers] at clean whole ⊢
    rw [other_matchers] at other_clean other_whole ⊢
    exact (contributions_aligned permuted _ rfl given whole other_whole).same_of_errorless clean
      other_clean
  have alike : FallsBack tree.opener query given name ↔ FallsBack tree.opener other given name :=
    ⟨fun back => ⟨other_smart, same ▸ back.nothing, other_whole⟩,
      fun back => ⟨smart, same ▸ back.nothing, whole⟩⟩
  refine ⟨alike, ?_, ?_⟩
  · intro stays
    rw [ofQuery_stays tree query given source gives name smart stays,
      ofQuery_stays tree other given source gives name other_smart fun back => stays (alike.mpr back)]
    exact pass_findAlike permuted convertible (.nameIs name) rfl _ _
      ((supply_items tree source query).trans gives) ((supply_items tree source other).trans gives)
  · intro back
    obtain ⟨again, items, ends⟩ := ofQuery_falls_back tree query given source gives name back
    obtain ⟨other_again, other_items, other_ends⟩ :=
      ofQuery_falls_back tree other given source gives name (alike.mp back)
    exact (pass_findAlike permuted convertible (.nameStartsWith name) rfl _ _ again
      other_again).congr items ends other_items other_ends

end

/-- Clauses that compile do so in every order, with the same smart name. Without a smart name, both
orders find the same documents in the same order, and an error that only one order has is the load
error of a document that the other order refuses unread. With a smart name this holds, in the same
phase of both orders, if the pass for whole names has no error. A path with a NUL that one order has
to read breaks that order off. -/
theorem order_keeps_documents (tree : FileTree) (source : PathSource) (clauses others : List Clause)
    (preset : String) (query : Query) (compiled : Query.compile clauses preset = .ok query)
    (reordered : clauses.Perm others) :
    ∃ other, Query.compile others preset = .ok other ∧ other.smartName = query.smartName ∧
      let first := ofQuery tree source query
      let second := ofQuery tree source other
      (∀ breakdown, source.items tree = .error breakdown →
        ∀ selection ∈ [first, second],
          selection.items = [] ∧ selection.breakdown = some breakdown) ∧
      ∀ given, source.items tree = .ok given →
        (∀ path fault, .ok path ∈ given →
          tree.opener.load path ≠ .error (.breakdown (.unconvertible fault))) →
        (query.smartName = none →
          FindAlike tree.opener query other .always given first second) ∧
        ∀ name, query.smartName = some name →
          (∀ either ∈ [query, other],
            (∀ item ∈ given, breakdownAt? tree.opener (firstMatchers either) item = none) ∧
              ∀ error, .error error ∉ firstResults tree.opener either given) →
          (FallsBack tree.opener query given name ↔ FallsBack tree.opener other given name) ∧
            (¬ FallsBack tree.opener query given name →
              FindAlike tree.opener query other (.nameIs name) given first second) ∧
            (FallsBack tree.opener query given name →
              FindAlike tree.opener query other (.nameStartsWith name) given first second) := by
  obtain ⟨matchers, compiled_other, permuted⟩ := Query.compile_reordered reordered compiled
  refine ⟨{ query with matchers }, compiled_other, rfl, ?_, fun given gives convertible => ⟨?_, ?_⟩⟩
  · intro breakdown fails selection member
    simp only [List.mem_cons, List.not_mem_nil, or_false] at member
    rcases member with rfl | rfl
    · exact ofQuery_fails tree source _ breakdown fails
    · exact ofQuery_fails tree source _ breakdown fails
  · intro unnamed
    exact unnamed_findAlike permuted gives convertible unnamed unnamed
  · intro name smart settled
    obtain ⟨whole, clean⟩ := settled query List.mem_cons_self
    obtain ⟨other_whole, other_clean⟩ :=
      settled { query with matchers } (List.mem_cons_of_mem _ List.mem_cons_self)
    exact named_findAlike permuted gives convertible name smart smart whole other_whole clean
      other_clean

theorem lost_note_in_one_order :
    let tree : FileTree := { entries := [(["note.md"],
      .file [45, 45, 45, 10, 107, 58, 32, 118, 10, 45, 45, 45, 10])] }
    let given : List PathItem := [.ok ⟨.relative, ["note.md"]⟩, .ok ⟨.relative, ["nob.md"]⟩]
    let clauses : List Clause := [.token "no", .token "/e/", .token "k:v"]
    let others : List Clause := [.token "k:v", .token "/e/", .token "no"]
    ∃ query other, Query.compile clauses "" = .ok query ∧ clauses.Perm others ∧
      Query.compile others "" = .ok other ∧
      FindAlike tree.opener query other (.nameStartsWith "no") given
        (ofQuery tree (.list given) query) (ofQuery tree (.list given) other) ∧
      (ofQuery tree (.list given) query).items.length = 1 ∧
      (ofQuery tree (.list given) other).items.length = 2 ∧
      documents (ofQuery tree (.list given) query).items =
        documents (ofQuery tree (.list given) other).items := by
  intro tree given clauses others
  let compiled (clauses : List Clause) : Query :=
    (Query.compile clauses "").toOption.getD ⟨none, []⟩
  have reordered : clauses.Perm others := by decide
  have first : Query.compile clauses "" = .ok (compiled clauses) := by decide +kernel
  have second : Query.compile others "" = .ok (compiled others) := by decide +kernel
  obtain ⟨other, compiled_other, _, _, alike⟩ :=
    order_keeps_documents tree (.list given) clauses others "" _ first reordered
  obtain rfl : compiled others = other := Except.ok.inj (second.symm.trans compiled_other)
  have convertible : ∀ path fault, .ok path ∈ given →
      tree.opener.load path ≠ .error (.breakdown (.unconvertible fault)) := by
    have settled : given.all (fun item => item.toOption.all fun path =>
        Document.settles (tree.opener.load path)) = true := by decide +kernel
    intro path fault member failed
    have closed := List.all_eq_true.mp settled _ member
    simp only [Except.toOption, Option.all_some, failed] at closed
    cases closed
  have smart : (compiled clauses).smartName = some "no" := by decide +kernel
  obtain ⟨_, named⟩ := alike given rfl convertible
  have quiet : ∀ query ∈ [compiled clauses, compiled others],
      (∀ item ∈ given, breakdownAt? tree.opener (firstMatchers query) item = none) ∧
        (firstResults tree.opener query given).isEmpty = true := by decide +kernel
  obtain ⟨_, _, back⟩ := named "no" smart (by
    intro query member
    obtain ⟨whole, nothing⟩ := quiet query member
    refine ⟨whole, fun error failed => ?_⟩
    rw [List.isEmpty_iff.mp nothing] at failed
    cases failed)
  obtain ⟨whole, nothing⟩ := quiet _ List.mem_cons_self
  have found := back ⟨smart, List.isEmpty_iff.mp nothing, whole⟩
  refine ⟨_, _, first, reordered, second, found, ?_, ?_, (found.whole ?_ ?_).2⟩
  · decide +kernel
  · decide +kernel
  · decide +kernel
  · decide +kernel

theorem nul_lost_in_one_order :
    let tree : FileTree := { entries := [(["n.md"],
      .file [45, 45, 45, 10, 107, 58, 32, 118, 10, 45, 45, 45, 10])] }
    let source : PathSource := .list [.ok ⟨.relative, ["a\x00b"]⟩, .ok ⟨.relative, ["n.md"]⟩]
    let found (clauses : List Clause) :=
      (Query.compile clauses "").map fun query =>
        let selection := ofQuery tree source query
        (query.smartName, (documents selection.items).map (·.path), selection.breakdown)
    found [.token "/n/", .token "k:v"] = .ok (none, [⟨.relative, ["n.md"]⟩], none) ∧
      found [.token "k:v", .token "/n/"] = .ok (none, [], some .nulInPath) := by
  refine ⟨?_, ?_⟩
  · decide +kernel
  · decide +kernel

end Selection

end DocFinder
