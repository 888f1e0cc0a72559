import DocFinder.Proofs.Attempts
import DocFinder.Yaml.Node.Merging

namespace DocFinder.Yaml

def Content.nodes : Content → List Nat
  | scalar _ => []
  | sequence items => items
  | mapping entries => entries.flatMap fun (key, value) => [key, value]

namespace Graph

/-- What stays of the nodes of a graph when mappings in it were flattened. -/
structure Keeps (graph other : Graph) : Prop where
  size : other.size = graph.size
  node : ∀ (n : Nat) tag content, graph[n]? = some (Node.mk tag content) → tag ≠ .value →
    ∃ now, other[n]? = some (Node.mk tag now) ∧ ∀ text, content = .scalar text → now = .scalar text

def Ordered (graph : Graph) : Prop :=
  ∀ (n : Nat) (node : Node), graph[n]? = some node → ∀ m ∈ node.content.nodes, m < n

def Careful (flatten : Graph → Nat → Except Fault Graph) : Prop :=
  ∀ graph n other, flatten graph n = .ok other →
    graph.Keeps other ∧ (graph.Ordered → other.Ordered)

namespace Keeps

variable {graph other last : Graph}

theorem refl (graph : Graph) : graph.Keeps graph where
  size := rfl
  node _ _ content found _ := ⟨content, found, fun _ same => same⟩

theorem trans (first : graph.Keeps other) (second : other.Keeps last) : graph.Keeps last where
  size := second.size.trans first.size
  node n tag content found plain := by
    obtain ⟨between, there, scalar⟩ := first.node n tag content found plain
    obtain ⟨now, here, still⟩ := second.node n tag between there plain
    exact ⟨now, here, fun text same => still text (scalar text same)⟩

theorem tag (keeps : graph.Keeps other) {n : Nat} {tag : Tag} (typed : graph.tag? n = some tag)
    (plain : tag ≠ .value) : other.tag? n = some tag := by
  obtain ⟨⟨_, content⟩, found, rfl⟩ := Option.map_eq_some_iff.mp typed
  obtain ⟨now, there, _⟩ := keeps.node n _ content found plain
  simp [tag?, there]

end Keeps

theorem entries_some_iff (graph : Graph) (n : Nat) (entries : Entries) :
    graph.entries? n = some entries ↔ ∃ tag, graph[n]? = some (Node.mk tag (.mapping entries)) := by
  unfold entries?
  split <;> simp_all

theorem items_some_iff (graph : Graph) (n : Nat) (items : List Nat) :
    graph.items? n = some items ↔ ∃ tag, graph[n]? = some (Node.mk tag (.sequence items)) := by
  unfold items?
  split <;> simp_all

namespace Ordered

variable {graph : Graph} (ordered : graph.Ordered) {n : Nat}

include ordered

theorem entry {entries : Entries} (mapping : graph.entries? n = some entries) {key value : Nat}
    (member : (key, value) ∈ entries) : key < n ∧ value < n := by
  obtain ⟨tag, found⟩ := (graph.entries_some_iff n entries).mp mapping
  have inside := ordered n _ found
  simp only [Content.nodes, List.mem_flatMap] at inside
  exact ⟨inside key ⟨_, member, by simp⟩, inside value ⟨_, member, by simp⟩⟩

theorem item {items : List Nat} (sequence : graph.items? n = some items) {m : Nat}
    (member : m ∈ items) : m < n := by
  obtain ⟨tag, found⟩ := (graph.items_some_iff n items).mp sequence
  exact ordered n _ found m member

end Ordered

section

variable (graph : Graph) (n : Nat)

theorem setAsText_keeps : graph.Keeps (graph.setAsText n) where
  size := Array.size_modify
  node m tag content found plain := by
    refine ⟨content, ?_, fun _ same => same⟩
    rw [setAsText, Array.getElem?_modify, found]
    by_cases here : n = m <;> simp [here, plain]

theorem setAsText_ordered (ordered : graph.Ordered) : (graph.setAsText n).Ordered := by
  intro m node found
  rw [setAsText, Array.getElem?_modify] at found
  split at found
  · obtain ⟨old, there, rfl⟩ := Option.map_eq_some_iff.mp found
    have inside := ordered m old there
    split <;> exact inside
  · exact ordered m node found

theorem setEntries_keeps (other : Graph) (before after : Entries) (keeps : graph.Keeps other)
    (mapping : graph.entries? n = some before) : graph.Keeps (other.setEntries n after) where
  size := Array.size_modify.trans keeps.size
  node m tag content found plain := by
    obtain ⟨now, there, scalar⟩ := keeps.node m tag content found plain
    rw [setEntries, Array.getElem?_modify, there]
    by_cases here : n = m
    · obtain ⟨_, as_mapping⟩ := (graph.entries_some_iff n before).mp mapping
      rw [here, found] at as_mapping
      cases as_mapping
      exact ⟨.mapping after, by simp [here], nofun⟩
    · exact ⟨now, by simp [here], scalar⟩

theorem setEntries_ordered (entries : Entries) (ordered : graph.Ordered)
    (smaller : ∀ entry ∈ entries, entry.1 < n ∧ entry.2 < n) :
    (graph.setEntries n entries).Ordered := by
  intro m node found
  rw [setEntries, Array.getElem?_modify] at found
  split at found
  · rename_i here
    obtain ⟨old, there, rfl⟩ := Option.map_eq_some_iff.mp found
    intro part inside
    simp only [Content.nodes, List.mem_flatMap] at inside
    obtain ⟨entry, member, either⟩ := inside
    have both := smaller entry member
    simp only [List.mem_cons, List.not_mem_nil, or_false] at either
    rcases either with rfl | rfl
    · exact here ▸ both.1
    · exact here ▸ both.2
  · exact ordered m node found

end

section

variable {flatten : Graph → Nat → Except Fault Graph} (careful : Careful flatten)

include careful

/-- What merging items gives: entries of nodes before a bound, if the items stand before it. -/
theorem mergeItems_careful (items : List Nat) (graph other : Graph) (merged : Entries)
    (run : mergeItems flatten graph items = .ok (other, merged)) :
    graph.Keeps other ∧ (graph.Ordered → other.Ordered ∧
      ∀ bound, (∀ item ∈ items, item ≤ bound) →
        ∀ entry ∈ merged, entry.1 < bound ∧ entry.2 < bound) := by
  induction items generalizing graph other merged with
  | nil =>
      cases run
      exact ⟨.refl graph, fun ordered => ⟨ordered, fun _ _ => nofun⟩⟩
  | cons item rest ih =>
      obtain ⟨flat, flattened, run⟩ := (bind_ok_iff _ _ _).mp run
      obtain ⟨⟨last, more⟩, others, run⟩ := (bind_ok_iff _ _ _).mp run
      cases run
      obtain ⟨keeps, order⟩ := careful graph item flat flattened
      obtain ⟨keeps_rest, order_rest⟩ := ih flat other more others
      refine ⟨keeps.trans keeps_rest, fun ordered => ?_⟩
      obtain ⟨ordered_rest, bounded⟩ := order_rest (order ordered)
      refine ⟨ordered_rest, fun bound below entry member => ?_⟩
      rcases List.mem_append.mp member with member | member
      · exact bounded bound (fun other inside => below other (List.mem_cons_of_mem item inside))
          entry member
      · cases mapping : flat.entries? item with
        | none => simp [mapping] at member
        | some entries =>
            rw [mapping] at member
            have smaller := (order ordered).entry mapping member
            have first := below item List.mem_cons_self
            exact ⟨Nat.lt_of_lt_of_le smaller.1 first, Nat.lt_of_lt_of_le smaller.2 first⟩

theorem mergeSource_careful (graph other : Graph) (n : Nat) (merged : Entries)
    (run : mergeSource flatten graph n = .ok (other, merged)) :
    graph.Keeps other ∧ (graph.Ordered → other.Ordered ∧
      ∀ entry ∈ merged, entry.1 < n ∧ entry.2 < n) := by
  obtain ⟨keeps, order⟩ := mergeItems_careful careful _ graph other merged run
  refine ⟨keeps, fun ordered => ?_⟩
  obtain ⟨still, bounded⟩ := order ordered
  refine ⟨still, bounded n ?_⟩
  cases sequence : graph.items? n with
  | none => simp
  | some items => exact fun item inside => Nat.le_of_lt (ordered.item sequence inside)

/-- Entries that are merged in and entries that stay are made of nodes before a bound, if the entries
before were. -/
theorem mergeEntries_careful (entries : Entries) (graph other : Graph) (merged own : Entries)
    (run : mergeEntries flatten graph entries = .ok (other, merged, own)) :
    graph.Keeps other ∧ (graph.Ordered → other.Ordered ∧
      ∀ bound, (∀ entry ∈ entries, entry.1 < bound ∧ entry.2 < bound) →
        ∀ entry ∈ merged ++ own, entry.1 < bound ∧ entry.2 < bound) := by
  induction entries generalizing graph other merged own with
  | nil =>
      cases run
      exact ⟨.refl graph, fun ordered => ⟨ordered, fun _ _ => nofun⟩⟩
  | cons entry rest ih =>
      obtain ⟨key, value⟩ := entry
      unfold mergeEntries at run
      split at run
      · obtain ⟨⟨between, these⟩, source, run⟩ := (bind_ok_iff _ _ _).mp run
        obtain ⟨⟨last, more, kept⟩, others, run⟩ := (bind_ok_iff _ _ _).mp run
        cases run
        obtain ⟨keeps, order⟩ := mergeSource_careful careful graph between value these source
        obtain ⟨keeps_rest, order_rest⟩ := ih between other more own others
        refine ⟨keeps.trans keeps_rest, fun ordered => ?_⟩
        obtain ⟨still, bounded⟩ := order ordered
        obtain ⟨still_rest, bounded_rest⟩ := order_rest still
        refine ⟨still_rest, fun bound below entry member => ?_⟩
        rw [List.append_assoc] at member
        rcases List.mem_append.mp member with member | member
        · have first := below (key, value) List.mem_cons_self
          have smaller := bounded entry member
          exact ⟨Nat.lt_trans smaller.1 first.2, Nat.lt_trans smaller.2 first.2⟩
        · exact bounded_rest bound (fun other inside => below other (List.mem_cons_of_mem _ inside))
            entry member
      · obtain ⟨⟨last, more, kept⟩, others, run⟩ := (bind_ok_iff _ _ _).mp run
        cases run
        obtain ⟨keeps_rest, order_rest⟩ := ih (graph.setAsText key) other merged kept others
        refine ⟨(graph.setAsText_keeps key).trans keeps_rest, fun ordered => ?_⟩
        obtain ⟨still, bounded⟩ := order_rest (graph.setAsText_ordered key ordered)
        refine ⟨still, fun bound below entry member => ?_⟩
        have before := bounded bound fun other inside => below other (List.mem_cons_of_mem _ inside)
        rcases List.mem_append.mp member with member | member
        · exact before entry (List.mem_append_left kept member)
        · rcases List.mem_cons.mp member with rfl | member
          · exact below _ List.mem_cons_self
          · exact before entry (List.mem_append_right merged member)

end

theorem flatten_careful (fuel : Nat) : Careful (flatten fuel) := by
  induction fuel with
  | zero => exact fun graph n other run => nomatch run
  | succ fuel ih =>
      intro graph n other run
      unfold flatten at run
      split at run
      · cases run
      · rename_i entries mapping
        obtain ⟨⟨between, merged, own⟩, collected, run⟩ := (bind_ok_iff _ _ _).mp run
        cases run
        obtain ⟨keeps, order⟩ := mergeEntries_careful ih entries graph between merged own collected
        refine ⟨graph.setEntries_keeps n between entries _ keeps mapping, fun ordered => ?_⟩
        obtain ⟨still, bounded⟩ := order ordered
        exact between.setEntries_ordered n _ still
          (bounded n fun entry member => ordered.entry mapping member)

end Graph

end DocFinder.Yaml
