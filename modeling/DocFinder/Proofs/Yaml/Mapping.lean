import DocFinder.Proofs.Yaml.Construction

namespace DocFinder.Yaml

/-- A mapping has a node under a key. Of entries with the same key the last counts. -/
structure Graph.Maps (graph : Graph) (root : Nat) (key : String) (n : Nat) : Prop where
  typed : graph.tag? root = some .map
  entry : ∃ flat before k after, graph.flatten graph.size root = .ok flat ∧
    flat.entries? root = some (before ++ (k, n) :: after) ∧ flat.Denotes k (.text key) ∧
      ∀ later ∈ after, ¬ flat.Denotes later.1 (.text key)

theorem Graph.Denotes.unique {graph : Graph} {n : Nat} {value other : Value}
    (denotes : graph.Denotes n value) (again : graph.Denotes n other) : value = other := by
  obtain ⟨node, found, _, read⟩ := denotes
  obtain ⟨_, found_again, _, read_again⟩ := again
  cases found.symm.trans found_again
  exact Except.ok.inj (read.symm.trans read_again)

namespace Builder

/-- What is known of a mapping in the end: its entries, with keys that were read, and with values that
were read if they are scalars. -/
structure Filled (graph : Graph) (root : Nat) (flat : Graph) (entries : List (Nat × Nat))
    (c : Construction) : Prop where
  mapping : c.part? root = some (.map entries)
  size : c.parts.size = graph.size
  key : ∀ entry ∈ entries, ∃ value, c.part? entry.1 = some (.whole value) ∧ flat.Denotes entry.1 value
  value : ∀ entry ∈ entries, ∀ tag text, graph[entry.2]? = some (Node.mk tag (.scalar text)) →
    tag ≠ .value → tag.isCollection = false →
      ∃ bare, tag.read text = .ok bare ∧ c.part? entry.2 = some (.whole (markNode entry.2 bare))

theorem root_waits (graph : Graph) (root : Nat) (collects : graph.tag? root = some .map)
    (c : Construction) (met : (meet root).run graph.start = .ok ((), c)) :
    c = graph.start.await root := by
  obtain ⟨node, found, typed⟩ := Option.map_eq_some_iff.mp collects
  rcases meet_cases met with ⟨known, _⟩ | ⟨_, _, _, ⟨_, same⟩ | ⟨value, ⟨other, there, single, _⟩, _⟩⟩
  · rw [graph.start_unknown] at known
    cases known
  · exact same
  · cases found.symm.trans there
    rw [typed] at single
    cases single

theorem fill_mapping (graph : Graph) (root : Nat) (c c' : Construction)
    (typed : c.graph.tag? root = some .map) (sound : Sound graph [root] c)
    (unread : ∀ n value, c.part? n ≠ some (.whole value)) (run : (fill root).run c = .ok ((), c')) :
    ∃ flat, c.graph.flatten c.graph.size root = .ok flat ∧
      Filled graph root flat ((flat.entries? root).getD []) c' := by
  unfold fill at run
  obtain ⟨_, _, here, run⟩ := (run_bind_ok_iff _ _ _ _).mp run
  cases here
  rw [typed] at run
  obtain ⟨entries, between, each, run⟩ := (run_bind_ok_iff _ _ _ _).mp run
  cases run
  obtain ⟨flat, flattened, rfl, met, known⟩ := meetEntries_met entries sound each
  obtain ⟨sound_filled, others⟩ := met.sound.fill (.map ((flat.entries? root).getD [])) nofun
  have denotes (n : Nat) (value : Value) (whole : between.part? n = some (.whole value)) :
      flat.Denotes n value := by
    have fresh := met.fresh fun m other known => absurd known (unread m other)
    have now := fresh n value whole
    rwa [met.graph] at now
  have waits : between.part? root = some .unfilled := met.sound.waits root List.mem_cons_self
  -- What was read is not the mapping itself, which still waits.
  have read (n : Nat) (value : Value) (whole : between.part? n = some (.whole value)) :
      (between.know root (.map ((flat.entries? root).getD []))).part? n = some (.whole value) := by
    refine others n _ ?_ whole
    rintro rfl
    rw [waits] at whole
    cases whole
  refine ⟨flat, flattened, ⟨?_, sound_filled.size, ?_, ?_⟩⟩
  · change (between.know root _).part? root = _
    rw [Construction.part_know, if_pos ⟨rfl, between.part_inside root _ waits⟩]
  · intro entry member
    obtain ⟨⟨value, whole⟩, _⟩ := known entry member
    exact ⟨value, read _ value whole, denotes _ value whole⟩
  · intro entry member tag text found plain single
    obtain ⟨part, here⟩ := Option.isSome_iff_exists.mp (known entry member).2
    obtain ⟨bare, converted, rfl⟩ := met.sound.scalar _ tag text found plain single part here
    exact ⟨bare, converted, read _ _ here⟩

theorem Filled.later {graph flat : Graph} {root : Nat} {entries : List (Nat × Nat)}
    {c c' : Construction} (filled : Filled graph root flat entries c)
    (later : ∀ n part, part ≠ .unfilled → c.part? n = some part → c'.part? n = some part)
    (size : c'.parts.size = graph.size) : Filled graph root flat entries c' where
  mapping := later root _ nofun filled.mapping
  size := size
  key entry member := by
    obtain ⟨value, whole, denotes⟩ := filled.key entry member
    exact ⟨value, later _ _ nofun whole, denotes⟩
  value entry member tag text found plain single := by
    obtain ⟨bare, read, whole⟩ := filled.value entry member tag text found plain single
    exact ⟨bare, read, later _ _ nofun whole⟩

theorem mapping_filled (graph : Graph) (root : Nat) (typed : graph.tag? root = some .map)
    (c c' : Construction) (met : (meet root).run graph.start = .ok ((), c))
    (filled : (fillLevels (graph.size + 1)).run c = .ok ((), c')) :
    ∃ flat, graph.flatten graph.size root = .ok flat ∧
      Filled graph root flat ((flat.entries? root).getD []) c' := by
  obtain ⟨⟨sound, _⟩, _⟩ := meet_met graph.start_sound met
  obtain rfl := root_waits graph root typed c met
  rw [fillLevels] at filled
  obtain ⟨_, _, here, run⟩ := (run_bind_ok_iff _ _ _ _).mp filled
  cases here
  obtain ⟨_, _, emptied, run⟩ := (run_bind_ok_iff _ _ _ _).mp run
  cases emptied
  obtain ⟨_, between, level, run⟩ := (run_bind_ok_iff _ _ _ _).mp run
  obtain ⟨_, first, one, done⟩ := (run_bind_ok_iff _ _ _ _).mp level
  cases done
  have unread (n : Nat) (value : Value) :
      (graph.start.await root).part? n ≠ some (.whole value) := by
    intro whole
    change (graph.start.know root .unfilled).part? n = _ at whole
    rw [Construction.part_know, graph.start_unknown] at whole
    split at whole <;> cases whole
  obtain ⟨flat, flattened, all⟩ := fill_mapping graph root _ _ typed sound.next unread one
  obtain ⟨sound_first, _⟩ := fill_sound sound.next one
  obtain ⟨sound_last, later⟩ := fillLevels_sound _ sound_first run
  exact ⟨flat, flattened, all.later later sound_last.size⟩

end Builder

namespace Construction

theorem valuesOf_size (parts : List (Option Part)) : (valuesOf parts).size = parts.length := by
  induction parts using List.reverseRecOn with
  | nil => rfl
  | append_singleton before part ih => simp [valuesOf_concat, ih]

theorem valuesOf_getElem? (parts : List (Option Part)) (n : Nat) :
    (valuesOf parts)[n]? =
      parts[n]?.map fun part => (part.map (·.value (valuesOf (parts.take n)))).getD .null := by
  induction parts using List.reverseRecOn with
  | nil => rfl
  | append_singleton before part ih =>
      rw [valuesOf_concat, Array.getElem?_push, valuesOf_size]
      by_cases last : n = before.length
      · subst last
        simp
      · rw [if_neg last, ih]
        by_cases inside : n < before.length
        · rw [List.getElem?_append_left inside, List.take_append_of_le_length (Nat.le_of_lt inside)]
        · rw [List.getElem?_eq_none (by omega), List.getElem?_eq_none (by simp; omega)]
          rfl

theorem known_whole (c : Construction) (n m : Nat) (value : Value) (below : m < n)
    (whole : c.part? m = some (.whole value)) :
    Part.value.known (valuesOf (c.parts.toList.take n)) m = value := by
  have found := Option.join_eq_some_iff.mp whole
  rw [Part.value.known, valuesOf_getElem?, List.getElem?_take_of_lt below, Array.getElem?_toList, found]
  rfl

theorem value_map (c : Construction) (n : Nat) (entries : List (Nat × Nat))
    (mapping : c.part? n = some (.map entries)) :
    c.values[n]?.getD .null =
      let known := Part.value.known (valuesOf (c.parts.toList.take n))
      .map (Value.entriesOf (entries.map fun (k, v) => (known k, known v))) := by
  have found := Option.join_eq_some_iff.mp mapping
  rw [values_eq, valuesOf_getElem?, Array.getElem?_toList, found]
  rfl

end Construction

namespace Graph

/-- Under a key of a mapping stands what the scalar there is read as. The value of a document depends
on the scalars in it being readable. -/
theorem field_of_maps (graph : Graph) (root n : Nat) (key : String) (tag : Tag) (text : List Sign)
    (ordered : graph.Ordered) (maps : graph.Maps root key n)
    (scalar : graph[n]? = some (Node.mk tag (.scalar text))) (plain : tag ≠ .value)
    (single : tag.isCollection = false) (value : Value) (built : graph.value root = .ok value) :
    ∃ bare, tag.read text = .ok bare ∧ value.field? key = some (markNode n bare) := by
  obtain ⟨c, c', met, filled, rfl⟩ := graph.value_run root value built
  obtain ⟨flat, flattened, all⟩ := Builder.mapping_filled graph root maps.typed c c' met filled
  obtain ⟨other, before, k, after, again, entries, denotes, last⟩ := maps.entry
  cases flattened.symm.trans again
  rw [entries, Option.getD_some] at all
  have flat_ordered := (Graph.flatten_careful _ graph root flat flattened).2 ordered
  have below (entry : Nat × Nat) (member : entry ∈ before ++ (k, n) :: after) :=
    flat_ordered.entry entries member
  have here : (k, n) ∈ before ++ (k, n) :: after := by simp
  obtain ⟨bare, read, whole⟩ := all.value (k, n) here tag text scalar plain single
  refine ⟨bare, read, ?_⟩
  have known_key (entry : Nat × Nat) (member : entry ∈ before ++ (k, n) :: after) :
      flat.Denotes entry.1
        (Part.value.known (Construction.valuesOf (c'.parts.toList.take root)) entry.1) := by
    obtain ⟨own, own_whole, stands⟩ := all.key entry member
    rw [c'.known_whole root entry.1 own (below entry member).1 own_whole]
    exact stands
  have known_value := c'.known_whole root n _ (below _ here).2 whole
  rw [c'.value_map root _ all.mapping, Value.field_entriesOf]
  generalize Part.value.known (Construction.valuesOf (c'.parts.toList.take root)) = known
    at known_key known_value ⊢
  have key_here : known k = .text key := (known_key _ here).unique denotes
  have others : ((after.map fun (k, v) => (known k, known v)).reverse.find? fun entry =>
      Value.isText key entry.1) = none := by
    refine List.find?_eq_none.mpr fun entry member => ?_
    obtain ⟨later, inside, rfl⟩ := List.mem_map.mp (List.mem_reverse.mp member)
    rw [Value.isText_iff]
    intro same
    have stands := known_key later (List.mem_append_right before (List.mem_cons_of_mem _ inside))
    exact last later inside (same ▸ stands)
  have first : Value.isText key (known k) = true := (Value.isText_iff key _).mpr key_here
  rw [List.map_append, List.map_cons, List.reverse_append, List.reverse_cons, List.append_assoc,
    List.find?_append, others]
  simp [first, known_value]

end Graph

def Graph.Readable (graph : Graph) (n : Nat) : Prop :=
  ∃ tag text bare, graph[n]? = some (Node.mk tag (.scalar text)) ∧ tag ≠ .merge ∧ tag ≠ .value ∧
    tag.isCollection = false ∧ tag.read text = .ok bare

structure Graph.Flat (graph : Graph) (root : Nat) : Prop where
  mapping : ∃ entries, graph[root]? = some (Node.mk .map (.mapping entries)) ∧
    ∀ entry ∈ entries, graph.Readable entry.1 ∧ graph.Readable entry.2

section

variable {graph : Graph} {root : Nat}

theorem Graph.modify_same (graph : Graph) (n : Nat) (change : Node → Node)
    (same : ∀ node : Node, graph[n]? = some node → change node = node) :
    Array.modify graph n change = graph := by
  apply Array.ext_getElem?
  intro m
  rw [Array.getElem?_modify]
  by_cases here : n = m
  · subst here
    rw [if_pos rfl]
    cases found : graph[n]? with
    | none => rfl
    | some node => rw [Option.map_some, same node found]
  · rw [if_neg here]

theorem Graph.setAsText_of_readable (n : Nat) (readable : graph.Readable n) :
    graph.setAsText n = graph := by
  obtain ⟨tag, text, _, found, _, plain, _⟩ := readable
  refine graph.modify_same n _ fun node here => ?_
  cases found.symm.trans here
  exact if_neg plain

theorem Graph.mergeEntries_flat (flatten : Graph → Nat → Except Fault Graph) (entries : Graph.Entries)
    (readable : ∀ entry ∈ entries, graph.Readable entry.1) :
    mergeEntries flatten graph entries = .ok (graph, [], entries) := by
  induction entries with
  | nil => rfl
  | cons entry rest ih =>
      obtain ⟨key, value⟩ := entry
      obtain ⟨first, later⟩ := List.forall_mem_cons.mp readable
      have unmerged : graph.tag? key ≠ some .merge := by
        obtain ⟨tag, text, _, found, merge, _⟩ := first
        simp [tag?, found, merge]
      rw [mergeEntries, if_neg unmerged, setAsText_of_readable key first, ih later]
      rfl

theorem Graph.Flat.flatten (flat : graph.Flat root) : graph.flatten graph.size root = .ok graph := by
  obtain ⟨entries, found, readable⟩ := flat.mapping
  obtain ⟨inside, _⟩ := Array.getElem?_eq_some_iff.mp found
  obtain ⟨fuel, size⟩ := Nat.exists_eq_succ_of_ne_zero (Nat.ne_of_gt (Nat.zero_lt_of_lt inside))
  have mapping := (graph.entries_some_iff root entries).mpr ⟨_, found⟩
  rw [size, Graph.flatten, mapping]
  simp only [mergeEntries_flat _ entries fun entry member => (readable entry member).1]
  change Except.ok (graph.setEntries root ([] ++ entries)) = _
  refine congrArg Except.ok (graph.modify_same root _ fun node here => ?_)
  cases found.symm.trans here
  rfl

namespace Builder

variable {todo : List Nat} {c : Construction}

theorem meet_known (n : Nat) (known : (c.part? n).isSome = true) : (meet n).run c = .ok ((), c) := by
  rw [meet_run, if_pos known]

theorem meet_scalar (n : Nat) (node : Node) (value : Value) (unknown : c.part? n = none)
    (found : c.graph[n]? = some node) (single : node.tag.isCollection = false)
    (read : c.graph.scalarValue n node = .ok value) :
    (meet n).run c = .ok ((), c.know n (.whole value)) := by
  rw [meet_run, unknown, found]
  simp only [single, read]
  rfl

theorem meet_readable (sound : Sound graph todo c) (same : c.graph = graph) (n : Nat)
    (readable : graph.Readable n) :
    ∃ c', (meet n).run c = .ok ((), c') ∧ Sound graph todo c' ∧ c'.graph = graph ∧
      c'.waiting = c.waiting ∧ ∃ value, c'.part? n = some (.whole value) := by
  obtain ⟨tag, text, bare, found, _, plain, single, read⟩ := readable
  cases part : c.part? n with
  | some known =>
      obtain ⟨value, _, rfl⟩ := sound.scalar n tag text found plain single known part
      exact ⟨c, meet_known n (by rw [part]; rfl), sound, same, rfl, _, part⟩
  | none =>
      have read_here : c.graph.scalarValue n ⟨tag, .scalar text⟩ = .ok (markNode n bare) := by
        rw [same, graph.scalarValue_scalar n tag text found, read]
        rfl
      have run := meet_scalar n _ _ part (same ▸ found) single read_here
      obtain ⟨met, _⟩ := meet_met sound run
      have inside : n < c.parts.size := by
        rw [sound.size]
        exact (Array.getElem?_eq_some_iff.mp found).1
      exact ⟨_, run, met.sound, met.graph.trans same, rfl, _,
        (c.part_know n n _).trans (if_pos ⟨rfl, inside⟩)⟩

theorem meetKey_readable (sound : Sound graph todo c) (same : c.graph = graph) (n : Nat)
    (readable : graph.Readable n) :
    ∃ c', (meetKey n).run c = .ok ((), c') ∧ Sound graph todo c' ∧ c'.graph = graph ∧
      c'.waiting = c.waiting := by
  obtain ⟨c', run, sound_met, same_met, waiting, value, whole⟩ := meet_readable sound same n readable
  refine ⟨c', (run_bind_ok_iff _ _ _ _).mpr ⟨(), c', run, ?_⟩, sound_met, same_met, waiting⟩
  have look : (part? n).run c' = .ok (c'.part? n, c') := rfl
  rw [StateT.run_bind, look, whole]
  rfl

theorem entries_readable (entries : List (Nat × Nat)) (sound : Sound graph todo c)
    (same : c.graph = graph)
    (readable : ∀ entry ∈ entries, graph.Readable entry.1 ∧ graph.Readable entry.2) :
    ∃ c', (forIn entries PUnit.unit fun entry _ => do
        meetKey entry.1
        meet entry.2
        pure (ForInStep.yield PUnit.unit) : Builder PUnit).run c = .ok (PUnit.unit, c') ∧
      c'.waiting = c.waiting := by
  induction entries generalizing c with
  | nil => exact ⟨c, rfl, rfl⟩
  | cons entry rest ih =>
      obtain ⟨⟨key, value⟩, later⟩ := List.forall_mem_cons.mp readable
      obtain ⟨first, run_key, sound_key, same_key, waiting_key⟩ := meetKey_readable sound same _ key
      obtain ⟨second, run_value, sound_value, same_value, waiting_value, _⟩ :=
        meet_readable sound_key same_key _ value
      obtain ⟨last, run_rest, waiting_rest⟩ := ih sound_value same_value later
      refine ⟨last, ?_, waiting_rest.trans (waiting_value.trans waiting_key)⟩
      rw [List.forIn_cons]
      refine (run_bind_ok_iff _ _ _ _).mpr ⟨.yield PUnit.unit, second, ?_, run_rest⟩
      exact (run_bind_ok_iff _ _ _ _).mpr ⟨(), first, run_key,
        (run_bind_ok_iff _ _ _ _).mpr ⟨(), second, run_value, rfl⟩⟩

theorem meet_collection (n : Nat) (node : Node) (unknown : c.part? n = none)
    (found : c.graph[n]? = some node) (collects : node.tag.isCollection = true) :
    (meet n).run c = .ok ((), c.await n) := by
  rw [meet_run, unknown, found]
  simp only [collects]
  rfl

theorem fillLevels_done (fuel : Nat) (done : c.waiting = #[]) :
    (fillLevels fuel).run c = .ok ((), c) := by
  cases fuel with
  | zero => rfl
  | succ fuel =>
      refine (run_bind_ok_iff _ _ _ _).mpr ⟨c, c, rfl, ?_⟩
      rw [done]
      rfl

theorem fill_flat (flat : graph.Flat root) (sound : Sound graph [root] c) (same : c.graph = graph) :
    ∃ c', (fill root).run c = .ok ((), c') ∧ c'.waiting = c.waiting := by
  obtain ⟨entries, found, readable⟩ := flat.mapping
  have sound_flat : Sound graph [root] { c with graph } :=
    ⟨.refl graph, sound.size, sound.distinct, sound.waits, sound.whole, sound.scalar⟩
  obtain ⟨c', each, waiting⟩ := entries_readable entries sound_flat rfl readable
  have mapping := (graph.entries_some_iff root entries).mpr ⟨_, found⟩
  have met : (meetEntries root).run c = .ok (entries, c') := by
    rw [meetEntries]
    refine (run_bind_ok_iff _ _ _ _).mpr ⟨c, c, rfl, ?_⟩
    refine (run_bind_ok_iff _ _ _ _).mpr ⟨graph, c, ?_, ?_⟩
    · rw [same, flat.flatten]
      rfl
    · refine (run_bind_ok_iff _ _ _ _).mpr ⟨(), { c with graph }, rfl, ?_⟩
      rw [mapping, Option.getD_some]
      exact (run_bind_ok_iff _ _ _ _).mpr ⟨PUnit.unit, c', each, rfl⟩
  refine ⟨c'.know root (.map entries), ?_, waiting⟩
  have typed : c.graph.tag? root = some .map := by simp [Graph.tag?, same, found]
  rw [fill]
  refine (run_bind_ok_iff _ _ _ _).mpr ⟨c, c, rfl, ?_⟩
  rw [typed]
  exact (run_bind_ok_iff _ _ _ _).mpr ⟨entries, c', met, rfl⟩

end Builder

theorem Graph.Flat.value (flat : graph.Flat root) : ∃ value, graph.value root = .ok value := by
  obtain ⟨entries, found, _⟩ := flat.mapping
  have met := Builder.meet_collection root _ (graph.start_unknown root) found rfl
  obtain ⟨⟨sound, _⟩, _⟩ := Builder.meet_met graph.start_sound met
  obtain ⟨c, filled, waiting⟩ := Builder.fill_flat flat sound.next rfl
  have levels : (Builder.fillLevels (graph.size + 1)).run (graph.start.await root) = .ok ((), c) := by
    rw [Builder.fillLevels]
    refine (run_bind_ok_iff _ _ _ _).mpr ⟨_, _, rfl, ?_⟩
    refine (run_bind_ok_iff _ _ _ _).mpr ⟨(), _, rfl, ?_⟩
    refine (run_bind_ok_iff _ _ _ _).mpr ⟨(), c, ?_, Builder.fillLevels_done _ waiting⟩
    exact (run_bind_ok_iff _ _ _ _).mpr ⟨(), c, filled, rfl⟩
  have run := (run_bind_ok_iff _ (fun _ => Builder.fillLevels (graph.size + 1)) _ _).mpr
    ⟨(), _, met, levels⟩
  exact ⟨_, (bind_ok_iff _ _ _).mpr ⟨_, run, rfl⟩⟩

end

end DocFinder.Yaml
