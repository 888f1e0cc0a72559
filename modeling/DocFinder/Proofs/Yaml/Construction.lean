import DocFinder.Proofs.Value.Entries
import DocFinder.Proofs.Yaml.Flattening
import DocFinder.Yaml.Document
import Mathlib.Data.List.Nodup

/-! How the value of a document is put together. What is known of a node stays known, and a collection
is filled once. -/

namespace DocFinder.Yaml

namespace Construction

def part? (c : Construction) (n : Nat) : Option Part := c.parts[n]?.join

def know (c : Construction) (n : Nat) (part : Part) : Construction :=
  { c with parts := c.parts.setIfInBounds n (some part) }

def await (c : Construction) (n : Nat) : Construction :=
  { c.know n .unfilled with waiting := c.waiting.push n }

theorem part_know (c : Construction) (n m : Nat) (part : Part) :
    (c.know n part).part? m = if n = m ∧ n < c.parts.size then some part else c.part? m := by
  simp only [part?, know, Array.getElem?_setIfInBounds]
  by_cases here : n = m
  · subst here
    by_cases inside : n < c.parts.size <;> simp [inside]
  · simp [here]

theorem part_inside (c : Construction) (n : Nat) (part : Part) (known : c.part? n = some part) :
    n < c.parts.size := by
  by_contra outside
  rw [part?, Array.getElem?_eq_none (Nat.not_lt.mp outside)] at known
  cases known

end Construction

namespace Graph

def Denotes (graph : Graph) (n : Nat) (value : Value) : Prop :=
  ∃ node : Node, graph[n]? = some node ∧ node.tag.isCollection = false ∧
    graph.scalarValue n node = .ok value

theorem text_scalar (graph : Graph) (n : Nat) (tag : Tag) (text : List Sign)
    (found : graph[n]? = some (Node.mk tag (.scalar text))) :
    graph.text? graph.size n = some text := by
  have inside : n < graph.size := (Array.getElem?_eq_some_iff.mp found).1
  obtain ⟨fuel, size⟩ := Nat.exists_eq_succ_of_ne_zero (Nat.ne_of_gt (Nat.zero_lt_of_lt inside))
  rw [size, text?, found]

theorem scalarValue_scalar (graph : Graph) (n : Nat) (tag : Tag) (text : List Sign)
    (found : graph[n]? = some (Node.mk tag (.scalar text))) :
    graph.scalarValue n ⟨tag, .scalar text⟩ = (tag.read text).map (markNode n) := by
  rw [scalarValue, graph.text_scalar n tag text found]
  cases tag <;> rfl

end Graph

theorem markNode_children (n : Nat) (value : Value) (plain : value.children = []) :
    (markNode n value).children = [] := by
  cases value with
  | float x => rcases x with (_ | mark) | _ | _ <;> rfl
  | _ => exact plain

theorem Tag.read_children (tag : Tag) (text : List Sign) (value : Value)
    (read : tag.read text = .ok value) :
    value.children = [] ∧ ∀ entries, value ≠ .map entries := by
  cases tag with
  | null | str =>
      cases read
      exact ⟨rfl, nofun⟩
  | bool | int | float | binary =>
      obtain ⟨_, _, rfl⟩ := (map_ok_iff _ _ _).mp read
      exact ⟨rfl, nofun⟩
  | timestamp =>
      change readTimestamp (text.map Sign.shown) = .ok value at read
      unfold readTimestamp at read
      split at read
      · cases read
      all_goals
        split at read
        · cases read
          exact ⟨rfl, nofun⟩
        · cases read
  | _ => cases read

theorem Graph.Denotes.keysDiffer {graph : Graph} {n : Nat} {value : Value}
    (denotes : graph.Denotes n value) : value.KeysDiffer := by
  obtain ⟨node, _, _, read⟩ := denotes
  unfold scalarValue at read
  split at read
  · cases read
  · split at read
    · cases read
    · obtain ⟨bare, converted, rfl⟩ := (map_ok_iff _ _ _).mp read
      obtain ⟨plain, unmapped⟩ := Tag.read_children _ _ bare converted
      apply Value.eachMap_leaf
      · exact markNode_children n bare plain
      · intro entries same
        cases bare with
        | float x => rcases x with (_ | mark) | _ | _ <;> cases same
        | map others => exact unmapped others rfl
        | _ => cases same

namespace Builder

variable {n : Nat} {c c' : Construction}

theorem meet_run (n : Nat) (c : Construction) :
    (meet n).run c =
      if (c.part? n).isSome then .ok ((), c)
      else
        match c.graph[n]? with
        | none => .error .malformed
        | some node =>
          if node.tag.isCollection then .ok ((), c.await n)
          else (c.graph.scalarValue n node).map fun value => ((), c.know n (.whole value)) := by
  have known : (part? n).run c = .ok (c.part? n, c) := rfl
  unfold meet
  rw [StateT.run_bind, known]
  change StateT.run (if _ then _ else _) c = _
  split
  · rfl
  · have look : (MonadState.get : Builder Construction).run c = .ok (c, c) := rfl
    rw [StateT.run_bind, look]
    dsimp only [bind, Except.bind]
    cases c.graph[n]? with
    | none => rfl
    | some node =>
        dsimp only
        cases node.tag.isCollection with
        | true => rfl
        | false => cases c.graph.scalarValue n node <;> rfl

/-- What meeting a node can do. -/
theorem meet_cases (run : (meet n).run c = .ok ((), c')) :
    (c.part? n).isSome = true ∧ c' = c ∨
      c.part? n = none ∧ ∃ node : Node, c.graph[n]? = some node ∧
        (node.tag.isCollection = true ∧ c' = c.await n ∨
          ∃ value, c.graph.Denotes n value ∧ c' = c.know n (.whole value)) := by
  rw [meet_run] at run
  split at run
  · rename_i known
    cases run
    exact .inl ⟨known, rfl⟩
  · rename_i unknown
    refine .inr ⟨by simpa using unknown, ?_⟩
    split at run
    · cases run
    · rename_i node found
      refine ⟨node, found, ?_⟩
      split at run
      · rename_i collects
        cases run
        exact .inl ⟨collects, rfl⟩
      · rename_i single
        obtain ⟨value, read, same⟩ := (map_ok_iff _ _ _).mp run
        cases same
        exact .inr ⟨value, ⟨node, found, Bool.eq_false_iff.mpr single, read⟩, rfl⟩

end Builder

/-- What holds while the value of a graph is put together and some nodes are about to be filled. -/
structure Sound (graph : Graph) (todo : List Nat) (c : Construction) : Prop where
  keeps : graph.Keeps c.graph
  size : c.parts.size = graph.size
  distinct : (todo ++ c.waiting.toList).Nodup
  waits : ∀ n ∈ todo ++ c.waiting.toList, c.part? n = some .unfilled
  whole : ∀ n value, c.part? n = some (.whole value) → value.KeysDiffer
  /-- A scalar whose type does not change is read as it stands in the graph. -/
  scalar : ∀ (n : Nat) tag text, graph[n]? = some (Node.mk tag (.scalar text)) → tag ≠ .value →
    tag.isCollection = false → ∀ part, c.part? n = some part →
      ∃ value, tag.read text = .ok value ∧ part = .whole (markNode n value)

def Construction.Fresh (c : Construction) : Prop :=
  ∀ n value, c.part? n = some (.whole value) → c.graph.Denotes n value

structure Met (graph : Graph) (todo : List Nat) (c c' : Construction) : Prop where
  sound : Sound graph todo c'
  later : ∀ n part, c.part? n = some part → c'.part? n = some part
  graph : c'.graph = c.graph
  fresh : c.Fresh → c'.Fresh

section

variable {graph : Graph} {todo rest : List Nat} {n : Nat} {c c' c'' : Construction}

namespace Sound

variable (sound : Sound graph todo c)

include sound

theorem unmet (unknown : c.part? n = none) : n ∉ todo ++ c.waiting.toList := by
  intro member
  rw [sound.waits n member] at unknown
  cases unknown

theorem unscalar (waiting : c.part? n = some .unfilled) (tag : Tag) (text : List Sign)
    (found : graph[n]? = some (Node.mk tag (.scalar text))) (plain : tag ≠ .value)
    (single : tag.isCollection = false) : False := by
  obtain ⟨_, _, same⟩ := sound.scalar n tag text found plain single _ waiting
  cases same

theorem know (part : Part) (absent : n ∉ todo ++ c.waiting.toList)
    (whole : ∀ value, part = .whole value → value.KeysDiffer)
    (scalar : ∀ tag text, graph[n]? = some (Node.mk tag (.scalar text)) → tag ≠ .value →
      tag.isCollection = false → ∃ value, tag.read text = .ok value ∧ part = .whole (markNode n value)) :
    Sound graph todo (c.know n part) where
  keeps := sound.keeps
  size := Array.size_setIfInBounds.trans sound.size
  distinct := sound.distinct
  waits m member := by
    rw [c.part_know, if_neg]
    · exact sound.waits m member
    · rintro ⟨rfl, _⟩
      exact absent member
  whole m value known := by
    rw [c.part_know] at known
    split at known
    · exact whole value (Option.some.inj known)
    · exact sound.whole m value known
  scalar m tag text found plain single other known := by
    rw [c.part_know] at known
    split at known
    · rename_i here
      cases known
      obtain ⟨rfl, _⟩ := here
      exact scalar tag text found plain single
    · exact sound.scalar m tag text found plain single other known

theorem push (waiting : c.part? n = some .unfilled) (absent : n ∉ todo ++ c.waiting.toList) :
    Sound graph todo { c with waiting := c.waiting.push n } where
  keeps := sound.keeps
  size := sound.size
  distinct := by
    rw [Array.toList_push, ← List.append_assoc]
    refine List.nodup_append.mpr ⟨sound.distinct, List.nodup_singleton n, ?_⟩
    rintro m member other last rfl
    exact absent (List.mem_singleton.mp last ▸ member)
  waits m member := by
    rw [Array.toList_push, ← List.append_assoc] at member
    rcases List.mem_append.mp member with member | last
    · exact sound.waits m member
    · rw [List.mem_singleton.mp last]
      exact waiting
  whole := sound.whole
  scalar := sound.scalar

theorem read_denoted (value : Value) (denotes : c.graph.Denotes n value) (tag : Tag)
    (text : List Sign) (found : graph[n]? = some (Node.mk tag (.scalar text))) (plain : tag ≠ .value) :
    ∃ bare, tag.read text = .ok bare ∧ value = markNode n bare := by
  obtain ⟨now, there, scalar⟩ := sound.keeps.node n tag _ found plain
  obtain ⟨node, found_now, _, read⟩ := denotes
  rw [there, scalar text rfl] at found_now
  cases found_now
  rw [scalar text rfl] at there
  rw [c.graph.scalarValue_scalar n tag text there] at read
  obtain ⟨bare, converted, same⟩ := (map_ok_iff _ _ _).mp read
  exact ⟨bare, converted, same.symm⟩

omit sound in
theorem drop (sound : Sound graph (n :: todo) c) : Sound graph todo c :=
  ⟨sound.keeps, sound.size, (List.nodup_cons.mp sound.distinct).2,
    fun m member => sound.waits m (List.mem_cons_of_mem n member), sound.whole, sound.scalar⟩

omit sound in
theorem fill (sound : Sound graph (n :: todo) c) (part : Part) (filled : ∀ value, part ≠ .whole value) :
    Sound graph todo (c.know n part) ∧
      ∀ m other, m ≠ n → c.part? m = some other → (c.know n part).part? m = some other := by
  have waiting : c.part? n = some .unfilled := sound.waits n List.mem_cons_self
  refine ⟨sound.drop.know part (List.nodup_cons.mp sound.distinct).1 ?_ ?_, ?_⟩
  · exact fun value same => absurd same (filled value)
  · exact fun tag text found plain single =>
      (sound.unscalar waiting tag text found plain single).elim
  · intro m other apart known
    rw [c.part_know, if_neg fun here => apart here.1.symm]
    exact known

omit sound in
theorem next (sound : Sound graph [] c) :
    Sound graph (c.waiting.toList ++ []) { c with waiting := #[] } where
  keeps := sound.keeps
  size := sound.size
  distinct := by simpa using sound.distinct
  waits n member := sound.waits n (by simpa using member)
  whole := sound.whole
  scalar := sound.scalar

end Sound

namespace Met

theorem refl (sound : Sound graph todo c) : Met graph todo c c :=
  ⟨sound, fun _ _ known => known, rfl, id⟩

theorem trans (first : Met graph todo c c') (second : Met graph todo c' c'') :
    Met graph todo c c'' where
  sound := second.sound
  later n part known := second.later n part (first.later n part known)
  graph := second.graph.trans first.graph
  fresh := second.fresh ∘ first.fresh

theorem isSome (met : Met graph todo c c') (known : (c.part? n).isSome = true) :
    (c'.part? n).isSome = true := by
  obtain ⟨part, known⟩ := Option.isSome_iff_exists.mp known
  rw [met.later n part known]
  rfl

theorem fill (met : Met graph (n :: todo) c c') (part : Part) (filled : ∀ value, part ≠ .whole value) :
    Sound graph todo (c'.know n part) ∧
      ∀ m other, m ≠ n → c.part? m = some other → (c'.know n part).part? m = some other := by
  obtain ⟨sound, others⟩ := met.sound.fill part filled
  exact ⟨sound, fun m other apart known => others m other apart (met.later m other known)⟩

end Met

namespace Builder

theorem meet_met (sound : Sound graph todo c) (run : (meet n).run c = .ok ((), c')) :
    Met graph todo c c' ∧ (c'.part? n).isSome = true := by
  rcases meet_cases run with ⟨known, rfl⟩ | ⟨unknown, node, found, kind⟩
  · exact ⟨.refl sound, known⟩
  · have inside : n < c.parts.size := by
      have := (Array.getElem?_eq_some_iff.mp found).1
      rw [sound.size, ← sound.keeps.size]
      exact this
    have absent := sound.unmet unknown
    have later (part : Part) (m : Nat) (other : Part) (known : c.part? m = some other) :
        (c.know n part).part? m = some other := by
      rw [c.part_know, if_neg]
      · exact known
      · rintro ⟨rfl, _⟩
        rw [unknown] at known
        cases known
    have here (part : Part) : (c.know n part).part? n = some part := by
      rw [c.part_know, if_pos ⟨rfl, inside⟩]
    rcases kind with ⟨collects, rfl⟩ | ⟨value, denotes, rfl⟩
    · have unscalar (tag : Tag) (text : List Sign)
          (scalar : graph[n]? = some (Node.mk tag (.scalar text))) (plain : tag ≠ .value)
          (single : tag.isCollection = false) : False := by
        obtain ⟨_, there, _⟩ := sound.keeps.node n tag _ scalar plain
        rw [found] at there
        cases there
        rw [single] at collects
        cases collects
      have known := sound.know .unfilled absent nofun fun tag text scalar plain single =>
        (unscalar tag text scalar plain single).elim
      refine ⟨⟨known.push (here _) absent, later _, rfl, ?_⟩, ?_⟩
      · intro fresh m value whole
        change (c.know n .unfilled).part? m = _ at whole
        rw [c.part_know] at whole
        split at whole
        · cases whole
        · exact fresh m value whole
      · change ((c.know n .unfilled).part? n).isSome = true
        rw [here]
        rfl
    · refine ⟨⟨sound.know (.whole value) absent ?_ ?_, later _, rfl, ?_⟩, ?_⟩
      · rintro _ ⟨⟩
        exact denotes.keysDiffer
      · intro tag text scalar plain _
        obtain ⟨bare, read, same⟩ := sound.read_denoted value denotes tag text scalar plain
        exact ⟨bare, read, congrArg Part.whole same⟩
      · intro fresh m other known
        rw [c.part_know] at known
        split at known
        · rename_i there
          cases known
          exact there.1 ▸ denotes
        · exact fresh m other known
      · rw [here]
        rfl

theorem forM_met (items : List Nat) (sound : Sound graph todo c)
    (run : (items.forM meet).run c = .ok ((), c')) : Met graph todo c c' := by
  induction items generalizing c with
  | nil =>
      cases run
      exact .refl sound
  | cons item rest ih =>
      change (meet item >>= fun _ => rest.forM meet).run c = _ at run
      obtain ⟨_, between, first, others⟩ := (run_bind_ok_iff _ _ _ _).mp run
      obtain ⟨met, _⟩ := meet_met sound first
      exact met.trans (ih met.sound others)

theorem meetKey_met (sound : Sound graph todo c) (run : (meetKey n).run c = .ok ((), c')) :
    Met graph todo c c' ∧ ∃ value, c'.part? n = some (.whole value) := by
  obtain ⟨_, between, first, look⟩ := (run_bind_ok_iff _ _ _ _).mp run
  obtain ⟨met, _⟩ := meet_met sound first
  have known : (part? n).run between = .ok (between.part? n, between) := rfl
  rw [StateT.run_bind, known] at look
  cases here : between.part? n with
  | none =>
      rw [here] at look
      cases look
  | some part =>
      rw [here] at look
      cases part with
      | whole value =>
          cases look
          exact ⟨met, value, here⟩
      | _ => cases look

theorem meetPair_met (pair : Nat × Nat) (sound : Sound graph todo c)
    (run : (meetPair n).run c = .ok (pair, c')) : Met graph todo c c' := by
  unfold meetPair at run
  obtain ⟨_, _, here, run⟩ := (run_bind_ok_iff _ _ _ _).mp run
  cases here
  split at run
  · obtain ⟨_, between, first, others⟩ := (run_bind_ok_iff _ _ _ _).mp run
    obtain ⟨_, last, second, done⟩ := (run_bind_ok_iff _ _ _ _).mp others
    cases done
    obtain ⟨met, _⟩ := meet_met sound first
    obtain ⟨met_second, _⟩ := meet_met met.sound second
    exact met.trans met_second
  · cases run

theorem pairs_met (items : List Nat) (pairs : List (Nat × Nat)) (sound : Sound graph todo c)
    (run : (items.mapM meetPair).run c = .ok (pairs, c')) : Met graph todo c c' := by
  induction items generalizing c pairs with
  | nil =>
      cases run
      exact .refl sound
  | cons item rest ih =>
      rw [List.mapM_cons] at run
      obtain ⟨pair, between, first, others⟩ := (run_bind_ok_iff _ _ _ _).mp run
      obtain ⟨more, last, run_rest, done⟩ := (run_bind_ok_iff _ _ _ _).mp others
      cases done
      have met := meetPair_met pair sound first
      exact met.trans (ih more met.sound run_rest)

theorem entries_met (entries : List (Nat × Nat)) (sound : Sound graph todo c)
    (run : (forIn entries PUnit.unit fun entry _ => do
      meetKey entry.1
      meet entry.2
      pure (ForInStep.yield PUnit.unit) : Builder PUnit).run c = .ok (PUnit.unit, c')) :
    Met graph todo c c' ∧ ∀ entry ∈ entries,
      (∃ value, c'.part? entry.1 = some (.whole value)) ∧ (c'.part? entry.2).isSome = true := by
  induction entries generalizing c with
  | nil =>
      cases run
      exact ⟨.refl sound, nofun⟩
  | cons entry rest ih =>
      rw [List.forIn_cons] at run
      obtain ⟨_, second, step, others⟩ := (run_bind_ok_iff _ _ _ _).mp run
      obtain ⟨_, first, key, step⟩ := (run_bind_ok_iff _ _ _ _).mp step
      obtain ⟨_, last, value, done⟩ := (run_bind_ok_iff _ _ _ _).mp step
      cases done
      obtain ⟨met, whole, known_key⟩ := meetKey_met sound key
      obtain ⟨met_value, known⟩ := meet_met met.sound value
      obtain ⟨met_rest, all⟩ := ih met_value.sound others
      refine ⟨(met.trans met_value).trans met_rest, fun other member => ?_⟩
      rcases List.mem_cons.mp member with rfl | member
      · exact ⟨⟨whole, met_rest.later _ _ (met_value.later _ _ known_key)⟩, met_rest.isSome known⟩
      · exact all other member

theorem meetEntries_met (entries : List (Nat × Nat)) (sound : Sound graph todo c)
    (run : (meetEntries n).run c = .ok (entries, c')) :
    ∃ flat, c.graph.flatten c.graph.size n = .ok flat ∧ entries = (flat.entries? n).getD [] ∧
      Met graph todo { c with graph := flat } c' ∧ ∀ entry ∈ entries,
        (∃ value, c'.part? entry.1 = some (.whole value)) ∧ (c'.part? entry.2).isSome = true := by
  unfold meetEntries at run
  obtain ⟨_, _, here, flattened⟩ := (run_bind_ok_iff _ _ _ _).mp run
  cases here
  obtain ⟨flat, _, lifted, rest⟩ := (run_bind_ok_iff _ _ _ _).mp flattened
  cases flatten : c.graph.flatten c.graph.size n with
  | error fault =>
      rw [flatten] at lifted
      cases lifted
  | ok other =>
      rw [flatten] at lifted
      cases lifted
      obtain ⟨_, _, changed, rest⟩ := (run_bind_ok_iff _ _ _ _).mp rest
      cases changed
      obtain ⟨_, _, met, done⟩ := (run_bind_ok_iff _ _ _ _).mp rest
      cases done
      have keeps := sound.keeps.trans (Graph.flatten_careful _ c.graph n flat flatten).1
      have sound_flat : Sound graph todo { c with graph := flat } :=
        ⟨keeps, sound.size, sound.distinct, sound.waits, sound.whole, sound.scalar⟩
      exact ⟨flat, rfl, rfl, entries_met _ sound_flat met⟩

theorem itemsOf_run (items : List Nat) (run : (itemsOf n).run c = .ok (items, c')) : c = c' := by
  unfold itemsOf at run
  obtain ⟨_, _, here, run⟩ := (run_bind_ok_iff _ _ _ _).mp run
  cases here
  split at run
  · cases run
    rfl
  · cases run

/-- What becomes of a construction when a collection is filled: only what is known of the collection
changes. -/
theorem fill_sound (sound : Sound graph (n :: todo) c) (run : (fill n).run c = .ok ((), c')) :
    Sound graph todo c' ∧
      ∀ m part, m ≠ n → c.part? m = some part → c'.part? m = some part := by
  unfold fill at run
  obtain ⟨_, _, here, run⟩ := (run_bind_ok_iff _ _ _ _).mp run
  cases here
  have paired (run_pairs : (itemsOf n >>= fun items => items.mapM meetPair >>= fun pairs =>
      setPart n (.pairs pairs)).run c = .ok ((), c')) :
      Sound graph todo c' ∧ ∀ m other, m ≠ n → c.part? m = some other → c'.part? m = some other := by
    obtain ⟨items, _, look, run_pairs⟩ := (run_bind_ok_iff _ _ _ _).mp run_pairs
    obtain rfl := itemsOf_run items look
    obtain ⟨pairs, between, each, run_pairs⟩ := (run_bind_ok_iff _ _ _ _).mp run_pairs
    cases run_pairs
    exact (pairs_met items pairs sound each).fill _ nofun
  split at run
  · obtain ⟨items, _, look, run⟩ := (run_bind_ok_iff _ _ _ _).mp run
    obtain rfl := itemsOf_run items look
    obtain ⟨_, between, each, run⟩ := (run_bind_ok_iff _ _ _ _).mp run
    cases run
    exact (forM_met items sound each).fill _ nofun
  · obtain ⟨entries, between, each, run⟩ := (run_bind_ok_iff _ _ _ _).mp run
    cases run
    obtain ⟨flat, _, _, met, _⟩ := meetEntries_met entries sound each
    exact met.fill _ nofun
  · obtain ⟨entries, between, each, run⟩ := (run_bind_ok_iff _ _ _ _).mp run
    cases run
    obtain ⟨flat, _, _, met, _⟩ := meetEntries_met entries sound each
    exact met.fill _ nofun
  · exact paired run
  · exact paired run
  · cases run
    exact ⟨sound.drop, fun _ _ _ known => known⟩

theorem fills_sound (sound : Sound graph (todo ++ rest) c)
    (run : (todo.forM fill).run c = .ok ((), c')) :
    Sound graph rest c' ∧ ∀ m part, m ∉ todo → c.part? m = some part → c'.part? m = some part := by
  induction todo generalizing c with
  | nil =>
      cases run
      exact ⟨sound, fun _ _ _ known => known⟩
  | cons item others ih =>
      change (fill item >>= fun _ => others.forM fill).run c = _ at run
      obtain ⟨_, between, first, run⟩ := (run_bind_ok_iff _ _ _ _).mp run
      obtain ⟨sound_first, later⟩ := fill_sound sound first
      obtain ⟨sound_rest, later_rest⟩ := ih sound_first run
      refine ⟨sound_rest, fun m part absent known => later_rest m part ?_ (later m part ?_ known)⟩
      · exact fun member => absent (List.mem_cons_of_mem item member)
      · rintro rfl
        exact absent List.mem_cons_self

theorem fillLevels_sound (fuel : Nat) (sound : Sound graph [] c)
    (run : (fillLevels fuel).run c = .ok ((), c')) :
    Sound graph [] c' ∧
      ∀ m part, part ≠ .unfilled → c.part? m = some part → c'.part? m = some part := by
  induction fuel generalizing c with
  | zero =>
      cases run
      exact ⟨sound, fun _ _ _ known => known⟩
  | succ fuel ih =>
      obtain ⟨_, _, here, run⟩ := (run_bind_ok_iff _ _ _ _).mp run
      cases here
      change StateT.run (if c.waiting.isEmpty = true then _ else _) c = _ at run
      split at run
      · cases run
        exact ⟨sound, fun _ _ _ known => known⟩
      · obtain ⟨_, _, emptied, run⟩ := (run_bind_ok_iff _ _ _ _).mp run
        cases emptied
        obtain ⟨_, between, each, run⟩ := (run_bind_ok_iff _ _ _ _).mp run
        obtain ⟨sound_level, later⟩ := fills_sound sound.next each
        obtain ⟨sound_rest, later_rest⟩ := ih sound_level run
        refine ⟨sound_rest, fun m part filled known => later_rest m part filled ?_⟩
        refine later m part (fun waits => filled ?_) known
        have waiting := sound.waits m waits
        rw [known] at waiting
        exact Option.some.inj waiting

end Builder

end

section

variable (values : Array Value)

theorem known_keysDiffer (differ : ∀ value ∈ values, value.KeysDiffer) (n : Nat) :
    (Part.value.known values n).KeysDiffer := by
  unfold Part.value.known
  cases found : values[n]? with
  | none => exact Value.eachMap_leaf _ rfl nofun
  | some value => exact differ value (Array.mem_of_getElem? found)

theorem part_keysDiffer (differ : ∀ value ∈ values, value.KeysDiffer) (part : Part)
    (whole : ∀ value, part = .whole value → value.KeysDiffer) : (part.value values).KeysDiffer := by
  have known := known_keysDiffer values differ
  cases part with
  | whole value => exact whole value rfl
  | unfilled => exact Value.eachMap_leaf _ rfl nofun
  | list items =>
      refine Value.eachMap_of_children _ (by rintro _ ⟨⟩) fun child inside => ?_
      obtain ⟨item, _, rfl⟩ := List.mem_map.mp inside
      exact known item
  | pairs entries =>
      refine Value.eachMap_of_children _ (by rintro _ ⟨⟩) fun child inside => ?_
      obtain ⟨entry, _, rfl⟩ := List.mem_map.mp inside
      refine Value.eachMap_of_children _ (by rintro _ ⟨⟩) fun child inside => ?_
      simp only [Value.children, List.mem_cons, List.not_mem_nil, or_false] at inside
      rcases inside with rfl | rfl
      · exact known entry.1
      · exact known entry.2
  | set items =>
      refine Value.eachMap_of_children _ (by rintro _ ⟨⟩) fun child inside => ?_
      obtain ⟨entry, member, rfl⟩ := List.mem_map.mp inside
      have key := (Value.mem_entriesOf _ entry member).1
      rw [List.map_map, List.map_map] at key
      obtain ⟨item, _, same⟩ := List.mem_map.mp key
      exact same ▸ known item
  | map entries =>
      refine (Value.eachMap_map_iff _).mpr ⟨Value.entriesOf_apart _, fun entry member => ?_⟩
      have value := (Value.mem_entriesOf _ entry member).2
      rw [List.map_map] at value
      obtain ⟨other, _, same⟩ := List.mem_map.mp value
      exact same ▸ known other.2

end

namespace Construction

def valuesOf (parts : List (Option Part)) : Array Value :=
  parts.foldl (fun values part? => values.push ((part?.map (·.value values)).getD .null)) #[]

theorem valuesOf_concat (parts : List (Option Part)) (part : Option Part) :
    valuesOf (parts ++ [part]) =
      (valuesOf parts).push ((part.map (·.value (valuesOf parts))).getD .null) := by
  simp [valuesOf]

theorem values_eq (c : Construction) : c.values = valuesOf c.parts.toList := by
  rw [values, valuesOf, Array.foldl_toList]

theorem valuesOf_keysDiffer (parts : List (Option Part))
    (whole : ∀ value, some (.whole value) ∈ parts → value.KeysDiffer) :
    ∀ value ∈ valuesOf parts, value.KeysDiffer := by
  induction parts using List.reverseRecOn with
  | nil => exact nofun
  | append_singleton before part ih =>
      have differ := ih fun value member => whole value (List.mem_append_left _ member)
      intro value member
      rw [valuesOf_concat] at member
      rcases Array.mem_push.mp member with member | rfl
      · exact differ value member
      · cases part with
        | none => exact Value.eachMap_leaf _ rfl nofun
        | some part =>
            refine part_keysDiffer _ differ part fun value same => whole value ?_
            exact List.mem_append_right _ (List.mem_singleton.mpr (congrArg some same.symm))

end Construction

def Graph.start (graph : Graph) : Construction :=
  { graph, parts := Array.replicate graph.size none }

theorem Graph.start_unknown (graph : Graph) (n : Nat) : graph.start.part? n = none := by
  simp only [Construction.part?, start, Array.getElem?_replicate]
  split <;> rfl

theorem Graph.start_sound (graph : Graph) : Sound graph [] graph.start where
  keeps := .refl graph
  size := Array.size_replicate
  distinct := List.nodup_nil
  waits := nofun
  whole n value known := by
    rw [graph.start_unknown] at known
    cases known
  scalar n tag text _ _ _ part known := by
    rw [graph.start_unknown] at known
    cases known

/-- The value of a graph is put together in two parts: its root is met, and what waits is filled. -/
theorem Graph.value_run (graph : Graph) (root : Nat) (value : Value)
    (built : graph.value root = .ok value) :
    ∃ c c', (Builder.meet root).run graph.start = .ok ((), c) ∧
      (Builder.fillLevels (graph.size + 1)).run c = .ok ((), c') ∧
      c'.values[root]?.getD .null = value := by
  obtain ⟨⟨_, c'⟩, run, done⟩ := (bind_ok_iff _ _ _).mp built
  obtain ⟨_, c, first, rest⟩ := (run_bind_ok_iff _ _ _ _).mp run
  cases done
  exact ⟨c, c', first, rest, rfl⟩

theorem load_keysDiffer (schema : Schema) (text : List Char) (value : Value)
    (loaded : load schema text = .ok value) : value.KeysDiffer := by
  obtain ⟨read, _, rest⟩ := (bind_ok_iff _ _ _).mp loaded
  cases read with
  | none =>
      cases rest
      exact Value.eachMap_leaf _ rfl nofun
  | some document =>
      obtain ⟨_, c, first, others, rfl⟩ := Graph.value_run _ _ value rest
      obtain ⟨met, _⟩ := Builder.meet_met (Graph.start_sound _) first
      obtain ⟨sound, _⟩ := Builder.fillLevels_sound _ met.sound others
      have differ : ∀ value ∈ c.values, value.KeysDiffer := by
        rw [c.values_eq]
        refine Construction.valuesOf_keysDiffer _ fun value member => ?_
        obtain ⟨n, found⟩ := List.mem_iff_getElem?.mp member
        refine sound.whole n value ?_
        rw [Construction.part?, ← Array.getElem?_toList, found]
        rfl
      exact known_keysDiffer c.values differ document.2

end DocFinder.Yaml
