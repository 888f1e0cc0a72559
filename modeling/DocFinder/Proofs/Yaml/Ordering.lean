import DocFinder.Proofs.Attempts
import DocFinder.Proofs.Yaml.Flattening
import DocFinder.Yaml.Node.Reader

namespace DocFinder.Yaml

structure Reading.Grown (reading : Reading) : Prop where
  ordered : reading.graph.Ordered
  anchors : ∀ name n, (name, some n) ∈ reading.anchors → n < reading.graph.size

/-- A reader that only adds nodes to a graph of some size, and gives what fits the size after it. -/
def Grows {α : Type} (least : Nat) (reader : Reader α) (fits : α → Nat → Prop) : Prop :=
  ∀ reading : Reading, reading.Grown → least ≤ reading.graph.size →
    ∀ value next, reader.run reading = .ok (value, next) →
      next.Grown ∧ reading.graph.size ≤ next.graph.size ∧ fits value next.graph.size

def Below (nodes : List Nat) (size : Nat) : Prop := ∀ n ∈ nodes, n < size

def EntriesBelow (entries : List (Nat × Nat)) (size : Nat) : Prop :=
  ∀ entry ∈ entries, entry.1 < size ∧ entry.2 < size

namespace Grows

variable {α β : Type} {least : Nat} {reader : Reader α} {fits fits_less : α → Nat → Prop}

theorem bind {next : α → Reader β} {fits_then : β → Nat → Prop} (first : Grows least reader fits)
    (second : ∀ value size, least ≤ size → fits value size → Grows size (next value) fits_then) :
    Grows least (reader >>= next) fits_then := by
  intro reading grown enough value last run
  obtain ⟨middle, between, run_first, run_second⟩ := (run_bind_ok_iff _ _ _ _).mp run
  obtain ⟨grown_between, more, fit⟩ := first reading grown enough middle between run_first
  obtain ⟨grown_last, most, fit_last⟩ :=
    second middle _ (Nat.le_trans enough more) fit between grown_between (Nat.le_refl _) value last
      run_second
  exact ⟨grown_last, Nat.le_trans more most, fit_last⟩

theorem tell (grows : Grows least reader fits)
    (less : ∀ value size, fits value size → fits_less value size) : Grows least reader fits_less := by
  intro reading grown enough value next run
  obtain ⟨grown_next, more, fit⟩ := grows reading grown enough value next run
  exact ⟨grown_next, more, less value _ fit⟩

theorem pure (value : α) (fit : ∀ size, least ≤ size → fits value size) :
    Grows least (Pure.pure value : Reader α) fits := by
  intro reading grown enough _ _ run
  cases run
  exact ⟨grown, Nat.le_refl _, fit _ enough⟩

theorem throw (fault : Fault) : Grows least (MonadExcept.throw fault : Reader α) fits :=
  fun _ _ _ _ _ run => nomatch run

theorem fail : Grows least (Reader.fail : Reader α) fits := .throw _

theorem get {next : Reading → Reader α}
    (grows : ∀ reading, reading.Grown → least ≤ reading.graph.size →
      Grows reading.graph.size (next reading) fits) :
    Grows least (MonadState.get >>= next) fits :=
  fun reading grown enough =>
    grows reading grown enough reading grown (Nat.le_refl _)

theorem changed (change : Reading → Reading) (graph : ∀ reading, (change reading).graph = reading.graph)
    (anchors : ∀ reading, (change reading).anchors = reading.anchors) :
    Grows least (modify change : Reader Unit) fun _ _ => True := by
  intro reading grown _ _ _ run
  cases run
  rw [graph reading]
  refine ⟨⟨?_, ?_⟩, Nat.le_refl _, trivial⟩
  · rw [graph reading]
    exact grown.ordered
  · rw [graph reading, anchors reading]
    exact grown.anchors

theorem peek : Grows least Reader.peek fun _ _ => True := by
  refine get fun reading _ _ => ?_
  cases reading.tokens with
  | nil => exact .throw _
  | cons token rest => exact .pure _ fun _ _ => trivial

theorem drop : Grows least Reader.drop fun _ _ => True :=
  changed _ (fun _ => rfl) fun _ => rfl

theorem nextIs (token : Token) : Grows least (Reader.nextIs token) fun _ _ => True :=
  peek.bind fun _ _ _ _ => .pure _ fun _ _ => trivial

theorem nextIsOneOf (tokens : List Token) :
    Grows least (Reader.nextIsOneOf tokens) fun _ _ => True :=
  peek.bind fun _ _ _ _ => .pure _ fun _ _ => trivial

theorem accept (token : Token) : Grows least (Reader.accept token) fun _ _ => True := by
  refine (nextIs token).bind fun there _ _ _ => ?_
  split
  · exact drop.bind fun _ _ _ _ => .pure _ fun _ _ => trivial
  · exact .pure _ fun _ _ => trivial

theorem expect (token : Token) : Grows least (Reader.expect token) fun _ _ => True := by
  refine (accept token).bind fun there _ _ _ => ?_
  split
  · exact .fail
  · exact .pure _ fun _ _ => trivial

theorem add (node : Node) (below : Below node.content.nodes least) :
    Grows least (Yaml.add node) fun n size => n < size := by
  intro reading grown enough value next run
  cases run
  refine ⟨⟨?_, ?_⟩, ?_, ?_⟩
  · intro n other found m inside
    rw [Array.getElem?_push] at found
    split at found
    · rename_i last
      cases found
      exact last ▸ Nat.lt_of_lt_of_le (below m inside) enough
    · exact grown.ordered n other found m inside
  · intro name n member
    exact Nat.lt_of_lt_of_le (grown.anchors name n member) (by simp)
  · simp
  · simp

theorem blank : Grows least Yaml.blank fun n size => n < size :=
  get fun _ _ _ => add _ nofun

theorem scalarNode (tag : Option (List Char)) (text : List Sign) (plain : Bool) :
    Grows least (Yaml.scalarNode tag text plain) fun n size => n < size := by
  refine get fun _ _ _ => ?_
  cases tag with
  | none => exact add _ nofun
  | some _ => exact add _ nofun

theorem setAnchor (anchor : Option (List Char)) (node : Option Nat)
    (there : ∀ n, node = some n → n < least) :
    Grows least (Yaml.setAnchor anchor node) fun _ _ => True := by
  cases anchor with
  | none => exact .pure _ fun _ _ => trivial
  | some name =>
      intro reading grown enough _ _ run
      cases run
      refine ⟨⟨grown.ordered, fun other n member => ?_⟩, Nat.le_refl _, trivial⟩
      rcases List.mem_cons.mp member with same | member
      · cases same
        exact Nat.lt_of_lt_of_le (there n rfl) enough
      · exact grown.anchors other n member

theorem checkAnchor (anchor : Option (List Char)) :
    Grows least (Yaml.checkAnchor anchor) fun _ _ => True := by
  cases anchor with
  | none => exact .pure _ fun _ _ => trivial
  | some name =>
      refine get fun reading _ _ => ?_
      split
      · exact .fail
      · exact .pure _ fun _ _ => trivial

theorem tagName (handle : Option (List Char)) (suffix : List Char) :
    Grows least (Yaml.tagName handle suffix) fun _ _ => True := by
  cases handle with
  | none => exact .pure _ fun _ _ => trivial
  | some name =>
      refine get fun reading _ _ => ?_
      split
      · exact .pure _ fun _ _ => trivial
      · exact .fail

theorem properties : Grows least Yaml.properties fun _ _ => True := by
  refine peek.bind fun token _ _ _ => ?_
  split
  · refine drop.bind fun _ _ _ _ => peek.bind fun other _ _ _ => ?_
    split
    · exact drop.bind fun _ _ _ _ => .pure _ fun _ _ => trivial
    · exact .pure _ fun _ _ => trivial
  · refine drop.bind fun _ _ _ _ => peek.bind fun other _ _ _ => ?_
    split
    · exact drop.bind fun _ _ _ _ => .pure _ fun _ _ => trivial
    · exact .pure _ fun _ _ => trivial
  · exact .pure _ fun _ _ => trivial

theorem cons {item : Nat} {more : Reader (List Nat)} (below : item < least)
    (others : Grows least more Below) :
    Grows least (do return item :: (← more)) Below := by
  refine others.bind fun rest size enough each => .pure _ fun last grown => ?_
  intro n member
  rcases List.mem_cons.mp member with rfl | member
  · exact Nat.lt_of_lt_of_le below (Nat.le_trans enough grown)
  · exact Nat.lt_of_lt_of_le (each n member) grown

theorem consEntry {key value : Nat} {more : Reader (List (Nat × Nat))} (key_below : key < least)
    (value_below : value < least) (others : Grows least more EntriesBelow) :
    Grows least (do return (key, value) :: (← more)) EntriesBelow := by
  refine others.bind fun rest size enough each => .pure _ fun last grown => ?_
  intro entry member
  have enough := Nat.le_trans enough grown
  rcases List.mem_cons.mp member with rfl | member
  · exact ⟨Nat.lt_of_lt_of_le key_below enough, Nat.lt_of_lt_of_le value_below enough⟩
  · exact ⟨Nat.lt_of_lt_of_le (each entry member).1 grown,
      Nat.lt_of_lt_of_le (each entry member).2 grown⟩

theorem unlessFirst (first : Bool) (token : Token) {rest : Unit → Reader α}
    (grows : ∀ least, Grows least (rest ()) fits) :
    Grows least (if (!first) = true then Reader.expect token >>= rest else rest ()) fits := by
  split
  · exact (expect token).bind fun _ size _ _ => grows size
  · exact grows least

theorem failIf (wrong : Bool) {rest : Unit → Reader α} (grows : ∀ least, Grows least (rest ()) fits) :
    Grows least (if wrong = true then Reader.fail >>= rest else rest ()) fits := by
  split
  · exact fun _ _ _ _ _ run => nomatch run
  · exact grows least

theorem tagged (written : Option (Option (List Char) × List Char))
    {rest : Option (List Char) → Reader α} (grows : ∀ tag least, Grows least (rest tag) fits) :
    Grows least (match written with
      | none => Pure.pure none >>= rest
      | some (handle, suffix) => do
        let name ← Yaml.tagName handle suffix
        Pure.pure (some name) >>= rest) fits := by
  cases written with
  | none => exact grows none least
  | some tag => exact (tagName tag.1 tag.2).bind fun name size _ _ => grows (some name) size

theorem named {reader : Reader Nat} (anchor : Option (List Char))
    (grows : Grows least reader fun n size => n < size) :
    Grows least (do
      let n ← reader
      Yaml.setAnchor anchor (some n)
      return n) fun n size => n < size := by
  refine grows.bind fun n size _ there => (setAnchor anchor (some n) ?_).bind fun _ _ more _ =>
    .pure _ fun _ most => ?_
  · rintro _ ⟨⟩
    exact there
  · exact Nat.lt_of_lt_of_le there (Nat.le_trans more most)

theorem collection {parts : Reader α} (anchor : Option (List Char)) (node : α → Node)
    (grows : ∀ least, Grows least parts fun given size => Below (node given).content.nodes size) :
    Grows least (do
      Yaml.setAnchor anchor none
      let n ← Yaml.add (node (← parts))
      Yaml.setAnchor anchor (some n)
      return n) fun n size => n < size :=
  (setAnchor anchor none nofun).bind fun _ size _ _ => (grows size).bind fun _ _ _ below =>
    named anchor (add _ below)

end Grows

theorem below_entries (entries : List (Nat × Nat)) (size : Nat) (below : EntriesBelow entries size) :
    Below (Content.mapping entries).nodes size := by
  intro n inside
  obtain ⟨⟨key, value⟩, member, either⟩ := List.mem_flatMap.mp inside
  have both := below _ member
  simp only [List.mem_cons, List.not_mem_nil, or_false] at either
  rcases either with rfl | rfl
  · exact both.1
  · exact both.2

structure AllGrow (fuel : Nat) : Prop where
  node : ∀ least block indentless, Grows least (node fuel block indentless) fun n size => n < size
  blockSequence : ∀ least, Grows least (blockSequence fuel) Below
  indentlessSequence : ∀ least, Grows least (indentlessSequence fuel) Below
  blockMapping : ∀ least, Grows least (blockMapping fuel) EntriesBelow
  blockPart : ∀ least, Grows least (blockPart fuel) fun n size => n < size
  flowPart : ∀ least ends, Grows least (flowPart ends fuel) fun n size => n < size
  flowSequence : ∀ least first, Grows least (flowSequence fuel first) Below
  flowMapping : ∀ least first, Grows least (flowMapping fuel first) EntriesBelow

namespace AllGrow

variable {fuel : Nat} (all : AllGrow fuel) (least : Nat)

include all

theorem blockSequence_succ : Grows least (Yaml.blockSequence (fuel + 1)) Below := by
  rw [Yaml.blockSequence]
  refine (Grows.accept _).bind fun more _ _ _ => ?_
  split
  · refine (Grows.nextIsOneOf _).bind fun nothing _ _ _ => ?_
    have rest (item size : Nat) (below : item < size) := Grows.cons below (all.blockSequence size)
    split
    · exact Grows.blank.bind fun item size _ below => rest item size below
    · exact (all.node _ _ _).bind fun item size _ below => rest item size below
  · exact (Grows.expect _).bind fun _ _ _ _ => .pure _ fun _ _ => nofun

theorem indentlessSequence_succ : Grows least (Yaml.indentlessSequence (fuel + 1)) Below := by
  rw [Yaml.indentlessSequence]
  refine (Grows.accept _).bind fun more _ _ _ => ?_
  split
  · refine (Grows.nextIsOneOf _).bind fun nothing _ _ _ => ?_
    have rest (item size : Nat) (below : item < size) := Grows.cons below (all.indentlessSequence size)
    split
    · exact Grows.blank.bind fun item size _ below => rest item size below
    · exact (all.node _ _ _).bind fun item size _ below => rest item size below
  · exact .pure _ fun _ _ => nofun

theorem blockMapping_succ : Grows least (Yaml.blockMapping (fuel + 1)) EntriesBelow := by
  rw [Yaml.blockMapping]
  refine (Grows.accept _).bind fun more _ _ _ => ?_
  split
  · refine (all.blockPart _).bind fun key _ _ key_below =>
      (Grows.accept _).bind fun valued between more _ => ?_
    have rest (value size : Nat) (enough : between ≤ size) (below : value < size) :=
      Grows.consEntry (Nat.lt_of_lt_of_le key_below (Nat.le_trans more enough)) below
        (all.blockMapping size)
    split
    · exact (all.blockPart _).bind fun value size enough below => rest value size enough below
    · exact Grows.blank.bind fun value size enough below => rest value size enough below
  · exact (Grows.expect _).bind fun _ _ _ _ => .pure _ fun _ _ => nofun

theorem blockPart_succ : Grows least (Yaml.blockPart (fuel + 1)) fun n size => n < size := by
  rw [Yaml.blockPart]
  refine (Grows.nextIsOneOf _).bind fun nothing _ _ _ => ?_
  split
  · exact .blank
  · exact all.node _ _ _

theorem flowPart_succ (ends : List Token) :
    Grows least (Yaml.flowPart ends (fuel + 1)) fun n size => n < size := by
  rw [Yaml.flowPart]
  refine (Grows.nextIsOneOf _).bind fun nothing _ _ _ => ?_
  split
  · exact .blank
  · exact all.node _ _ _

theorem flowSequence_succ (first : Bool) :
    Grows least (Yaml.flowSequence (fuel + 1) first) Below := by
  rw [Yaml.flowSequence]
  refine (Grows.accept _).bind fun ended _ _ _ => ?_
  split
  · exact .pure _ fun _ _ => nofun
  · refine Grows.unlessFirst _ _ fun size => (Grows.accept _).bind fun keyed _ _ _ => ?_
    split
    · refine (all.flowPart _ _).bind fun key _ _ key_below =>
        (Grows.accept _).bind fun valued between more _ => ?_
      have rest (value size : Nat) (enough : between ≤ size) (below : value < size) :
          Grows size (do
            let item ← Yaml.add ⟨.map, .mapping [(key, value)]⟩
            return item :: (← Yaml.flowSequence fuel false)) Below := by
        have pair : EntriesBelow [(key, value)] size := by
          intro entry member
          obtain rfl := List.mem_singleton.mp member
          exact ⟨Nat.lt_of_lt_of_le key_below (Nat.le_trans more enough), below⟩
        exact (Grows.add _ (below_entries _ size pair)).bind fun item size _ item_below =>
          Grows.cons item_below (all.flowSequence size false)
      split
      · exact (all.flowPart _ _).bind fun value size enough below => rest value size enough below
      · exact Grows.blank.bind fun value size enough below => rest value size enough below
    · refine (Grows.accept _).bind fun ended _ _ _ => ?_
      split
      · exact .pure _ fun _ _ => nofun
      · exact (all.node _ _ _).bind fun item size _ below =>
          Grows.cons below (all.flowSequence size false)

theorem flowMapping_succ (first : Bool) :
    Grows least (Yaml.flowMapping (fuel + 1) first) EntriesBelow := by
  rw [Yaml.flowMapping]
  refine (Grows.accept _).bind fun ended _ _ _ => ?_
  split
  · exact .pure _ fun _ _ => nofun
  · refine Grows.unlessFirst _ _ fun size => (Grows.accept _).bind fun keyed _ _ _ => ?_
    split
    · refine (all.flowPart _ _).bind fun key _ _ key_below =>
        (Grows.accept _).bind fun valued between more _ => ?_
      have rest (value size : Nat) (enough : between ≤ size) (below : value < size) :=
        Grows.consEntry (Nat.lt_of_lt_of_le key_below (Nat.le_trans more enough)) below
          (all.flowMapping size false)
      split
      · exact (all.flowPart _ _).bind fun value size enough below => rest value size enough below
      · exact Grows.blank.bind fun value size enough below => rest value size enough below
    · refine (Grows.accept _).bind fun ended _ _ _ => ?_
      split
      · exact .pure _ fun _ _ => nofun
      · exact (all.node _ _ _).bind fun key _ _ key_below =>
          Grows.blank.bind fun value size enough below =>
            Grows.consEntry (Nat.lt_of_lt_of_le key_below enough) below (all.flowMapping size false)

theorem node_succ (block indentless : Bool) :
    Grows least (Yaml.node (fuel + 1) block indentless) fun n size => n < size := by
  rw [Yaml.node]
  refine Grows.peek.bind fun token _ _ _ => ?_
  split
  · refine Grows.drop.bind fun _ _ _ _ => .get fun reading grown _ => ?_
    split
    · rename_i n found
      obtain ⟨before, after, parts, _⟩ :=
        List.lookup_eq_some_iff.mp (Option.join_eq_some_iff.mp found)
      have named : (_, some n) ∈ reading.anchors :=
        parts ▸ List.mem_append_right before List.mem_cons_self
      exact .pure n fun size enough => Nat.lt_of_lt_of_le (grown.anchors _ n named) enough
    · exact .fail
  · refine Grows.properties.bind fun (anchor, written) _ _ _ => ?_
    refine Grows.tagged written fun tag _ => Grows.peek.bind fun token _ _ _ =>
      (Grows.checkAnchor anchor).bind fun _ _ _ _ => ?_
    split
    · exact .collection anchor _ fun least => all.indentlessSequence least
    · split
      · exact Grows.drop.bind fun _ _ _ _ => .named anchor (.scalarNode _ _ _)
      · exact Grows.drop.bind fun _ _ _ _ =>
          .collection anchor _ fun least => all.flowSequence least true
      · exact Grows.drop.bind fun _ _ _ _ =>
          .collection anchor _ fun least =>
            (all.flowMapping least true).tell fun entries size => below_entries entries size
      · exact Grows.drop.bind fun _ _ _ _ =>
          .collection anchor _ fun least => all.blockSequence least
      · exact Grows.drop.bind fun _ _ _ _ =>
          .collection anchor _ fun least =>
            (all.blockMapping least).tell fun entries size => below_entries entries size
      · exact .failIf _ fun _ => .named anchor (.scalarNode _ _ _)

end AllGrow

theorem allGrow (fuel : Nat) : AllGrow fuel := by
  induction fuel with
  | zero =>
      exact ⟨fun _ _ _ => .fail, fun _ => .fail, fun _ => .fail, fun _ => .fail, fun _ => .fail,
        fun _ _ => .fail, fun _ _ => .fail, fun _ _ => .fail⟩
  | succ fuel ih =>
      exact ⟨ih.node_succ, ih.blockSequence_succ, ih.indentlessSequence_succ, ih.blockMapping_succ,
        ih.blockPart_succ, ih.flowPart_succ, ih.flowSequence_succ, ih.flowMapping_succ⟩

namespace Grows

variable {least : Nat}

/-- A change to a reading beside its graph and its names, unless something is wrong with it. -/
theorem changedUnless {α : Type} {fits : α → Nat → Prop} (wrong : Reading → Bool)
    (change : Reading → Reading) (graph : ∀ reading, (change reading).graph = reading.graph)
    (anchors : ∀ reading, (change reading).anchors = reading.anchors) {rest : Unit → Reader α}
    (grows : ∀ least, Grows least (rest ()) fits) :
    Grows least (do
      let reading ← MonadState.get
      if wrong reading = true then Reader.fail >>= fun (_ : Unit) => set (change reading) >>= rest
      else set (change reading) >>= rest) fits := by
  intro reading grown enough value next run
  change StateT.run (if wrong reading = true then _ else _) reading = _ at run
  split at run
  · cases run
  · obtain ⟨_, _, changed, run⟩ := (run_bind_ok_iff _ _ _ _).mp run
    cases changed
    have grown_changed : (change reading).Grown :=
      ⟨graph reading ▸ grown.ordered, graph reading ▸ anchors reading ▸ grown.anchors⟩
    have outcome := grows least (change reading) grown_changed (graph reading ▸ enough) value next run
    rwa [graph reading] at outcome

theorem directives (fuel : Nat) (versioned : Bool) :
    Grows least (Yaml.directives fuel versioned) fun _ _ => True := by
  induction fuel generalizing least versioned with
  | zero => exact .fail
  | succ fuel ih =>
      rw [Yaml.directives]
      refine peek.bind fun token _ _ _ => ?_
      split
      · exact .failIf _ fun _ => drop.bind fun _ _ _ _ => ih true
      · refine .changedUnless (fun reading => (reading.handles.lookup _).isSome) _ ?_ ?_ fun _ => ?_
        · exact fun _ => rfl
        · exact fun _ => rfl
        · exact ih versioned
      · exact drop.bind fun _ _ _ _ => ih versioned
      · exact .pure _ fun _ _ => trivial

theorem skipDocumentEnds (fuel : Nat) :
    Grows least (Yaml.skipDocumentEnds fuel) fun _ _ => True := by
  induction fuel generalizing least with
  | zero => exact .fail
  | succ fuel ih =>
      rw [Yaml.skipDocumentEnds]
      refine (accept _).bind fun ended _ _ _ => ?_
      split
      · exact ih
      · exact .pure _ fun _ _ => trivial

theorem close (fuel root : Nat) (below : root < least) :
    Grows least (document.close fuel root) fun root? size => ∀ n, root? = some n → n < size := by
  rw [document.close]
  refine (skipDocumentEnds fuel).bind fun _ _ more _ => (nextIs _).bind fun ended size enough _ => ?_
  split
  · refine .pure _ fun last grown n same => ?_
    cases same
    exact Nat.lt_of_lt_of_le below (Nat.le_trans more (Nat.le_trans enough grown))
  · refine Grows.bind (.changed _ ?_ ?_) fun _ _ _ _ =>
      (directives fuel false).bind fun _ _ _ _ => .fail
    · exact fun _ => rfl
    · exact fun _ => rfl

theorem opened (fuel : Nat) :
    Grows least (do
      Yaml.directives fuel false
      Reader.expect .documentStart
      modify fun reading => { reading with handles := reading.handles ++ usualHandles }
      let token ← Reader.peek
      let root ←
        match token with
        | .versionDirective .. | .tagDirective .. | .otherDirective | .documentStart
        | .documentEnd | .streamEnd => Yaml.blank
        | _ => Yaml.node fuel true false
      document.close fuel root) fun root? size => ∀ n, root? = some n → n < size := by
  refine (directives fuel false).bind fun _ _ _ _ => (expect _).bind fun _ _ _ _ =>
    Grows.bind (.changed _ (fun _ => rfl) fun _ => rfl) fun _ _ _ _ => peek.bind fun token _ _ _ => ?_
  have rest {reader : Reader Nat} {size : Nat} (grows : Grows size reader fun n size => n < size) :=
    grows.bind fun root _ _ below => close fuel root below
  split
  all_goals first
    | exact rest .blank
    | exact rest ((allGrow fuel).node _ _ _)

theorem document (fuel : Nat) :
    Grows least (Yaml.document fuel) fun root? size => ∀ n, root? = some n → n < size := by
  rw [Yaml.document]
  refine peek.bind fun token _ _ _ => ?_
  split
  · exact .pure none fun _ _ => nofun
  · exact opened fuel
  · exact opened fuel
  · exact opened fuel
  · exact opened fuel
  · refine Grows.bind (.changed _ (fun _ => rfl) fun _ => rfl) fun _ _ _ _ =>
      ((allGrow fuel).node _ _ _).bind fun root _ _ below => close fuel root below

end Grows

theorem Graph.read_ordered (schema : Schema) (text : List Char) (graph : Graph) (root : Nat)
    (read : Graph.read schema text = .ok (some (graph, root))) :
    graph.Ordered ∧ root < graph.size := by
  unfold Graph.read at read
  cases printable : text.all isPrintable with
  | false =>
      rw [printable] at read
      cases read
  | true =>
      rw [printable] at read
      obtain ⟨⟨root?, last⟩, run, done⟩ := (bind_ok_iff _ _ _).mp read
      have grown : Reading.Grown { schema, tokens := (tokensOf text).1, fault := (tokensOf text).2 } :=
        ⟨fun _ _ found => by simp at found, nofun⟩
      obtain ⟨grown_last, _, inside⟩ := Grows.document _ _ grown (Nat.zero_le _) root? last run
      cases root? with
      | none => cases done
      | some n =>
          cases done
          exact ⟨grown_last.ordered, inside root rfl⟩

end DocFinder.Yaml
