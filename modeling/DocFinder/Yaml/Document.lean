import DocFinder.Value.Key
import DocFinder.Yaml.Conversion
import DocFinder.Yaml.Node.Merging
import DocFinder.Yaml.Node.Reader

/-!
The value of a document. Scalars are read when they are first met. Collections wait and are filled
one level after the other: of several faults the one on the highest level counts, and on one level
the first one.
-/

namespace DocFinder.Yaml

/-- What is known of the value of a node: the whole value, or the nodes that it is made of. -/
inductive Part
  | whole (value : Value)
  /-- A collection that is not filled yet. -/
  | unfilled
  | list (items : List Nat)
  | pairs (pairs : List (Nat × Nat))
  | set (items : List Nat)
  | map (entries : List (Nat × Nat))

structure Construction where
  graph : Graph
  parts : Array (Option Part)
  waiting : Array Nat := #[]

def Tag.isCollection : Tag → Bool
  | omap | pairs | set | seq | map => true
  | _ => false

/-- A number that is not a number is the same only as itself: it is marked with its node. -/
def markNode (n : Nat) : Value → Value
  | .float (.nan none) => .float (.nan (some (n + 1)))
  | value => value

def Graph.scalarValue (graph : Graph) (n : Nat) (node : Node) : Except Fault Value :=
  match graph.text? graph.size n with
  | none => .error .malformed
  | some text =>
    match node with
    | ⟨.timestamp, .mapping _⟩ => .error .timestampOfCollection
    | ⟨tag, _⟩ => (tag.read text).map (markNode n)

abbrev Builder := StateT Construction (Except Fault)

namespace Builder

def part? (n : Nat) : Builder (Option Part) := return ((← get).parts[n]?).join

def setPart (n : Nat) (part : Part) : Builder Unit :=
  modify fun c => { c with parts := c.parts.setIfInBounds n (some part) }

def meet (n : Nat) : Builder Unit := do
  if (← part? n).isSome then return
  let graph := (← get).graph
  match graph[n]? with
  | none => throw .malformed
  | some node =>
    if node.tag.isCollection then
      setPart n .unfilled
      modify fun c => { c with waiting := c.waiting.push n }
    else setPart n (.whole (← graph.scalarValue n node))

def meetKey (n : Nat) : Builder Unit := do
  meet n
  match ← part? n with
  | some (.whole _) => return
  | _ => throw .malformed

def meetPair (n : Nat) : Builder (Nat × Nat) := do
  match (← get).graph.entries? n with
  | some [(key, value)] =>
    meet key
    meet value
    return (key, value)
  | _ => throw .malformed

def itemsOf (n : Nat) : Builder (List Nat) := do
  match (← get).graph.items? n with
  | some items => return items
  | none => throw .malformed

def meetEntries (n : Nat) : Builder (List (Nat × Nat)) := do
  let graph := (← get).graph
  let graph ← graph.flatten graph.size n
  modify fun c => { c with graph }
  let entries := (graph.entries? n).getD []
  for (key, value) in entries do
    meetKey key
    meet value
  return entries

def fill (n : Nat) : Builder Unit := do
  match (← get).graph.tag? n with
  | some .seq =>
    let items ← itemsOf n
    items.forM meet
    setPart n (.list items)
  | some .map => setPart n (.map (← meetEntries n))
  | some .set => setPart n (.set ((← meetEntries n).map (·.1)))
  | some .omap | some .pairs => setPart n (.pairs (← (← itemsOf n).mapM meetPair))
  | _ => return

/-- Fills the collections that wait, and those that begin to wait meanwhile. A collection waits once,
so that there are no more levels than nodes. -/
def fillLevels : (fuel : Nat) → Builder Unit
  | 0 => return
  | fuel + 1 => do
    let waiting := (← get).waiting
    if waiting.isEmpty then return
    modify fun c => { c with waiting := #[] }
    waiting.toList.forM fill
    fillLevels fuel

end Builder

def Part.value (values : Array Value) : Part → Value
  | .whole value => value
  | .unfilled => .null
  | .list items => .list (items.map known)
  | .pairs entries => .list (entries.map fun (first, second) => .tuple [known first, known second])
  | .set items => .set (Value.elementsOf (items.map known))
  | .map entries => .map (Value.entriesOf (entries.map fun (k, v) => (known k, known v)))
where
  known (n : Nat) : Value := values[n]?.getD .null

def Construction.values (c : Construction) : Array Value :=
  c.parts.foldl (fun values part? => values.push ((part?.map (·.value values)).getD .null)) #[]

def Graph.value (graph : Graph) (root : Nat) : Except Fault Value := do
  let build : Builder Unit := do
    Builder.meet root
    Builder.fillLevels (graph.size + 1)
  let ((), c) ← build.run { graph, parts := Array.replicate graph.size none }
  return c.values[root]?.getD .null

def load (schema : Schema) (text : List Char) : Except Fault Value := do
  match ← Graph.read schema text with
  | none => return .null
  | some (graph, root) => graph.value root

end DocFinder.Yaml
