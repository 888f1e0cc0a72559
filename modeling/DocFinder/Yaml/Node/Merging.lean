import DocFinder.Yaml.Node

/-!
Merges: the entries that a mapping takes over from others. A mapping that was flattened holds what
is merged in first, so that its own entries win, and it stays flat wherever it stands.
-/

namespace DocFinder.Yaml.Graph

abbrev Entries := List (Nat × Nat)

/-- Flattens mappings one after the other and takes their entries; the first mapping wins. -/
def mergeItems (flatten : Graph → Nat → Except Fault Graph) :
    Graph → List Nat → Except Fault (Graph × Entries)
  | graph, [] => .ok (graph, [])
  | graph, item :: rest => do
    let graph ← flatten graph item
    let entries := (graph.entries? item).getD []
    let (graph, more) ← mergeItems flatten graph rest
    return (graph, more ++ entries)

def mergeSource (flatten : Graph → Nat → Except Fault Graph) (graph : Graph) (n : Nat) :
    Except Fault (Graph × Entries) :=
  mergeItems flatten graph ((graph.items? n).getD [n])

def mergeEntries (flatten : Graph → Nat → Except Fault Graph) :
    Graph → Entries → Except Fault (Graph × Entries × Entries)
  | graph, [] => .ok (graph, [], [])
  | graph, (key, value) :: rest =>
    if graph.tag? key = some .merge then do
      let (graph, these) ← mergeSource flatten graph value
      let (graph, merged, own) ← mergeEntries flatten graph rest
      return (graph, these ++ merged, own)
    else do
      let (graph, merged, own) ← mergeEntries flatten (graph.setAsText key) rest
      return (graph, merged, (key, value) :: own)

def flatten : (fuel : Nat) → Graph → Nat → Except Fault Graph
  | 0, _, _ => .error .malformed
  | fuel + 1, graph, n =>
    match graph.entries? n with
    | none => .error .malformed
    | some entries => do
      let (graph, merged, own) ← mergeEntries (flatten fuel) graph entries
      return graph.setEntries n (merged ++ own)

end DocFinder.Yaml.Graph
