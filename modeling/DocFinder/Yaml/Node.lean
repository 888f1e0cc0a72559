import DocFinder.Yaml.Scalar

/-!
A YAML document as a graph of typed nodes. A node is known by its number, which is greater than the
numbers of the nodes in it. An alias is the number of the node that it names, so what becomes of a
node is seen wherever the node stands.
-/

namespace DocFinder.Yaml

inductive Content
  | scalar (text : List Sign)
  | sequence (items : List Nat)
  | mapping (entries : List (Nat × Nat))
  deriving DecidableEq, Repr

structure Node where
  tag : Tag
  content : Content
  deriving DecidableEq, Repr

abbrev Graph := Array Node

namespace Graph

def tag? (graph : Graph) (n : Nat) : Option Tag := graph[n]?.map (·.tag)

def items? (graph : Graph) (n : Nat) : Option (List Nat) :=
  match graph[n]? with
  | some ⟨_, .sequence items⟩ => some items
  | _ => none

def entries? (graph : Graph) (n : Nat) : Option (List (Nat × Nat)) :=
  match graph[n]? with
  | some ⟨_, .mapping entries⟩ => some entries
  | _ => none

/-- The text that a node is read as: its own or, of a mapping, the text of what stands under the
value key. `fuel` bounds the depth. -/
def text? (graph : Graph) : (fuel : Nat) → Nat → Option (List Sign)
  | 0, _ => none
  | fuel + 1, n =>
    match graph[n]? with
    | some ⟨_, .scalar text⟩ => some text
    | some ⟨_, .mapping entries⟩ =>
      (entries.find? fun (key, _) => graph.tag? key = some .value).bind fun (_, value) =>
        text? graph fuel value
    | _ => none

def setEntries (graph : Graph) (n : Nat) (entries : List (Nat × Nat)) : Graph :=
  graph.modify n fun node => { node with content := .mapping entries }

def setAsText (graph : Graph) (n : Nat) : Graph :=
  graph.modify n fun node => if node.tag = .value then { node with tag := .str } else node

end Graph

end DocFinder.Yaml
