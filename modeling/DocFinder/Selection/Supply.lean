import DocFinder.DocumentRoot.Walk
import DocFinder.Query

/-!
Where the paths of a selection come from. A selection may need two passes over them; a source that
gives its items once is then recorded in the first pass, and the record is gone over in the second.
-/

namespace DocFinder

inductive PathSource
  | tree (root : DocumentRoot)
  | list (items : List PathItem)
  /-- A source that is called for each pass and then gives all its items. -/
  | callable (items : List PathItem)
  /-- A source that gives each item once. These are still to come. -/
  | iterator (rest : List PathItem)

namespace Selection

/-- How the items of a pass come: from a list, drawn out of a source, or drawn and recorded. -/
inductive Feed
  | listed
  | drawn
  | recorded
  deriving DecidableEq

structure Pass where
  feed : Feed
  rest : List PathItem

inductive Supply
  | tree (root : DocumentRoot)
  | list (items : List PathItem)
  | callable (items : List PathItem)
  | iterator (rest : List PathItem)
  /-- A source that gives its items once, until a pass takes it over, and the items drawn from it. -/
  | recorder (source : Option (List PathItem)) (seen : List PathItem)

namespace Supply

/-- Begins a pass. A recorder hands its source over to the first pass and its record to any later
one; a source that is not recorded is used up. -/
def begin (tree : FileTree) : Supply → Except Breakdown (Pass × Supply)
  | .tree root => (root.items tree).map fun items => (⟨.listed, items⟩, .tree root)
  | .list items => .ok (⟨.listed, items⟩, .list items)
  | .callable items => .ok (⟨.drawn, items⟩, .callable items)
  | .iterator rest => .ok (⟨.drawn, rest⟩, .iterator [])
  | .recorder (some rest) seen => .ok (⟨.recorded, rest⟩, .recorder none seen)
  | .recorder none seen => .ok (⟨.listed, seen⟩, .recorder none seen)

def drew (item : PathItem) : Feed → Supply → Supply
  | .recorded, .recorder source seen => .recorder source (seen ++ [item])
  | _, supply => supply

def isCalled : Supply → Bool
  | .callable _ => true
  | _ => false

end Supply

end Selection

/-- Only a source that gives its items once is recorded, and only for a query that may need a second
pass. -/
def PathSource.supply (query : Query) : PathSource → Selection.Supply
  | .tree root => .tree root
  | .list items => .list items
  | .callable items => .callable items
  | .iterator rest => if query.smartName.isSome then .recorder (some rest) [] else .iterator rest

end DocFinder
