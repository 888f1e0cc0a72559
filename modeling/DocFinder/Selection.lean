import DocFinder.Document.Matching
import DocFinder.Selection.Supply

/-!
Selecting documents. A smart name is first taken as a whole name and, only if that yields nothing,
as the beginning of names. A selection is a course of events that a caller may leave at any point;
what would have come later has then not happened.
-/

namespace DocFinder

def Query.phases (query : Query) : List (List Matcher) :=
  match query.smartName with
  | none => [.always :: query.matchers]
  | some name => [.nameIs name :: query.matchers, .nameStartsWith name :: query.matchers]

abbrev SelectionItem := Except DocumentError Document

namespace Selection

inductive Event
  | called
  | drawn
  | examined (event : DocFinder.Event)
  | yielded (item : SelectionItem)

def Event.item? : Event → Option SelectionItem
  | yielded item => some item
  | _ => none

def Event.warning? : Event → Option Warning
  | examined (.warned warning) => some warning
  | _ => none

def Event.isDrawn : Event → Bool
  | drawn => true
  | _ => false

def Event.isCalled : Event → Bool
  | called => true
  | _ => false

end Selection

structure Selection where
  events : List Selection.Event
  breakdown : Option Breakdown := none

namespace Selection

def items (selection : Selection) : List SelectionItem := selection.events.filterMap Event.item?

def warnings (selection : Selection) : List Warning := selection.events.filterMap Event.warning?

def calls (selection : Selection) : Nat := selection.events.countP Event.isCalled

def draws (selection : Selection) : Nat := selection.events.countP Event.isDrawn

def andThen (first second : Selection) : Selection :=
  match first.breakdown with
  | some _ => first
  | none => ⟨first.events ++ second.events, second.breakdown⟩

def examine (opener : Opener) (matchers : List Matcher) : PathItem → Selection
  | .error error => ⟨[.yielded (.error error)], none⟩
  | .ok path =>
    let answer := Matcher.allAccept opener { path } matchers
    let seen := answer.events.map Event.examined
    match answer.result with
    | .ok true => ⟨seen ++ [.yielded (.ok answer.document)], none⟩
    | .ok false => ⟨seen, none⟩
    | .error (.document error) => ⟨seen ++ [.yielded (.error error)], none⟩
    | .error (.breakdown breakdown) => ⟨seen, some breakdown⟩

def Feed.events : Feed → List Event
  | listed => []
  | drawn | recorded => [.drawn]

/-- What is seen of a source when a pass begins. -/
def Supply.front (supply : Supply) : List Event := if supply.isCalled then [.called] else []

structure Passed where
  selection : Selection
  supply : Supply

def goOver (opener : Opener) (matchers : List Matcher) (feed : Feed) :
    Supply → List PathItem → Passed
  | supply, [] => ⟨⟨[], none⟩, supply⟩
  | supply, item :: rest =>
    let one := examine opener matchers item
    let here : Selection := ⟨feed.events ++ one.events, one.breakdown⟩
    match one.breakdown with
    | some _ => ⟨here, supply.drew item feed⟩
    | none =>
      let later := goOver opener matchers feed (supply.drew item feed) rest
      ⟨here.andThen later.selection, later.supply⟩

def pass (tree : FileTree) (matchers : List Matcher) (supply : Supply) : Passed :=
  match supply.begin tree with
  | .error breakdown => ⟨⟨[], some breakdown⟩, supply⟩
  | .ok (begun, after) =>
    let passed := goOver tree.opener matchers begun.feed after begun.rest
    ⟨andThen ⟨supply.front, none⟩ passed.selection, passed.supply⟩

/-- Passes one after the other, up to the first that yields anything. Each goes over what the one
before it has left. -/
def ofPhases (tree : FileTree) : List (List Matcher) → Supply → Selection
  | [], _ => ⟨[], none⟩
  | matchers :: later, supply =>
    let passed := pass tree matchers supply
    if passed.selection.items.isEmpty then
      passed.selection.andThen (ofPhases tree later passed.supply)
    else passed.selection

def ofQuery (tree : FileTree) (source : PathSource) (query : Query) : Selection :=
  ofPhases tree query.phases (source.supply query)

def cut : Nat → List Event → List Event
  | 0, _ => []
  | _ + 1, [] => []
  | n + 1, .yielded item :: rest => .yielded item :: cut n rest
  | n + 1, event :: rest => event :: cut (n + 1) rest

def take (selection : Selection) (n : Nat) : Selection :=
  if n ≤ selection.items.length then ⟨cut n selection.events, none⟩ else selection

def isError : SelectionItem → Bool
  | .error _ => true
  | .ok _ => false

def untilError (selection : Selection) : Selection :=
  match selection.items.findIdx? isError with
  | some i => selection.take (i + 1)
  | none => selection

end Selection

inductive SelectionError
  | empty
  | ambiguous (candidates : List Document) (truncated : Bool)
  | failed (error : DocumentError)

def SelectionError.message : SelectionError → String
  | empty => "Did not match anything"
  | ambiguous candidates truncated =>
    "\n".intercalate
      ("Ambiguous document selection. Candidates:" ::
        candidates.map (fun document => " - " ++ document.path.text) ++
        (if truncated then [" - (truncated)"] else []))
  | failed error => error.message

namespace Selection

def shown : Nat := 10

/-- The selection for a caller that wants a single document. One item more than is shown tells
whether there are more. -/
def forOne (selection : Selection) : Selection := selection.untilError.take (shown + 1)

def documents (items : List SelectionItem) : List Document := items.filterMap (·.toOption)

def firstError? (items : List SelectionItem) : Option DocumentError :=
  items.findSome? fun item => match item with | .error error => some error | .ok _ => none

def single (items : List SelectionItem) : Except SelectionError Document :=
  match firstError? items with
  | some error => .error (.failed error)
  | none =>
    match documents items with
    | [] => .error .empty
    | [document] => .ok document
    | documents => .error (.ambiguous (documents.take shown) (shown < documents.length))

def outcome (selection : Selection) : Except Breakdown (Except SelectionError Document) :=
  match selection.breakdown with
  | some breakdown => .error breakdown
  | none => .ok (single selection.items)

end Selection

end DocFinder
