import DocFinder.Selection.Course
import DocFinder.Value.Json

namespace DocFinder

inductive FinderError
  | query (error : QueryError)
  /-- A document could not be judged. -/
  | selection (error : DocumentError)
  /-- There is no single document to read. -/
  | unselected (error : SelectionError)
  | document (error : DocumentError)
  | breakdown (breakdown : Breakdown)

structure Report (α : Type) where
  result : Except FinderError α
  warnings : List Warning := []

inductive Choice
  | selected (path : Path)
  | empty
  | ambiguous (candidates : List Document) (truncated : Bool)

structure Match where
  path : Path
  /-- The front matter, if it was asked for. -/
  metadata : Option Value := none

structure Listing where
  found : List Match := []
  errors : List DocumentError := []

structure Reading where
  path : Path
  metadata : Value
  hasMetadata : Bool

def jsonOf (metadata : Option Value) : Except FinderError Value :=
  match (metadata.getD .null).json? with
  | some value => .ok value
  | none => .error (.breakdown .keyTooLong)

def eventWarnings (events : List Event) : List Warning :=
  events.filterMap fun event => match event with
    | .warned warning => some warning
    | .opened _ => none

namespace Listing

/-- The entry of a selected document. Its front matter is read only if it is asked for. -/
def ofDocument (opener : Opener) (withMetadata : Bool) (document : Document) : Report Listing :=
  if withMetadata then
    let answer := document.metadata opener
    let warnings := eventWarnings answer.events
    match answer.result with
    | .error (.breakdown breakdown) => ⟨.error (.breakdown breakdown), warnings⟩
    | .error (.document error) =>
      ⟨.ok { errors := [error] }, warnings ++ [.skipped error]⟩
    | .ok metadata =>
      ⟨(jsonOf metadata).map fun value =>
        { found := [{ path := document.path, metadata := some value }] }, warnings⟩
  else ⟨.ok { found := [{ path := document.path }] }, []⟩

def append (a b : Listing) : Listing := ⟨a.found ++ b.found, a.errors ++ b.errors⟩

def andThen (first second : Report Listing) : Report Listing :=
  match first.result with
  | .error _ => first
  | .ok listing => ⟨second.result.map listing.append, first.warnings ++ second.warnings⟩

def ofEvent (opener : Opener) (withMetadata : Bool) : Selection.Event → Report Listing
  | .yielded (.error error) => ⟨.ok { errors := [error] }, [.skipped error]⟩
  | .yielded (.ok document) => ofDocument opener withMetadata document
  | .examined (.warned warning) => ⟨.ok {}, [warning]⟩
  | _ => ⟨.ok {}, []⟩

def ofSelection (opener : Opener) (withMetadata : Bool) (selection : Selection) : Report Listing :=
  let stop : Report Listing :=
    match selection.breakdown with
    | some breakdown => ⟨.error (.breakdown breakdown), []⟩
    | none => ⟨.ok {}, []⟩
  selection.events.foldr (fun event rest => andThen (ofEvent opener withMetadata event) rest) stop

end Listing

namespace DocumentRoot

def selectOne (tree : FileTree) (root : DocumentRoot) (query : Query) :
    Except Breakdown (Except SelectionError Document) × List Warning :=
  let (outcome, course) := Selection.Asking.single tree (.start (.tree root) query)
  (outcome, course.log.filterMap Selection.Event.warning?)

def which (tree : FileTree) (root : DocumentRoot) (clauses : List Clause) (preset : String) :
    Report Choice :=
  match Query.compile clauses preset with
  | .error error => ⟨.error (.query error), []⟩
  | .ok query =>
    let (outcome, warnings) := root.selectOne tree query
    match outcome with
    | .error breakdown => ⟨.error (.breakdown breakdown), warnings⟩
    | .ok (.ok document) => ⟨.ok (.selected document.path), warnings⟩
    | .ok (.error .empty) => ⟨.ok .empty, warnings⟩
    | .ok (.error (.ambiguous candidates truncated)) =>
      ⟨.ok (.ambiguous candidates truncated), warnings⟩
    | .ok (.error (.failed error)) => ⟨.error (.selection error), warnings⟩

def list (tree : FileTree) (root : DocumentRoot) (clauses : List Clause) (preset : String)
    (withMetadata : Bool) : Report Listing :=
  match Query.compile clauses preset with
  | .error error => ⟨.error (.query error), []⟩
  | .ok query =>
    Listing.ofSelection tree.opener withMetadata (Selection.ofQuery tree (.tree root) query)

def readMetadata (tree : FileTree) (root : DocumentRoot) (clauses : List Clause)
    (preset : String) : Report Reading :=
  match Query.compile clauses preset with
  | .error error => ⟨.error (.query error), []⟩
  | .ok query =>
    let (outcome, warnings) := root.selectOne tree query
    match outcome with
    | .error breakdown => ⟨.error (.breakdown breakdown), warnings⟩
    | .ok (.error error) => ⟨.error (.unselected error), warnings⟩
    | .ok (.ok document) =>
      let answer := document.metadata tree.opener
      let warnings := warnings ++ eventWarnings answer.events
      match answer.result with
      | .error (.breakdown breakdown) => ⟨.error (.breakdown breakdown), warnings⟩
      | .error (.document error) => ⟨.error (.document error), warnings⟩
      | .ok metadata =>
        ⟨(jsonOf metadata).map fun value => ⟨document.path, value, metadata.isSome⟩, warnings⟩

end DocumentRoot

end DocFinder
