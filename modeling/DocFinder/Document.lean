import DocFinder.Document.Failure

/-!
Documents whose front matter is read when it is first asked for. The outcome is kept: a document is
not opened again once a value or a failure of its own was met.
-/

namespace DocFinder

inductive Warning
  | frontMatter (warning : FrontMatter.Warning)
  | uncomparable (key : String) (path : Path)
  | skipped (error : DocumentError)
  deriving DecidableEq, Repr

def Warning.message : Warning → String
  | frontMatter warning => warning.message
  | uncomparable key path =>
    "The field '" ++ key ++ "' of document '" ++ path.text ++
      "' contains an object of an uncomparable type; can't apply Meta matcher"
  | skipped error => "Skipping document during listing: " ++ error.message

/-- What is seen from outside while a document is examined. -/
inductive Event
  | opened (path : Path)
  | warned (warning : Warning)
  deriving DecidableEq, Repr

inductive Opening
  | source (source : FrontMatter.Source)
  | refused (error : FrontMatter.SystemError)
  | nulInPath

/-- What opening a path gives, the first time (number 0), the second time and so on. -/
abbrev Opener := Path → Nat → Opening

inductive Slot
  | unfetched
  | loaded (metadata : Option Value)
  | failed (error : DocumentError)

structure Document where
  path : Path
  slot : Slot := .unfetched
  opens : Nat := 0

/-- An answer about a document, the document behind it, and what was seen on the way. -/
structure Answer (α : Type) where
  result : Except Failure α
  document : Document
  events : List Event := []

namespace Document

def name? (document : Document) : Option String :=
  if document.path.stem = "" then none else some document.path.stem

def inspect (document : Document) : String :=
  "DocumentHandle(" ++ Text.quote document.path.text ++ ")"

def isLoaded (document : Document) : Bool :=
  match document.slot with
  | .unfetched => false
  | _ => true

def read (path : Path) : Opening → Except Failure (Option Value) × List FrontMatter.Warning
  | .nulInPath => (.error (.breakdown .nulInPath), [])
  | .refused error => (.error (.document (.unreadable path error)), [])
  | .source source =>
    let extraction := FrontMatter.extract source FrontMatter.chunkSize
    (extraction.outcome.mapError (·.failure path), extraction.warnings)

/-- What is kept of a reading. A breakdown leaves the document as it was. -/
def slotOf : Except Failure (Option Value) → Slot
  | .ok metadata => .loaded metadata
  | .error (.document error) => .failed error
  | .error (.breakdown _) => .unfetched

def fetch (opener : Opener) (document : Document) : Answer (Option Value) :=
  let (result, warnings) := read document.path (opener document.path document.opens)
  { result
    document := { document with slot := slotOf result, opens := document.opens + 1 }
    events := .opened document.path :: warnings.map (.warned <| .frontMatter ·) }

def metadata (opener : Opener) (document : Document) : Answer (Option Value) :=
  match document.slot with
  | .unfetched => document.fetch opener
  | .loaded metadata => ⟨.ok metadata, document, []⟩
  | .failed error => ⟨.error (.document error), document, []⟩

end Document

end DocFinder
