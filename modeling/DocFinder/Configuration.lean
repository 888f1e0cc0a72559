import DocFinder.DocumentRoot
import DocFinder.FileTree.Canonical
import DocFinder.Path.Way
import DocFinder.Value.Key

namespace DocFinder

structure Configuration where
  root : Written := ""
  files : List Written := defaultFiles
  deriving DecidableEq, Repr

inductive ConfigurationError
  | unreadable (path : Path) (error : FrontMatter.SystemError)
  | undecodable (path : Path) (fault : Text.Utf8.Fault)
  | malformed (path : Path)
  | notMap (path : Path)
  | rootNotText
  | filesNotTexts
  | rootNotFound (candidate : Written)
  | rootNotDirectory (path : Path)
  deriving DecidableEq, Repr

def ConfigurationError.message : ConfigurationError → Written
  | unreadable path error => .whole ("Failed to read " ++ path.text ++ ": " ++ error.message)
  | undecodable path fault => .whole ("Failed to read " ++ path.text ++ ": " ++ fault.message)
  | malformed path => .whole ("Failed to parse " ++ path.text)
  | notMap path => .whole ("Configuration " ++ path.text ++ " must be a mapping")
  | rootNotText => .whole "Configuration key 'root' must be a string"
  | filesNotTexts => .whole "Configuration key 'files' must be a list of strings"
  | rootNotFound candidate => .whole "Failed to canonicalize the document root " ++ candidate
  | rootNotDirectory path => .whole ("Document root " ++ path.text ++ " is not a directory")

inductive ConfigurationFailure
  | error (error : ConfigurationError)
  | breakdown (breakdown : Breakdown)
  deriving DecidableEq, Repr

namespace Configuration

def schema : Yaml.Schema := ⟨true⟩

/-- Values that count as nothing at all: null, false, zero and whatever is empty. -/
def isVoid : Value → Bool
  | .null => true
  | .bool b => !b
  | .int n => n == 0
  | .float x => x.toInt? == some 0
  | .text s => s == .whole ""
  | .bytes b => b.isEmpty
  | .list items | .tuple items | .set items => items.isEmpty
  | .map entries => entries.isEmpty
  | .date _ | .datetime _ => false

def readRoot : Option Value → Except ConfigurationError Written
  | none | some .null => .ok ({} : Configuration).root
  | some (.text root) => .ok root
  | some _ => .error .rootNotText

def text? : Value → Option Written
  | .text s => some s
  | _ => none

def readFiles : Option Value → Except ConfigurationError (List Written)
  | none => .ok defaultFiles
  | some (.list items) =>
    match items.mapM text? with
    | some files => .ok files
    | none => .error .filesNotTexts
  | some _ => .error .filesNotTexts

def ofMap (value : Value) : Except ConfigurationError Configuration := do
  let root ← readRoot (value.field? (.whole "root"))
  let files ← readFiles (value.field? (.whole "files"))
  return { root, files }

def ofValue (path : Path) (value : Value) : Except ConfigurationError Configuration :=
  if isVoid value then .ok {}
  else
    match value with
    | .map entries => ofMap (.map entries)
    | _ => .error (.notMap path)

def withLineFeeds : List Char → List Char
  | [] => []
  | '\r' :: '\n' :: rest => '\n' :: withLineFeeds rest
  | '\r' :: rest => '\n' :: withLineFeeds rest
  | c :: rest => c :: withLineFeeds rest

def ofBytes (path : Path) (bytes : List UInt8) : Except ConfigurationFailure Configuration :=
  match Text.Utf8.decode bytes with
  | .error fault => .error (.error (.undecodable path fault))
  | .ok text =>
    match Yaml.load schema (withLineFeeds text) with
    | .error .malformed => .error (.error (.malformed path))
    | .error fault => .error (.breakdown (.unconvertible fault))
    | .ok value => (ofValue path value).mapError .error

def load (tree : FileTree) (path : Path) : Except ConfigurationFailure Configuration :=
  if !tree.isPresent path then .ok {}
  else
    match tree.content path with
    | .error fault => .error (.error (.unreadable path (fault.about path.text)))
    | .ok bytes => ofBytes path bytes

end Configuration

end DocFinder
