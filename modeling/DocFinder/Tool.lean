import DocFinder.Discovery
import DocFinder.Finder.Payload
import DocFinder.Input

namespace DocFinder

inductive Tool
  | describe
  | which
  | list
  | readMetadata
  deriving DecidableEq, Repr

inductive ToolError
  | refused (refusal : Refusal)
  | configuration (failure : ConfigurationFailure)
  | finder (error : FinderError)

structure ToolReport where
  result : Except ToolError Value
  warnings : List Warning := []

def Configuration.payload (configuration : Configuration) : Value :=
  fieldsValue [("root", .text configuration.root), ("files", texts configuration.files)]

def DocumentRoot.payload (tree : FileTree) (root : DocumentRoot) : Value :=
  fieldsValue
    [("path", root.path.value), ("files", texts root.files),
      ("exists", .bool (tree.isDirectory root.path))]

def Report.answer {α : Type} (report : Report α) (payload : α → Value) : ToolReport :=
  ⟨(report.result.map payload).mapError .finder, report.warnings⟩

namespace Tool

def name : Tool → String
  | describe => "describe_document_root"
  | which => "which_document"
  | list => "list_documents"
  | readMetadata => "read_document_metadata"

def all : List Tool := [describe, which, list, readMetadata]

def form : Tool → Form
  | describe => .describe
  | which => .which
  | list => .list
  | readMetadata => .readMetadata

def answer (tree : FileTree) (root : DocumentRoot) (input : Input) : Tool → ToolReport
  | describe => ⟨.ok (root.payload tree), []⟩
  | which =>
    (root.which tree (input.criteria.map .token) input.preset).answer (Choice.payload root)
  | list =>
    (root.list tree (input.criteria.map .token) input.preset input.includeMetadata).answer
      (Listing.payload root)
  | readMetadata =>
    (root.readMetadata tree (input.criteria.map .token) input.preset).answer
      (Reading.payload root)

def run (tree : FileTree) (tool : Tool) (request : Value) : ToolReport :=
  match Input.read tool.form request with
  | .error refusal => ⟨.error (.refused refusal), []⟩
  | .ok input =>
    match tree.discover (input.root.map Path.ofText) with
    | .error failure => ⟨.error (.configuration failure), []⟩
    | .ok root => tool.answer tree root input

end Tool

end DocFinder
