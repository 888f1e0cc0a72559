import DocFinder.Finder

namespace DocFinder

def fieldsValue (fields : List (String × Value)) : Value :=
  .map (fields.map fun (name, value) => (.plain name, value))

def Path.value (path : Path) : Value := .text path.text

def texts (items : List Written) : Value := .list (items.map .text)

namespace Choice

def fields : Choice → List (String × Value)
  | selected path => [("status", .text "selected"), ("path", path.value)]
  | empty =>
    [("status", .text "empty"), ("path", .null), ("message", .text SelectionError.empty.message)]
  | ambiguous candidates truncated =>
    [("status", .text "ambiguous"), ("path", .null),
      ("candidates", .list (candidates.map (·.path.value))), ("truncated", .bool truncated),
      ("message", .text (SelectionError.ambiguous candidates truncated).message)]

def payload (root : DocumentRoot) (choice : Choice) : Value :=
  fieldsValue (("root", root.path.value) :: choice.fields)

end Choice

def Match.value (found : Match) : Value :=
  match found.metadata with
  | none => found.path.value
  | some metadata => fieldsValue [("path", found.path.value), ("meta", metadata)]

def DocumentError.value (error : DocumentError) : Value :=
  fieldsValue
    [("path", (error.path?.map Path.value).getD .null), ("error", .text error.message)]

def Listing.payload (root : DocumentRoot) (listing : Listing) : Value :=
  fieldsValue
    [("root", root.path.value), ("matches", .list (listing.found.map (·.value))),
      ("errors", .list (listing.errors.map (·.value)))]

def Reading.payload (root : DocumentRoot) (reading : Reading) : Value :=
  fieldsValue
    [("root", root.path.value), ("path", reading.path.value), ("metadata", reading.metadata),
      ("has_metadata", .bool reading.hasMetadata)]

end DocFinder
