import DocFinder.Document

namespace DocFinder

/-- Where an entry stands: the names that lead to it from the root, none of which is a link. -/
abbrev Place := List String

inductive Entry
  | file (bytes : List UInt8)
  | directory
  | link (target : String)
  deriving DecidableEq, Repr

/-- The root is a directory that needs no entry. Of several entries for a place the first counts. -/
structure FileTree where
  entries : List (Place × Entry) := []
  /-- Directories that the system refuses to list, as a rule none. What stands in them can be
  named all the same. -/
  closed : List Place := []
  /-- Where relative paths start. -/
  current : Place := []
  home : String := "/"
  deriving Repr

inductive LookupFault
  | missing
  | notDirectory
  | isDirectory
  | tooManyLinks
  deriving DecidableEq, Repr

def LookupFault.about (written : String) : LookupFault → FrontMatter.SystemError
  | missing => .numbered 2 "No such file or directory" (Text.quote written)
  | notDirectory => .numbered 20 "Not a directory" (Text.quote written)
  | isDirectory => .numbered 21 "Is a directory" (Text.quote written)
  | tooManyLinks => .numbered 40 "Too many levels of symbolic links" (Text.quote written)

def hasNul (name : String) : Bool := name.toList.contains '\x00'

def Path.hasNul (path : Path) : Bool := path.parts.any DocFinder.hasNul

namespace FileTree

def entry? (tree : FileTree) (place : Place) : Option Entry :=
  if place = [] then some .directory else tree.entries.lookup place

def isDirectoryAt (tree : FileTree) (place : Place) : Bool := tree.entry? place == some .directory

def insertName (name : String) : List String → List String
  | [] => [name]
  | other :: rest =>
    if name < other then name :: other :: rest
    else if name = other then other :: rest
    else other :: insertName name rest

def nameIn? (directory : Place) (place : Place) : Option String :=
  if place.dropLast = directory then place.getLast? else none

def names (tree : FileTree) (directory : Place) : List String :=
  (tree.entries.filterMap fun (place, _) => nameIn? directory place).foldr insertName []

def linkLimit : Nat := 40

/-- How far a way goes without following a link: to its end, or to a link with a rest of the way
behind it. -/
inductive Stop
  | arrived (place : Place)
  | link (directory : Place) (target : String) (rest : List String)
  | fault (fault : LookupFault)

/-- Goes a way from a place on. The last name is allowed to be a link unless `follow` is set. -/
def descend (tree : FileTree) (follow : Bool) : Place → List String → Stop
  | place, [] => .arrived place
  | place, name :: rest =>
    if !tree.isDirectoryAt place then .fault .notDirectory
    else if name = "." then descend tree follow place rest
    else if name = ".." then descend tree follow place.dropLast rest
    else
      let next := place ++ [name]
      match tree.entry? next with
      | none => .fault .missing
      | some (.link target) =>
        if rest.isEmpty && !follow then .arrived next else .link place target rest
      | some _ => descend tree follow next rest

/-- The names on the way to the target of a link. A slash at the end asks for a directory. -/
def targetNames (target : String) : List String :=
  let pieces := splitSlashes target.toList
  (pieces.filter (!·.isEmpty)).map .ofList ++
    (if 1 < pieces.length && pieces.getLast? == some [] then ["."] else [])

def isRooted (target : String) : Bool := target.toList.head? == some '/'

def locate (tree : FileTree) (follow : Bool) :
    (links : Nat) → Place → List String → Except LookupFault Place
  | links, place, way =>
    match tree.descend follow place way with
    | .arrived place => .ok place
    | .fault fault => .error fault
    | .link directory target rest =>
      match links with
      | 0 => .error .tooManyLinks
      | links + 1 =>
        locate tree follow links (if isRooted target then [] else directory)
          (targetNames target ++ rest)

def startOf (tree : FileTree) (path : Path) : Place := if path.isAbsolute then [] else tree.current

def lookup (tree : FileTree) (path : Path) : Except LookupFault Place :=
  tree.locate true linkLimit (tree.startOf path) path.parts

def entryNamed (tree : FileTree) (path : Path) : Except LookupFault Entry :=
  match tree.locate false linkLimit (tree.startOf path) path.parts with
  | .error fault => .error fault
  | .ok place =>
    match tree.entry? place with
    | some entry => .ok entry
    | none => .error .missing

def isPresent (tree : FileTree) (path : Path) : Bool :=
  match tree.lookup path with
  | .ok _ => true
  | .error _ => false

def isDirectory (tree : FileTree) (path : Path) : Bool :=
  match tree.lookup path with
  | .ok place => tree.isDirectoryAt place
  | .error _ => false

def content (tree : FileTree) (path : Path) : Except LookupFault (List UInt8) :=
  match tree.lookup path with
  | .error fault => .error fault
  | .ok place =>
    match tree.entry? place with
    | some (.file bytes) => .ok bytes
    | some .directory => .error .isDirectory
    | _ => .error .missing

/-- Opening documents of a tree. It gives the same each time. -/
def opener (tree : FileTree) : Opener := fun path _ =>
  if path.hasNul then .nulInPath
  else
    match tree.content path with
    | .ok bytes => .source (.ofBytes bytes)
    | .error fault => .refused (fault.about path.text)

/-- Puts an entry at a place, and directories above it where there is nothing. What stood there is
gone with all below it. -/
def putAt (tree : FileTree) (place : Place) (entry : Entry) : FileTree :=
  let above := (List.range place.length).map fun n => place.take n
  let made := above.filter fun place => (tree.entry? place).isNone
  { tree with
    entries := (place, entry) :: made.map (·, .directory) ++
      tree.entries.filter fun (other, _) => !place.isPrefixOf other
    closed := tree.closed.filter fun other => !place.isPrefixOf other }

/-- The place that a path names. Links are followed above its last name, as far as there is
something. -/
def placeNamed (tree : FileTree) (path : Path) : Place :=
  let found? (up : Nat) : Option Place :=
    let count := path.parts.length - 1 - up
    match tree.lookup ⟨path.anchor, path.parts.take count⟩ with
    | .ok directory => some (directory ++ path.parts.drop count)
    | .error _ => none
  ((List.range path.parts.length).findSome? found?).getD (tree.startOf path ++ path.parts)

def put (tree : FileTree) (path : Path) (entry : Entry) : FileTree :=
  match entry, tree.lookup path with
  | .file _, .ok place => tree.putAt place entry
  | .directory, .ok _ => tree
  | _, _ => tree.putAt (tree.placeNamed path) entry

def remove (tree : FileTree) (path : Path) : FileTree :=
  let place := tree.placeNamed path
  { tree with
    entries := tree.entries.filter fun (other, _) => !place.isPrefixOf other
    closed := tree.closed.filter fun other => !place.isPrefixOf other }

end FileTree

end DocFinder
