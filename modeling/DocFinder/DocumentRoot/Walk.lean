import DocFinder.DocumentRoot

/-!
The walk through a document root. Directories are walked in rising order of names, and links to
directories are followed. A directory that is met again below itself is reported and not entered,
and one that the file patterns leave out is not entered either.
-/

namespace DocFinder

/-- How an entry of a directory looks when links are followed. A link to nothing counts as a file. -/
inductive Shape
  | file
  | directory
  | unknown (error : FrontMatter.SystemError)

namespace FileTree

def shape (tree : FileTree) (place : Place) (path : Path) (written : String) : Shape :=
  match tree.entry? place with
  | some .directory => .directory
  | some (.link _) =>
    match tree.lookup path with
    | .ok target => if tree.isDirectoryAt target then .directory else .file
    | .error .missing => .file
    | .error fault => .unknown (fault.about written)
  | _ => .file

/-- What the system answers instead of listing a place. `written` is its path as errors show it. -/
def listFault? (tree : FileTree) (place : Place) (written : String) :
    Option FrontMatter.SystemError :=
  if !tree.isDirectoryAt place then some (LookupFault.notDirectory.about written)
  else if tree.closed.contains place then
    some (.numbered 13 "Permission denied" (Text.quote written))
  else none

def relativeText (names : List String) : String := "/".intercalate names

/-- The files and the errors below a directory, which is given by the names that lead to it from the
root. `above` are the places of the directories on the way. -/
def walk (tree : FileTree) (verdict : Verdict) (root : Path) :
    (fuel : Nat) → (above : List Place) → (names : List String) → List PathItem
  | 0, _, _ => []
  | fuel + 1, above, names =>
    let directory := root.below names
    match tree.lookup directory with
    | .error fault => [.error (.unknownState directory (fault.about directory.text))]
    | .ok place =>
      if above.contains place then [.error (.loop directory)]
      else
        match tree.listFault? place directory.text with
        | some error => [.error (.unlisted directory error)]
        | none =>
          (tree.names place).flatMap fun name =>
            let below := names ++ [name]
            let path := root.below below
            let written := if directory = .here then "./" ++ name else path.text
            match tree.shape (place ++ [name]) path written with
            | .unknown error =>
              if verdict (relativeText below) = some false then []
              else [.error (.unknownState path error)]
            | .directory =>
              if verdict (relativeText below ++ "/") = some false then []
              else walk tree verdict root fuel (place :: above) below
            | .file => [.ok path]

def depth (tree : FileTree) : Nat := tree.entries.length + 2

end FileTree

namespace DocumentRoot

def namesBelow (root path : Path) : List String := path.parts.drop root.parts.length

/-- Whether an item of a walk is kept: files only if they are taken in, errors always. -/
def keeps (verdict : Verdict) (root : Path) : PathItem → Bool
  | .ok path => verdict (FileTree.relativeText (namesBelow root path)) = some true
  | .error _ => true

def itemsBelow (tree : FileTree) (verdict : Verdict) (root : Path) : List PathItem :=
  (tree.walk verdict root tree.depth [] []).filter (keeps verdict root)

def items (tree : FileTree) (root : DocumentRoot) : Except Breakdown (List PathItem) :=
  match FileSpec.ofLines root.files with
  | .error error => .error (.badFilePattern error)
  | .ok spec =>
    if root.path.hasNul then .error .nulInPath
    else .ok (itemsBelow tree spec.verdict? root.path)

end DocumentRoot

end DocFinder
