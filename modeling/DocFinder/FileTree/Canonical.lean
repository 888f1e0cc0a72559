import DocFinder.FileTree

/-!
The canonical form of a path: absolute, without links and without double dots. The lenient form goes
on where nothing is found and keeps the rest as it is.
-/

namespace DocFinder

inductive CanonicalFault
  | lookup (fault : LookupFault)
  | linkLoop
  | nulInPath
  deriving DecidableEq, Repr

/-- One level up. Above a relative path stand double dots, above the root stands nothing. -/
def Path.up (path : Path) : Path :=
  match path.parts.getLast? with
  | none => if path.isAbsolute then path else ⟨path.anchor, [".."]⟩
  | some ".." => path.child ".."
  | some _ => path.parent

def withoutDots (names : List String) : List String :=
  names.foldl (fun done name =>
    if name = "." then done else if name = ".." then done.dropLast else done ++ [name]) []

namespace FileTree

/-- The links that were met, with what they lead to, or nothing while that is being found out. -/
abbrev Met := List (Path × Option Path)

/-- A path that was followed as far as possible. If a link leads to itself the path is not complete
and holds the rest of the way as it was written. -/
structure Followed where
  path : Path
  complete : Bool
  met : Met

def followNames (tree : FileTree) (strict : Bool)
    (follow : Met → Path → String → Except CanonicalFault Followed) :
    Met → Path → List String → Except CanonicalFault Followed
  | met, path, [] => .ok ⟨path, true, met⟩
  | met, path, name :: rest =>
    if name = "." then followNames tree strict follow met path rest
    else if name = ".." then followNames tree strict follow met path.up rest
    else if hasNul name then .error .nulInPath
    else
      let next := path.child name
      match tree.entryNamed next with
      | .error fault =>
        if strict then .error (.lookup fault) else followNames tree strict follow met next rest
      | .ok (.link target) =>
        match met.lookup next with
        | some (some known) => followNames tree strict follow met known rest
        | some none =>
          if strict then .error .linkLoop else .ok ⟨next.below rest, false, met⟩
        | none =>
          match follow ((next, none) :: met) path target with
          | .error fault => .error fault
          | .ok ⟨last, false, met⟩ => .ok ⟨last.below rest, false, met⟩
          | .ok ⟨last, true, met⟩ =>
            followNames tree strict follow ((next, some last) :: met) last rest
      | .ok _ => followNames tree strict follow met next rest

/-- Follows the target of a link that stands in a directory. `depth` bounds how many links are
followed within one another. -/
def followLink (tree : FileTree) (strict : Bool) :
    (depth : Nat) → Met → Path → String → Except CanonicalFault Followed
  | 0, _, _, _ => .error .linkLoop
  | depth + 1, met, directory, target =>
    tree.followNames strict (followLink tree strict depth) met
      (if isRooted target then .root else directory) (targetNames target)

def absolute (tree : FileTree) (path : Path) : Path :=
  ⟨.root, withoutDots (tree.startOf path ++ path.parts)⟩

def canonical (tree : FileTree) (strict : Bool) (path : Path) : Except CanonicalFault Path := do
  let depth := 2 * (tree.entries.length + 1)
  let start := if path.isAbsolute then Path.root else Path.here
  let followed ← tree.followNames strict (tree.followLink strict depth) [] start path.parts
  let result := tree.absolute followed.path
  if !strict && tree.lookup result matches .error .tooManyLinks then .error .linkLoop
  else return result

end FileTree

end DocFinder
