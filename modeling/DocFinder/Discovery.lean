import DocFinder.Configuration

namespace DocFinder

def configurationDirectory : String := ".veisku"

def configurationFile : String := "config.yaml"

/-- A path with a tilde in front taken from the home directory. Other homes are not known. -/
def FileTree.expandHome (tree : FileTree) (path : Path) : Except Breakdown Path :=
  match path.anchor, path.parts with
  | .relative, name :: rest =>
    if name = "~" then .ok ((Path.ofText tree.home).below rest)
    else if name.startsWith "~" then
      .error (if hasNul name then .nulInPath else .unknownHome)
    else .ok path
  | _, _ => .ok path

namespace Discovery

/-- The nearest directory at or above another one that holds a configuration directory, or that one
itself. -/
def base (tree : FileTree) (start : Path) : Path :=
  (start.withAncestors.find? fun directory =>
    tree.isDirectory (directory.child configurationDirectory)).getD start

def configurationPath (base : Path) : Path :=
  (base.child configurationDirectory).child configurationFile

def start (tree : FileTree) (path : Path) : Except Breakdown Path := do
  let path ← tree.expandHome path
  match tree.canonical false path with
  | .ok path => return path
  | .error .nulInPath => throw .nulInPath
  | .error _ => throw .linkLoop

/-- The root that a configuration names, as far as it is made of names. -/
def candidate (base : Path) (configuration : Configuration) : Path :=
  base.join (Path.wayOf configuration.root).path

def rootOf (tree : FileTree) (base : Path) (configuration : Configuration) :
    Except ConfigurationFailure DocumentRoot :=
  let unfound := .error (.error (.rootNotFound (base.joinText configuration.root)))
  match tree.canonical true (candidate base configuration) with
  | .error .nulInPath => .error (.breakdown .nulInPath)
  | .error _ => unfound
  | .ok path =>
    match (Path.wayOf configuration.root).obstacle with
    | some .unencodable => .error (.breakdown .halfInPath)
    | some .foreign => unfound
    | none =>
      if tree.isDirectory path then .ok ⟨path, configuration.files⟩
      else .error (.error (.rootNotDirectory path))

def fromBase (tree : FileTree) (base : Path) : Except ConfigurationFailure DocumentRoot := do
  rootOf tree base (← Configuration.load tree (configurationPath base))

end Discovery

def FileTree.discover (tree : FileTree) (path : Option Path) :
    Except ConfigurationFailure DocumentRoot :=
  match Discovery.start tree (path.getD ⟨.root, tree.current⟩) with
  | .error breakdown => .error (.breakdown breakdown)
  | .ok start => Discovery.fromBase tree (Discovery.base tree start)

end DocFinder
