namespace DocFinder

/-- Where a path starts. Exactly two slashes are a start of their own. -/
inductive Anchor
  | relative
  | root
  | doubleRoot
  deriving DecidableEq, Repr

structure Path where
  anchor : Anchor
  parts : List String
  deriving DecidableEq, Repr

def splitSlashes : List Char → List (List Char)
  | [] => [[]]
  | c :: rest =>
    if c = '/' then [] :: splitSlashes rest
    else
      match splitSlashes rest with
      | [] => [[c]]
      | piece :: pieces => (c :: piece) :: pieces

namespace Path

def anchorOf : List Char → Anchor
  | '/' :: '/' :: '/' :: _ => .root
  | '/' :: '/' :: _ => .doubleRoot
  | '/' :: _ => .root
  | _ => .relative

def isComponent (piece : List Char) : Bool := !piece.isEmpty && piece != ['.']

def ofText (text : String) : Path :=
  ⟨anchorOf text.toList, ((splitSlashes text.toList).filter isComponent).map .ofList⟩

def here : Path := ⟨.relative, []⟩

def root : Path := ⟨.root, []⟩

def isAbsolute (path : Path) : Bool := path.anchor != .relative

def anchorText : Anchor → String
  | .relative => ""
  | .root => "/"
  | .doubleRoot => "//"

def text (path : Path) : String :=
  if path = here then "." else anchorText path.anchor ++ "/".intercalate path.parts

def name (path : Path) : String := path.parts.getLast?.getD ""

def lastDot? (name : List Char) : Option Nat :=
  (name.reverse.findIdx? (· == '.')).map (name.length - 1 - ·)

/-- A name up to its last dot, unless that dot is its first or last character. -/
def stemOf (name : String) : String :=
  let chars := name.toList
  match lastDot? chars with
  | none => name
  | some i => if 0 < i ∧ i + 1 < chars.length then .ofList (chars.take i) else name

def stem (path : Path) : String := stemOf path.name

def join (base path : Path) : Path :=
  if path.isAbsolute then path else ⟨base.anchor, base.parts ++ path.parts⟩

def below (base : Path) (names : List String) : Path := ⟨base.anchor, base.parts ++ names⟩

def child (base : Path) (name : String) : Path := ⟨base.anchor, base.parts ++ [name]⟩

def parent (path : Path) : Path := ⟨path.anchor, path.parts.dropLast⟩

def withAncestors (path : Path) : List Path :=
  (List.range (path.parts.length + 1)).map fun up =>
    ⟨path.anchor, path.parts.take (path.parts.length - up)⟩

end Path

end DocFinder
