import DocFinder.Path
import DocFinder.Text.Utf8

/-!
Paths written with halves of surrogate pairs. The system is given bytes, and so a component may be
the name of no entry, or nothing that can be asked for.
-/

namespace DocFinder

inductive Obstacle
  /-- The bytes of a component make up no characters. -/
  | foreign
  /-- A component has no bytes. -/
  | unencodable
  deriving DecidableEq, Repr

structure Way where
  path : Path
  obstacle : Option Obstacle := none
  deriving DecidableEq, Repr

namespace Path

/-- The name that the system reads. A NUL in it is met before its bytes are looked up. -/
def nameOf (piece : List Sign) : Except Obstacle String :=
  match piece.mapM Sign.bytes? with
  | none => .error .unencodable
  | some bytes =>
    if piece.contains (.char '\x00') then .ok (.ofList (piece.map Sign.shown))
    else
      match Text.Utf8.decode bytes.flatten with
      | .ok chars => .ok (.ofList chars)
      | .error _ => .error .foreign

def namesOf : List (List Sign) → List String × Option Obstacle
  | [] => ([], none)
  | piece :: rest =>
    match nameOf piece with
    | .error obstacle => ([], some obstacle)
    | .ok name => (name :: (namesOf rest).1, (namesOf rest).2)

def piecesOf (text : TornText) : List (List Sign) :=
  (text.signs.splitOn (.char '/')).filter fun piece => isComponent (piece.map Sign.shown)

def anchorOfTorn (text : TornText) : Anchor := anchorOf (text.signs.map Sign.shown)

def wayOf : Written → Way
  | .whole text => ⟨ofText text, none⟩
  | .torn text =>
    let (names, obstacle) := namesOf (piecesOf text)
    ⟨⟨anchorOfTorn text, names⟩, obstacle⟩

def joinText (base : Path) : Written → Written
  | .whole text => .whole (base.join (ofText text)).text
  | .torn text =>
    let rooted := anchorOfTorn text != .relative
    let anchor := if rooted then anchorOfTorn text else base.anchor
    let front := if rooted then [] else base.parts.map fun name => Sign.ofChars name.toList
    .ofSigns (Sign.ofChars (anchorText anchor).toList ++
      [.char '/'].intercalate (front ++ piecesOf text))

end Path

end DocFinder
