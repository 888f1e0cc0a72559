import DocFinder.Pattern.Fault
import DocFinder.Text.Letters
import DocFinder.Text.Numerals
import DocFinder.Text.Blank
import DocFinder.Text.LetterCase

namespace DocFinder.Pattern

structure Flags where
  ignoreCase : Bool := false
  multiline : Bool := false
  dotAll : Bool := false
  verbose : Bool := false
  ascii : Bool := false
  unicode : Bool := false
  template : Bool := false
  deriving DecidableEq, Repr

namespace Flags

def union (a b : Flags) : Flags where
  ignoreCase := a.ignoreCase || b.ignoreCase
  multiline := a.multiline || b.multiline
  dotAll := a.dotAll || b.dotAll
  verbose := a.verbose || b.verbose
  ascii := a.ascii || b.ascii
  unicode := a.unicode || b.unicode
  template := a.template || b.template

def without (a b : Flags) : Flags where
  ignoreCase := a.ignoreCase && !b.ignoreCase
  multiline := a.multiline && !b.multiline
  dotAll := a.dotAll && !b.dotAll
  verbose := a.verbose && !b.verbose
  ascii := a.ascii && !b.ascii
  unicode := a.unicode && !b.unicode
  template := a.template && !b.template

/-- The flags inside a group that turns some on and some off. The two repertoires exclude each
other, so turning one on turns the other off. -/
def within (outer on off : Flags) : Flags :=
  let outer := if on.ascii || on.unicode then { outer with ascii := false, unicode := false }
    else outer
  (outer.union on).without off

end Flags

inductive Category
  | digit
  | blank
  | word
  deriving DecidableEq, Repr

def Category.accepts (category : Category) (ascii : Bool) (code : Nat) : Bool :=
  match category, ascii with
  | .digit, true => Text.isAsciiDigit code
  | .digit, false => Text.isDecimalDigit code
  | .blank, true => Text.isAsciiBlankCode code
  | .blank, false => Text.isBlankCode code
  | .word, true => Text.isAsciiLetter code || Text.isAsciiDigit code || code == 95
  | .word, false => Text.isLetter code || Text.isNumeric code || code == 95

inductive SetItem
  | one (code : Nat)
  | range (first last : Nat)
  | category (negated : Bool) (category : Category)
  deriving DecidableEq, Repr

inductive Single
  | one (code : Nat)
  | other (code : Nat)
  | any
  | set (negated : Bool) (items : List SetItem)
  deriving DecidableEq, Repr

/-- How letters are folded when case is ignored: a small letter for each code point, the other
small letters that count as the same, and the ranges with a code point of two cases. -/
structure Folding where
  lower : Nat → Nat
  siblings : Nat → List Nat
  anyCased : (first last : Nat) → Bool
  origins : Nat → List Nat

def Folding.ascii : Folding where
  lower := Text.asciiLower
  siblings _ := []
  anyCased first last := (first ≤ 90 && 65 ≤ last) || (first ≤ 122 && 97 ≤ last)
  origins code :=
    if 65 ≤ code ∧ code ≤ 90 then []
    else if 97 ≤ code ∧ code ≤ 122 then [code, code - 32]
    else [code]

def Folding.unicode : Folding where
  lower := Text.lower
  siblings := Text.siblings
  anyCased := Text.anyCased
  origins := Text.lowerOrigins

def Folding.isCased (folding : Folding) (code : Nat) : Bool := folding.anyCased code code

def Flags.folding (flags : Flags) : Folding := if flags.ascii then .ascii else .unicode

def astral : Nat := 0x10000

namespace SetItem

def accepts (ascii : Bool) (code : Nat) : SetItem → Bool
  | one c => code == c
  | range first last => first ≤ code && code ≤ last
  | category negated kind => kind.accepts ascii code != negated

/-- Whether an item makes its whole set ignore case. A point or an end of a range beyond the basic
plane does so in any case. -/
def folds (folding : Folding) : SetItem → Bool
  | one c => folding.isCased c || folding.lower c ≥ astral
  | range first last =>
    last ≥ astral || folding.anyCased first last
  | category .. => false

/-- Whether an item accepts a folded code point. Points and ranges of the basic plane are folded
with their siblings; a point beyond it stands for itself, and a range that reaches beyond it is
also tried on the capital. -/
def acceptsFolded (folding : Folding) (ascii : Bool) (code : Nat) : SetItem → Bool
  | one c =>
    let small := folding.lower c
    if small < astral then code == small || (folding.siblings small).contains code else code == c
  | range first last =>
    let inRange (c : Nat) : Bool := first ≤ c && c ≤ last
    (code :: folding.siblings code).any
        (fun small => (folding.origins small).any fun c => inRange c && c < astral) ||
      (last ≥ astral && (inRange code || inRange (Text.upper code)))
  | category negated kind => kind.accepts ascii code != negated

end SetItem

def Single.accepts (flags : Flags) (code : Nat) : Single → Bool
  | any => flags.dotAll || code != 10
  | one c => same c
  | other c => !same c
  | set negated items =>
    let folding := flags.folding
    let found :=
      if flags.ignoreCase && items.any (·.folds folding) then
        items.any (·.acceptsFolded folding flags.ascii (folding.lower code))
      else items.any (·.accepts flags.ascii code)
    found != negated
where
  same (c : Nat) : Bool :=
    let folding := flags.folding
    if flags.ignoreCase && folding.isCased c then
      let small := folding.lower c
      folding.lower code == small || (folding.siblings small).contains (folding.lower code)
    else code == c

inductive Anchor
  | lineStart
  | lineEnd
  | textStart
  | textEnd
  | boundary
  | nonBoundary
  deriving DecidableEq, Repr

/-- The fewest and the most characters that an expression takes, counted up to `Width.limit`. -/
structure Width where
  least : Nat
  most : Nat
  deriving DecidableEq, Repr

inductive Expr
  | empty
  | single (one : Single)
  | anchor (kind : Anchor)
  /-- The text of a group again, with the width of that group. -/
  | again (group : Nat) (width : Width)
  | seq (first second : Expr)
  | either (first second : Expr)
  | capture (group : Nat) (body : Expr)
  | flagged (on off : Flags) (body : Expr)
  | atomic (body : Expr)
  | ahead (negated : Bool) (body : Expr)
  | behind (negated : Bool) (body : Expr)
  | ifMatched (group : Nat) (yes no : Expr)
  | times (greed : Greed) (least : Nat) (most : Option Nat) (body : Expr)
  deriving DecidableEq, Repr

namespace Width

def limit : Nat := 0x10000000000000000

def cap (width : Width) : Width := ⟨min width.least limit, min width.most limit⟩

def none : Width := ⟨0, 0⟩

def add (a b : Width) : Width := cap ⟨a.least + b.least, a.most + b.most⟩

def join (a b : Width) : Width := ⟨min a.least b.least, max a.most b.most⟩

def times (least : Nat) (most : Option Nat) (body : Width) : Width :=
  cap ⟨body.least * least,
    match most with
    | some most => body.most * most
    | .none => if body.most = 0 then 0 else limit⟩

end Width

namespace Expr

def width : Expr → Width
  | empty | anchor _ | ahead .. | behind .. => .none
  | single _ => ⟨1, 1⟩
  | again _ width => width
  | seq a b => a.width.add b.width
  | either a b => a.width.join b.width
  | capture _ body | flagged _ _ body | atomic body => body.width
  | ifMatched _ yes no => yes.width.join no.width
  | times _ least most body => .times least most body.width

def ofList : List Expr → Expr
  | [] => empty
  | [e] => e
  | e :: rest => seq e (ofList rest)

def choice : List Expr → Expr
  | [] => empty
  | [e] => e
  | e :: rest => either e (choice rest)

end Expr

end DocFinder.Pattern
