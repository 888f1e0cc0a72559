import DocFinder.Pattern.Syntax
import DocFinder.Text.Written

/-!
Backtracking search. A match of an expression is a function of what follows it: the first way to
match that lets the rest succeed is taken.
-/

namespace DocFinder.Pattern

/-- A position in the text, and the start and end of every group that was entered or left; group
`g` has its start at index `2 * g` and its end behind it. -/
structure Progress where
  position : Nat
  marks : Array (Option Nat)
  deriving DecidableEq, Repr

namespace Progress

def mark (progress : Progress) (index : Nat) : Option Nat := (progress.marks[index]?).join

def setMark (progress : Progress) (index : Nat) : Progress :=
  { progress with marks := progress.marks.setIfInBounds index (some progress.position) }

def span? (progress : Progress) (group : Nat) : Option (Nat × Nat) :=
  match progress.mark (2 * group), progress.mark (2 * group + 1) with
  | some start, some stop => if stop < start then none else some (start, stop)
  | _, _ => none

end Progress

abbrev Rest := Progress → Option Progress

def isWordAt (text : Array Nat) (flags : Flags) (position : Nat) : Bool :=
  match text[position]? with
  | none => false
  | some code => Category.word.accepts flags.ascii code

def isNewlineAt (text : Array Nat) (position : Nat) : Bool := text[position]? == some 10

/-- No position of an empty text is a boundary or the absence of one. -/
def Anchor.holds (text : Array Nat) (flags : Flags) (position : Nat) : Anchor → Bool
  | lineStart =>
    position == 0 || (flags.multiline && isNewlineAt text (position - 1))
  | lineEnd =>
    position == text.size || (position + 1 == text.size && isNewlineAt text position) ||
      (flags.multiline && isNewlineAt text position)
  | textStart => position == 0
  | textEnd => position == text.size
  | boundary => !text.isEmpty && wordBefore != isWordAt text flags position
  | nonBoundary => !text.isEmpty && wordBefore == isWordAt text flags position
where
  wordBefore : Bool := position != 0 && isWordAt text flags (position - 1)

def standsAgain (text : Array Nat) (flags : Flags) (start stop position : Nat) : Bool :=
  position + (stop - start) ≤ text.size &&
    (List.range (stop - start)).all fun offset =>
      match text[start + offset]?, text[position + offset]? with
      | some a, some b =>
        if flags.ignoreCase then flags.folding.lower a == flags.folding.lower b
        else a == b
      | _, _ => false

/-- Repeats `body` and then goes on. After the least number of rounds a round is tried only where
the round before it did not stand still. `fuel` bounds the rounds. -/
def repeatThen (body : Rest → Rest) (least : Nat) (most : Option Nat) (reluctant : Bool)
    (rest : Rest) : (fuel count : Nat) → (last : Option Nat) → Rest
  | 0, _, _ => rest
  | fuel + 1, count, last => fun progress =>
    if count < least then
      body (repeatThen body least most reluctant rest fuel (count + 1) last) progress
    else
      let mayRepeat := most.all (count < ·) && last != some progress.position
      let again (_ : Unit) : Option Progress :=
        if mayRepeat then
          body (repeatThen body least most reluctant rest fuel (count + 1)
            (some progress.position)) progress
        else none
      if reluctant then (rest progress).orElse again
      else (again ()).orElse fun _ => rest progress

def repeatHeld (body : Rest → Rest) (least : Nat) (most : Option Nat) :
    (fuel count : Nat) → (last : Option Nat) → Rest
  | 0, _, _ => some
  | fuel + 1, count, last => fun progress =>
    if count < least then
      (body some progress).bind (repeatHeld body least most fuel (count + 1) last)
    else if most.all (count < ·) && last != some progress.position then
      match body some progress with
      | some next =>
        repeatHeld body least most fuel (count + 1) (some progress.position) next
      | none => some progress
    else some progress

/-- Enough rounds: past the least number, each but the last moves on. -/
def rounds (text : Array Nat) (least : Nat) (progress : Progress) : Nat :=
  least + (text.size - progress.position) + 3

namespace Expr

def run (text : Array Nat) : Expr → Flags → Rest → Rest
  | empty, _, rest, progress => rest progress
  | single one, flags, rest, progress =>
    match text[progress.position]? with
    | none => none
    | some code =>
      if one.accepts flags code then rest { progress with position := progress.position + 1 }
      else none
  | anchor kind, flags, rest, progress =>
    if kind.holds text flags progress.position then rest progress else none
  | again group _, flags, rest, progress =>
    match progress.span? group with
    | none => none
    | some (start, stop) =>
      if standsAgain text flags start stop progress.position then
        rest { progress with position := progress.position + (stop - start) }
      else none
  | seq a b, flags, rest, progress => a.run text flags (b.run text flags rest) progress
  | either a b, flags, rest, progress =>
    (a.run text flags rest progress).orElse fun _ => b.run text flags rest progress
  | capture group body, flags, rest, progress =>
    body.run text flags (fun inner => rest (inner.setMark (2 * group + 1)))
      (progress.setMark (2 * group))
  | flagged on off body, flags, rest, progress =>
    body.run text (flags.within on off) rest progress
  | atomic body, flags, rest, progress => (body.run text flags some progress).bind rest
  | ahead false body, flags, rest, progress =>
    (body.run text flags some progress).bind fun inner =>
      rest { inner with position := progress.position }
  | ahead true body, flags, rest, progress =>
    if (body.run text flags some progress).isSome then none else rest progress
  | behind negated body, flags, rest, progress =>
    let width := body.width.least
    let found :=
      if progress.position < width then none
      else body.run text flags some { progress with position := progress.position - width }
    match found, negated with
    | some inner, false => rest { inner with position := progress.position }
    | none, true => rest progress
    | _, _ => none
  | ifMatched group yes no, flags, rest, progress =>
    if (progress.span? group).isSome then yes.run text flags rest progress
    else no.run text flags rest progress
  | times greed least most body, flags, rest, progress =>
    let fuel := rounds text least progress
    match greed with
    | .possessive =>
      (repeatHeld (body.run text flags) least most fuel 0 none progress).bind rest
    | .greedy => repeatThen (body.run text flags) least most false rest fuel 0 none progress
    | .reluctant => repeatThen (body.run text flags) least most true rest fuel 0 none progress

end Expr

def Expr.leadingClass? : Expr → Flags → Option (Flags × Bool × List SetItem)
  | single (.set negated items), flags => some (flags, negated, items)
  | capture _ body, flags => body.leadingClass? flags
  | flagged on off body, flags => body.leadingClass? (flags.within on off)
  | seq first _, flags => first.leadingClass? flags
  | _, _ => none

def SetItem.isCased (folding : Folding) : SetItem → Bool
  | one c => folding.isCased c
  | range first last => last ≥ astral || folding.anyCased first last
  | category .. => false

structure Regex where
  source : String
  flags : Flags
  groups : Nat
  expr : Expr
  deriving DecidableEq, Repr

namespace Regex

def matchesAt (regex : Regex) (text : Array Nat) (position : Nat) : Bool :=
  (regex.expr.run text regex.flags some
    ⟨position, Array.replicate (2 * (regex.groups + 1)) none⟩).isSome

/-- Whether a search looks for a match that begins with a character. A class at the beginning of the
pattern has to accept the character under the flags of the whole pattern, unless letter case plays a
part in it. -/
def mayStartWith (regex : Regex) (code : Nat) : Bool :=
  match regex.expr.leadingClass? regex.flags with
  | none => true
  | some (flags, negated, items) =>
    (flags.ignoreCase && items.any (·.isCased flags.folding)) ||
      items.any (·.accepts regex.flags.ascii code) != negated

def search (regex : Regex) (text : Written) : Bool :=
  let codes := text.codes.toArray
  (List.range (codes.size + 1)).any fun position =>
    (codes[position]?).all regex.mayStartWith && regex.matchesAt codes position

end Regex

end DocFinder.Pattern
