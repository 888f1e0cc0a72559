import DocFinder.Text.Integer
import DocFinder.Yaml.Token.Cursor

namespace DocFinder.Yaml

def Cursor.breaksTo (indent : Nat) : (fuel : Nat) → Cursor → List Char → List Char × Cursor
  | 0, cursor, breaks => (breaks, cursor)
  | fuel + 1, cursor, breaks =>
    let spaces := min (indent - cursor.column) (cursor.rest.takeWhile (· == ' ')).length
    let cursor := cursor.advance spaces
    match cursor.peek with
    | some c =>
      if isBreak c then
        let (b, cursor) := cursor.lineBreak
        breaksTo indent fuel cursor (breaks ++ b)
      else (breaks, cursor)
    | none => (breaks, cursor)

def Cursor.measureIndent : (fuel : Nat) → Cursor → List Char → Nat → List Char × Nat × Cursor
  | 0, cursor, breaks, widest => (breaks, widest, cursor)
  | fuel + 1, cursor, breaks, widest =>
    match cursor.peek with
    | some c =>
      if c == ' ' then
        let cursor := cursor.next
        measureIndent fuel cursor breaks (max widest cursor.column)
      else if isBreak c then
        let (b, cursor) := cursor.lineBreak
        measureIndent fuel cursor (breaks ++ b) widest
      else (breaks, widest, cursor)
    | none => (breaks, widest, cursor)

namespace BlockScalar

inductive Chomping
  | clip
  | keep
  | strip
  deriving DecidableEq, Repr

def chomping? : Option Char → Option Chomping
  | some '+' => some .keep
  | some '-' => some .strip
  | _ => none

def increment? (c? : Option Char) : Option Nat :=
  c?.bind fun c => if c.isDigit then some (c.toNat - '0'.toNat) else none

def header (cursor : Cursor) : Option (Chomping × Option Nat × Cursor) :=
  let read :=
    match chomping? cursor.peek with
    | some chomping =>
      let cursor := cursor.next
      match increment? cursor.peek with
      | some n => (chomping, some n, cursor.next)
      | none => (chomping, none, cursor)
    | none =>
      match increment? cursor.peek with
      | some n =>
        let cursor := cursor.next
        match chomping? cursor.peek with
        | some chomping => (chomping, some n, cursor.next)
        | none => (.clip, some n, cursor)
      | none => (.clip, none, cursor)
  let (chomping, increment, cursor) := read
  if increment = some 0 || !endsWord cursor.peek false then none
  else some (chomping, increment, cursor)

def lines (folded : Bool) (indent : Nat) (chomping : Chomping) :
    (fuel : Nat) → Cursor → (text : Array Char) → (breaks : List Char) → Array Char × Cursor
  | 0, cursor, text, _ => (text, cursor)
  | fuel + 1, cursor, text, breaks =>
    let blankNext (cursor : Cursor) : Bool := cursor.peekIs ' ' || cursor.peekIs '\t'
    let leading := !blankNext cursor
    let (line, cursor) := cursor.take (!isBreak ·)
    let text := text ++ breaks ++ line
    let (lineBreak, cursor) := cursor.lineBreak
    let (breaks, cursor) := cursor.breaksTo indent (cursor.rest.length + 1) []
    if cursor.column = indent && cursor.peek.isSome then
      let joint :=
        if folded && lineBreak == ['\n'] && leading && !blankNext cursor then
          if breaks.isEmpty then [' '] else []
        else lineBreak
      lines folded indent chomping fuel cursor (text ++ joint) breaks
    else
      (text ++ (if chomping = .strip then [] else lineBreak) ++
        (if chomping = .keep then breaks else []), cursor)

def read (folded : Bool) (parent : Int) (cursor : Cursor) : Option (List Char × Cursor) := do
  let (chomping, increment, cursor) ← header cursor.next
  let cursor := cursor.skipSpaces.skipComment
  if !endsLine cursor.peek then none
  let (_, cursor) := cursor.lineBreak
  let least := (max (parent + 1) 1).toNat
  let fuel := cursor.rest.length + 1
  let (breaks, indent, cursor) :=
    match increment with
    | none =>
      let (breaks, widest, cursor) := cursor.measureIndent fuel [] 0
      (breaks, max least widest, cursor)
    | some n =>
      let indent := least + n - 1
      let (breaks, cursor) := cursor.breaksTo indent fuel []
      (breaks, indent, cursor)
  if cursor.column = indent && cursor.peek.isSome then
    let (text, cursor) := lines folded indent chomping fuel cursor #[] breaks
    some (text.toList, cursor)
  else some (if chomping = .keep then breaks else [], cursor)

end BlockScalar

namespace Quoted

def escape? : Char → Option Nat
  | '0' => some 0
  | 'a' => some 7
  | 'b' => some 8
  | 't' => some 9
  | '\t' => some 9
  | 'n' => some 10
  | 'v' => some 11
  | 'f' => some 12
  | 'r' => some 13
  | 'e' => some 0x1b
  | ' ' => some 0x20
  | '"' => some 0x22
  | '\\' => some 0x5c
  | '/' => some 0x2f
  | 'N' => some 0x85
  | '_' => some 0xa0
  | 'L' => some 0x2028
  | 'P' => some 0x2029
  | _ => none

def escapeSize? : Char → Option Nat
  | 'x' => some 2
  | 'u' => some 4
  | 'U' => some 8
  | _ => none

def isHexDigit (c : Char) : Bool :=
  c.isDigit || ('a' ≤ c && c ≤ 'f') || ('A' ≤ c && c ≤ 'F')

def breaks : (fuel : Nat) → Cursor → List Char → Except Fault (List Char × Cursor)
  | 0, cursor, done => .ok (done, cursor)
  | fuel + 1, cursor, done =>
    if cursor.atSeparator then .error .malformed
    else
      let cursor := cursor.skip fun c => c == ' ' || c == '\t'
      match cursor.peek with
      | some c =>
        if isBreak c then
          let (b, cursor) := cursor.lineBreak
          breaks fuel cursor (done ++ b)
        else .ok (done, cursor)
      | none => .ok (done, cursor)

def spaces (cursor : Cursor) : Except Fault (List Char × Cursor) := do
  let (blanks, cursor) := cursor.take fun c => c == ' ' || c == '\t'
  match cursor.peek with
  | none => throw .malformed
  | some c =>
    if isBreak c then
      let (lineBreak, cursor) := cursor.lineBreak
      let (more, cursor) ← breaks (cursor.rest.length + 1) cursor []
      let first := if lineBreak != ['\n'] then lineBreak else if more.isEmpty then [' '] else []
      return (first ++ more, cursor)
    else return (blanks, cursor)

def escape (cursor : Cursor) : Except Fault (List Sign × Cursor) :=
  match cursor.peek with
  | none => .error .malformed
  | some c =>
    match escape? c, escapeSize? c with
    | some code, _ => .ok ([.ofCode code], cursor.next)
    | none, some size =>
      let cursor := cursor.next
      let digits := cursor.rest.take size
      if digits.length < size || !digits.all isHexDigit then .error .malformed
      else
        let code := Text.ofDigits 16 (digits.filterMap Text.alphanumericValue?)
        if code ≥ 0x80000000 then .error .escapeTooLarge
        else if code ≥ 0x110000 then .error .escapeOutOfRange
        else .ok ([.ofCode code], cursor.advance size)
    | none, none =>
      if isBreak c then do
        let (_, cursor) := cursor.lineBreak
        let (more, cursor) ← breaks (cursor.rest.length + 1) cursor []
        return (Sign.ofChars more, cursor)
      else .error .malformed

def content (double : Bool) :
    (fuel : Nat) → Cursor → Array Sign → Except Fault (Array Sign × Cursor)
  | 0, _, _ => .error .malformed
  | fuel + 1, cursor, done =>
    match cursor.peek with
    | none => .error .malformed
    | some c =>
      if c == ' ' || c == '\t' || isBreak c then do
        let (text, cursor) ← spaces cursor
        content double fuel cursor (done ++ Sign.ofChars text)
      else if double && c == '"' then .ok (done, cursor.next)
      else if double && c == '\\' then do
        let (more, cursor) ← escape cursor.next
        content double fuel cursor (done ++ more)
      else if !double && c == '\'' then
        if cursor.peekIs '\'' 1 then content double fuel (cursor.advance 2) (done.push (.char c))
        else .ok (done, cursor.next)
      else content double fuel cursor.next (done.push (.char c))

def read (double : Bool) (cursor : Cursor) : Except Fault (List Sign × Cursor) := do
  let (signs, cursor) ← content double (cursor.rest.length + 1) cursor.next #[]
  return (signs.toList, cursor)

end Quoted

namespace Plain

def isFlowMark (c : Char) : Bool :=
  c == ',' || c == '[' || c == ']' || c == '\x7b' || c == '\x7d'

def wordLength (inFlow : Bool) : List Char → Nat
  | [] => 0
  | c :: rest =>
    if endsWord (some c) true ||
        (c == ':' && (endsWord rest.head? true || (inFlow && rest.head?.any isFlowMark))) ||
        (inFlow && (isFlowMark c || c == '?')) then 0
    else wordLength inFlow rest + 1

def breaks : (fuel : Nat) → Cursor → List Char → Option (List Char) × Cursor
  | 0, cursor, done => (some done, cursor)
  | fuel + 1, cursor, done =>
    match cursor.peek with
    | some c =>
      if c == ' ' then breaks fuel cursor.next done
      else if isBreak c then
        let (b, cursor) := cursor.lineBreak
        if cursor.atSeparator then (none, cursor) else breaks fuel cursor (done ++ b)
      else (some done, cursor)
    | none => (some done, cursor)

def spaces (cursor : Cursor) : List Char × Bool × Cursor :=
  let (blanks, cursor) := cursor.take (· == ' ')
  match cursor.peek with
  | some c =>
    if isBreak c then
      let (lineBreak, cursor) := cursor.lineBreak
      if cursor.atSeparator then ([], true, cursor)
      else
        match breaks (cursor.rest.length + 1) cursor [] with
        | (none, cursor) => ([], true, cursor)
        | (some more, cursor) =>
          let first :=
            if lineBreak != ['\n'] then lineBreak else if more.isEmpty then [' '] else []
          (first ++ more, true, cursor)
    else (blanks, false, cursor)
  | none => (blanks, false, cursor)

/-- The words of a plain scalar. The flag tells whether it ended behind a line end. -/
def words (inFlow : Bool) (indent : Int) :
    (fuel : Nat) → Cursor → (text : Array Char) → (between : List Char) → (newLine : Bool) →
    Array Char × Bool × Cursor
  | 0, cursor, text, _, newLine => (text, newLine, cursor)
  | fuel + 1, cursor, text, between, newLine =>
    let length := if cursor.peekIs '#' then 0 else wordLength inFlow cursor.rest
    if length = 0 then (text, newLine, cursor)
    else
      let text := text ++ between ++ cursor.rest.take length
      let (between, newLine, cursor) := spaces (cursor.advance length)
      if between.isEmpty || cursor.peekIs '#' || (!inFlow && (cursor.column : Int) < indent) then
        (text, newLine, cursor)
      else words inFlow indent fuel cursor text between newLine

def read (inFlow : Bool) (parent : Int) (cursor : Cursor) : List Char × Bool × Cursor :=
  let (text, newLine, cursor) :=
    words inFlow (parent + 1) (cursor.rest.length + 1) cursor #[] [] false
  (text.toList, newLine, cursor)

end Plain

end DocFinder.Yaml
