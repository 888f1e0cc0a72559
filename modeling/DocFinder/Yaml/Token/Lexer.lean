import DocFinder.Text.Utf8
import DocFinder.Yaml.Token.Scalar

/-!
Splitting a YAML text into tokens. A key is recognised when its colon is met: the key token is then
put in front of the tokens that turned out to be the key, together with the start of its mapping.
-/

namespace DocFinder.Yaml

/-- A place where a key may have begun: the number of its first token and its position. A required
key stands where nothing but a key can. -/
structure PossibleKey where
  token : Nat
  required : Bool
  index : Nat
  line : Nat
  column : Nat
  deriving DecidableEq, Repr

def longestKey : Nat := 1024

structure Lexer where
  cursor : Cursor
  tokens : Array Token := #[]
  flowLevel : Nat := 0
  /-- The column of the collection that is open, or `-1`. -/
  indent : Int := -1
  /-- The columns of the collections around it. -/
  indents : List Int := []
  keyAllowed : Bool := true
  /-- The possible keys, by the flow level they stand on. -/
  keys : List (Nat × PossibleKey) := []

namespace Lexer

def key? (lexer : Lexer) : Option PossibleKey := lexer.keys.lookup lexer.flowLevel

def push (lexer : Lexer) (token : Token) : Lexer :=
  { lexer with tokens := lexer.tokens.push token }

def move (lexer : Lexer) (cursor : Cursor) : Lexer := { lexer with cursor }

def allowKey (lexer : Lexer) (allowed : Bool) : Lexer := { lexer with keyAllowed := allowed }

def dropKey (lexer : Lexer) : Except Fault Lexer :=
  match lexer.key? with
  | none => .ok lexer
  | some key =>
    if key.required then .error .malformed
    else .ok { lexer with keys := lexer.keys.filter (·.1 != lexer.flowLevel) }

def noteKey (lexer : Lexer) : Except Fault Lexer :=
  if lexer.keyAllowed then do
    let required := lexer.flowLevel == 0 && lexer.indent == lexer.cursor.column
    let lexer ← lexer.dropKey
    let key := ⟨lexer.tokens.size, required, lexer.cursor.index, lexer.cursor.line,
      lexer.cursor.column⟩
    return { lexer with keys := (lexer.flowLevel, key) :: lexer.keys }
  else .ok lexer

/-- Whether a key can no longer be completed: it stands on one line and is not too long. -/
def isStale (lexer : Lexer) (key : PossibleKey) : Bool :=
  key.line != lexer.cursor.line || lexer.cursor.index - key.index > longestKey

def dropStaleKeys (lexer : Lexer) : Except Fault Lexer :=
  if lexer.keys.any fun (_, key) => lexer.isStale key && key.required then .error .malformed
  else .ok { lexer with keys := lexer.keys.filter fun (_, key) => !lexer.isStale key }

/-- The tokens that no colon can change any more: those in front of every possible key. -/
def settled (lexer : Lexer) : Array Token :=
  let open? (entry : Nat × PossibleKey) : Option Nat :=
    if lexer.isStale entry.2 then none else some entry.2.token
  match (lexer.keys.filterMap open?).min? with
  | some first => lexer.tokens.take first
  | none => lexer.tokens

def unwind (lexer : Lexer) (column : Int) : Lexer :=
  if lexer.flowLevel != 0 then lexer else go lexer.indents.length lexer
where
  go : Nat → Lexer → Lexer
    | 0, lexer => lexer
    | n + 1, lexer =>
      if lexer.indent > column then
        match lexer.indents with
        | indent :: indents => go n { lexer.push .blockEnd with indent, indents }
        | [] => lexer
      else lexer

/-- Opens a block collection at a column right of the one that is open, whose start is the token
with the number `at`. -/
def openBlock (lexer : Lexer) (column : Nat) (start : Token) (number : Nat) : Lexer :=
  if lexer.indent < column then
    { lexer with
      indents := lexer.indent :: lexer.indents
      indent := column
      tokens := lexer.tokens.insertIdxIfInBounds number start }
  else lexer

def openBlockHere (lexer : Lexer) (start : Token) : Lexer :=
  lexer.openBlock lexer.cursor.column start lexer.tokens.size

def skipToToken (lexer : Lexer) : Lexer :=
  let cursor := lexer.cursor
  let cursor := if cursor.index = 0 && cursor.peekIs '\ufeff' then cursor.next else cursor
  go (cursor.rest.length + 1) (lexer.move cursor)
where
  go : Nat → Lexer → Lexer
    | 0, lexer => lexer
    | n + 1, lexer =>
      let (lineBreak, cursor) := lexer.cursor.skipSpaces.skipComment.lineBreak
      let lexer := lexer.move cursor
      if lineBreak.isEmpty then lexer
      else go n (if lexer.flowLevel = 0 then lexer.allowKey true else lexer)

def isNameChar (c : Char) : Bool := c.isAlphanum || c == '-' || c == '_'

def name (cursor : Cursor) : Except Fault (List Char × Cursor) :=
  match cursor.take isNameChar with
  | ([], _) => .error .malformed
  | read => .ok read

def directiveNumber (cursor : Cursor) : Except Fault (Nat × Cursor) :=
  match cursor.take Char.isDigit with
  | ([], _) => .error .malformed
  | (digits, cursor) =>
    if digits.length > Text.longestNumeral then .error .numeralTooLong
    else .ok (Text.ofDigits 10 (digits.map fun c => c.toNat - '0'.toNat), cursor)

def isUriChar (c : Char) : Bool := c.isAlphanum || "-;/?:@&=+$,_.!~*'()[]%".toList.contains c

def uriBytes : (fuel : Nat) → Cursor → List UInt8 → Except Fault (List UInt8 × Cursor)
  | 0, cursor, bytes => .ok (bytes, cursor)
  | fuel + 1, cursor, bytes =>
    if cursor.peekIs '%' then
      let digits := (cursor.rest.drop 1).take 2
      if digits.length < 2 || !digits.all Quoted.isHexDigit then .error .malformed
      else
        let code := Text.ofDigits 16 (digits.filterMap Text.alphanumericValue?)
        uriBytes fuel (cursor.advance 3) (bytes ++ [UInt8.ofNat code])
    else .ok (bytes, cursor)

def uri (cursor : Cursor) : Except Fault (List Char × Cursor) := do
  let (text, cursor) ← go (cursor.rest.length + 1) cursor []
  if text.isEmpty then throw .malformed
  return (text, cursor)
where
  go : (fuel : Nat) → Cursor → List Char → Except Fault (List Char × Cursor)
    | 0, cursor, text => .ok (text, cursor)
    | fuel + 1, cursor, text =>
      let (plain, cursor) := cursor.take fun c => isUriChar c && c != '%'
      let text := text ++ plain
      if cursor.peekIs '%' then do
        let (bytes, cursor) ← uriBytes fuel cursor []
        match Text.Utf8.decode bytes with
        | .error _ => throw .malformed
        | .ok chars => go fuel cursor (text ++ chars)
      else .ok (text, cursor)

def tagHandle (cursor : Cursor) : Except Fault (List Char × Cursor) :=
  if !cursor.peekIs '!' then .error .malformed
  else if cursor.peekIs ' ' 1 then .ok (['!'], cursor.next)
  else
    let (text, behind) := cursor.next.take isNameChar
    if behind.peekIs '!' then .ok ('!' :: (text ++ ['!']), behind.next) else .error .malformed

def directiveEnd (cursor : Cursor) : Except Fault Cursor :=
  let cursor := cursor.skipSpaces.skipComment
  if endsLine cursor.peek then .ok cursor.lineBreak.2 else .error .malformed

def directive (cursor : Cursor) : Except Fault (Token × Cursor) := do
  let (title, cursor) ← name cursor.next
  if !endsWord cursor.peek false then throw .malformed
  if title = "YAML".toList then
    let (major, cursor) ← directiveNumber cursor.skipSpaces
    if !cursor.peekIs '.' then throw .malformed
    let (minor, cursor) ← directiveNumber cursor.next
    if !endsWord cursor.peek false then throw .malformed
    return (.versionDirective major minor, ← directiveEnd cursor)
  else if title = "TAG".toList then
    let (handle, cursor) ← tagHandle cursor.skipSpaces
    if !cursor.peekIs ' ' then throw .malformed
    let (start, cursor) ← uri cursor.skipSpaces
    if !endsWord cursor.peek false then throw .malformed
    return (.tagDirective handle start, ← directiveEnd cursor)
  else return (.otherDirective, ← directiveEnd (cursor.skip (!isBreak ·)))

def anchorName (cursor : Cursor) : Except Fault (List Char × Cursor) := do
  let (text, cursor) ← name cursor.next
  if endsWord cursor.peek true || "?:,]\x7d%@`".toList.any (cursor.peekIs ·) then
    return (text, cursor)
  else throw .malformed

def hasHandle (cursor : Cursor) : Bool :=
  ((cursor.rest.drop 1).takeWhile fun c => !endsWord (some c) false).contains '!'

def tag (cursor : Cursor) : Except Fault (Token × Cursor) := do
  let (token, cursor) ←
    if cursor.peekIs '<' 1 then do
      let (suffix, cursor) ← uri (cursor.advance 2)
      if !cursor.peekIs '>' then throw .malformed
      pure (Token.tag none suffix, cursor.next)
    else if endsWord (cursor.peek 1) true then pure (Token.tag none ['!'], cursor.next)
    else do
      let (handle, cursor) ←
        if hasHandle cursor then tagHandle cursor else pure (['!'], cursor.next)
      let (suffix, cursor) ← uri cursor
      pure (Token.tag (some handle) suffix, cursor)
  if endsWord cursor.peek false then return (token, cursor) else throw .malformed

def mark (lexer : Lexer) (token : Token) (keyAllowed : Bool) : Lexer :=
  { lexer with
    cursor := lexer.cursor.next
    tokens := lexer.tokens.push token
    keyAllowed }

def separator (lexer : Lexer) (token : Token) : Except Fault Lexer := do
  let lexer ← (lexer.unwind (-1)).dropKey
  return { lexer with
    cursor := lexer.cursor.advance 3
    tokens := lexer.tokens.push token
    keyAllowed := false }

def flowStart (lexer : Lexer) (token : Token) : Except Fault Lexer := do
  let lexer ← lexer.noteKey
  return { lexer with flowLevel := lexer.flowLevel + 1 }.mark token true

def flowEnd (lexer : Lexer) (token : Token) : Except Fault Lexer := do
  let lexer ← lexer.dropKey
  return { lexer with flowLevel := lexer.flowLevel - 1 }.mark token false

def blockEntry (lexer : Lexer) : Except Fault Lexer := do
  let lexer ←
    if lexer.flowLevel != 0 then pure lexer
    else if lexer.keyAllowed then pure (lexer.openBlockHere .blockSequenceStart)
    else throw .malformed
  let lexer ← lexer.dropKey
  return lexer.mark .blockEntry true

def explicitKey (lexer : Lexer) : Except Fault Lexer := do
  let lexer ←
    if lexer.flowLevel != 0 then pure lexer
    else if lexer.keyAllowed then pure (lexer.openBlockHere .blockMappingStart)
    else throw .malformed
  let lexer ← lexer.dropKey
  return lexer.mark .key (lexer.flowLevel == 0)

def value (lexer : Lexer) : Except Fault Lexer := do
  match lexer.key? with
  | some key =>
    let lexer := { lexer with
      keys := lexer.keys.filter (·.1 != lexer.flowLevel)
      tokens := lexer.tokens.insertIdxIfInBounds key.token .key }
    let lexer :=
      if lexer.flowLevel = 0 then lexer.openBlock key.column .blockMappingStart key.token
      else lexer
    return lexer.mark .value false
  | none =>
    let lexer ←
      if lexer.flowLevel != 0 then pure lexer
      else if lexer.keyAllowed then pure (lexer.openBlockHere .blockMappingStart)
      else throw .malformed
    let lexer ← lexer.dropKey
    return lexer.mark .value (lexer.flowLevel == 0)

def word (lexer : Lexer) (read : Cursor → Except Fault (Token × Cursor)) : Except Fault Lexer := do
  let lexer ← lexer.noteKey
  let (token, cursor) ← read lexer.cursor
  return { lexer with cursor, tokens := lexer.tokens.push token, keyAllowed := false }

def plain (lexer : Lexer) : Except Fault Lexer := do
  let lexer ← lexer.noteKey
  let (text, newLine, cursor) := Plain.read (lexer.flowLevel != 0) lexer.indent lexer.cursor
  return { lexer with
    cursor, tokens := lexer.tokens.push (.scalar (Sign.ofChars text) true), keyAllowed := newLine }

def block (lexer : Lexer) (folded : Bool) : Except Fault Lexer := do
  let lexer ← lexer.dropKey
  match BlockScalar.read folded lexer.indent lexer.cursor with
  | none => throw .malformed
  | some (text, cursor) =>
    return { lexer with
      cursor, tokens := lexer.tokens.push (.scalar (Sign.ofChars text) false), keyAllowed := true }

def startsPlain (cursor : Cursor) (inFlow : Bool) : Bool :=
  match cursor.peek with
  | none => false
  | some c =>
    !(endsWord (some c) true || "-?:,[]\x7b\x7d#&*!|>'\"%@`".toList.contains c) ||
      (!endsWord (cursor.peek 1) true && (c == '-' || (!inFlow && (c == '?' || c == ':'))))

def step (lexer : Lexer) : Except Fault Lexer := do
  let lexer ← lexer.skipToToken.dropStaleKeys
  let lexer := lexer.unwind lexer.cursor.column
  let cursor := lexer.cursor
  let inFlow := lexer.flowLevel != 0
  let wordNext := endsWord (cursor.peek 1) true
  match cursor.peek with
  | none =>
    let lexer ← (lexer.unwind (-1)).dropKey
    return lexer.push .streamEnd
  | some c =>
    if c == '%' && cursor.column == 0 then
      let lexer ← (lexer.unwind (-1)).dropKey
      let (token, cursor) ← directive cursor
      return { lexer with cursor, tokens := lexer.tokens.push token, keyAllowed := false }
    else if cursor.column == 0 && cursor.atMarker '-' then lexer.separator .documentStart
    else if cursor.column == 0 && cursor.atMarker '.' then lexer.separator .documentEnd
    else if c == '[' then lexer.flowStart .flowSequenceStart
    else if c == '\x7b' then lexer.flowStart .flowMappingStart
    else if c == ']' then lexer.flowEnd .flowSequenceEnd
    else if c == '\x7d' then lexer.flowEnd .flowMappingEnd
    else if c == ',' then return (← lexer.dropKey).mark .flowEntry true
    else if c == '-' && wordNext then lexer.blockEntry
    else if c == '?' && (inFlow || wordNext) then lexer.explicitKey
    else if c == ':' && (inFlow || wordNext) then lexer.value
    else if c == '*' then
      lexer.word fun cursor => do
        let (text, cursor) ← anchorName cursor
        return (.alias text, cursor)
    else if c == '&' then
      lexer.word fun cursor => do
        let (text, cursor) ← anchorName cursor
        return (.anchor text, cursor)
    else if c == '!' then lexer.word tag
    else if c == '|' && !inFlow then lexer.block false
    else if c == '>' && !inFlow then lexer.block true
    else if c == '\'' || c == '"' then
      lexer.word fun cursor => do
        let (text, cursor) ← Quoted.read (c == '"') cursor
        return (.scalar text false, cursor)
    else if startsPlain cursor inFlow then lexer.plain
    else throw .malformed

/-- Reads tokens to the end of the text or to a fault. Of the tokens before a fault only the settled
ones are known. -/
def run : (fuel : Nat) → Lexer → Array Token × Option Fault
  | 0, lexer => (lexer.tokens, some .malformed)
  | fuel + 1, lexer =>
    match lexer.step with
    | .error fault => (lexer.settled, some fault)
    | .ok next =>
      if next.tokens.back? == some .streamEnd then (next.tokens, none) else run fuel next

end Lexer

def tokensOf (text : List Char) : List Token × Option Fault :=
  let (tokens, fault) := Lexer.run (text.length + 2) { cursor := .start text }
  (tokens.toList, fault)

end DocFinder.Yaml
