import DocFinder.Pattern.Matching
import DocFinder.Text.CharacterName
import DocFinder.Text.Identifier
import DocFinder.Text.Integer

namespace DocFinder.Pattern

inductive Symbol
  | plain (c : Char)
  | escaped (c : Char)
  deriving DecidableEq, Repr

def Symbol.text : Symbol → List Char
  | plain c => [c]
  | escaped c => ['\\', c]

def Symbol.string (symbol : Symbol) : String := .ofList symbol.text

structure Reading where
  position : Nat
  rest : List Char
  flags : Flags := {}
  names : List (List Char × Nat) := []
  /-- The width of every group that is closed, by number; group zero is the whole pattern. -/
  widths : Array (Option Width) := #[none]
  /-- The number of groups at the start of the outermost look-behind that is open. -/
  behindFrom : Option Nat := none
  /-- Groups that a condition names by number, with the place of their first mention. -/
  conditions : List (Nat × Nat) := []

namespace Reading

def symbol? (reading : Reading) : Option Symbol :=
  match reading.rest with
  | '\\' :: c :: _ => some (.escaped c)
  | c :: _ => some (.plain c)
  | [] => none

def groups (reading : Reading) : Nat := reading.widths.size

def isClosed (reading : Reading) (group : Nat) : Bool :=
  (reading.widths[group]?).join.isSome

end Reading

abbrev Reader := StateT Reading (Except CompileError)

namespace Reader

def fail {α : Type} (cause : Cause) (back : Nat := 0) : Reader α := do
  throw (.fault ⟨cause, some ((← get).position - back)⟩)

def here : Reader Nat := return (← get).position

def peek : Reader (Option Symbol) := return (← get).symbol?

def peekIs (c : Char) : Reader Bool := return (← get).symbol? == some (.plain c)

/-- A backslash with nothing behind it is met as soon as it is next. -/
def settle (position : Nat) (rest : List Char) : Reader Unit := do
  if rest = ['\\'] then throw (.fault ⟨.danglingEscape, some position⟩)
  modify fun reading => { reading with position, rest }

def next : Reader (Option Symbol) := do
  let reading ← get
  match reading.symbol? with
  | none => return none
  | some symbol =>
    let size := symbol.text.length
    settle (reading.position + size) (reading.rest.drop size)
    return some symbol

def accept (c : Char) : Reader Bool := do
  if ← peekIs c then
    let _ ← next
    return true
  return false

def takeUpTo (allowed : Char → Bool) : (most : Nat) → Reader (List Char)
  | 0 => return []
  | most + 1 => do
    match ← peek with
    | some (.plain c) =>
      if allowed c then
        let _ ← next
        return c :: (← takeUpTo allowed most)
      else return []
    | _ => return []

def takeAll (allowed : Char → Bool) : Reader (List Char) := do
  takeUpTo allowed (← get).rest.length

def name (terminator : Char) (what : String) : Reader (List Char) := do
  go (← get).rest.length []
where
  go : (fuel : Nat) → (taken : List Char) → Reader (List Char)
    | 0, taken => atEnd taken
    | fuel + 1, taken => do
      match ← next with
      | none => atEnd taken
      | some (.plain c) =>
        if c = terminator then
          if taken.isEmpty then fail (.missingName what) 1 else return taken
        else go fuel (taken ++ [c])
      | some symbol => go fuel (taken ++ symbol.text)
  atEnd (taken : List Char) : Reader (List Char) :=
    if taken.isEmpty then fail (.missingName what)
    else fail (.unterminatedName terminator) taken.length

end Reader

open Reader

def isHexDigit (c : Char) : Bool :=
  c.isDigit || ('a' ≤ c && c ≤ 'f') || ('A' ≤ c && c ≤ 'F')

def isOctalDigit (c : Char) : Bool := '0' ≤ c && c ≤ '7'

def numberOf (base : Nat) (digits : List Char) : Nat :=
  digits.foldl (fun n c => base * n + (Text.alphanumericValue? c).getD 0) 0

def namedEscape? : Char → Option Nat
  | 'a' => some 7
  | 'b' => some 8
  | 'f' => some 12
  | 'n' => some 10
  | 'r' => some 13
  | 't' => some 9
  | 'v' => some 11
  | '\\' => some 92
  | _ => none

def categoryEscape? : Char → Option SetItem
  | 'd' => some (.category false .digit)
  | 'D' => some (.category true .digit)
  | 's' => some (.category false .blank)
  | 'S' => some (.category true .blank)
  | 'w' => some (.category false .word)
  | 'W' => some (.category true .word)
  | _ => none

def anchorEscape? : Char → Option Anchor
  | 'A' => some .textStart
  | 'b' => some .boundary
  | 'B' => some .nonBoundary
  | 'Z' => some .textEnd
  | _ => none

def isAsciiAlpha (c : Char) : Bool := Text.isAsciiLetter c.toNat

def hexEscape (letter : Char) (size : Nat) : Reader Nat := do
  let digits ← takeUpTo isHexDigit size
  let escape := '\\' :: letter :: digits
  if digits.length ≠ size then fail (.incompleteEscape (.ofList escape)) escape.length
  let code := numberOf 16 digits
  if code ≥ 0x80000000 then throw .codeTooLarge
  if code ≥ 0x110000 then fail (.badEscape (.ofList escape)) escape.length
  return code

def characterEscape : Reader Nat := do
  if !(← accept '{') then fail .missingBrace
  let characterName ← name '}' "character name"
  match Text.codeNamed? (.ofList characterName) with
  | some code => return code
  | none => fail (.undefinedCharacter (.ofList characterName)) (characterName.length + 4)

def octalEscape (digits : List Char) : Reader Nat := do
  let code := numberOf 8 digits
  if code > 0o377 then
    fail (.octalTooLarge (.ofList ('\\' :: digits))) (digits.length + 1)
  return code

def codeEscape (c : Char) : Reader (Option Nat) := do
  match c with
  | 'x' => return some (← hexEscape 'x' 2)
  | 'u' => return some (← hexEscape 'u' 4)
  | 'U' => return some (← hexEscape 'U' 8)
  | 'N' => return some (← characterEscape)
  | _ => return none

def otherEscape (c : Char) : Reader Nat := do
  if isAsciiAlpha c || c.isDigit then fail (.badEscape (.ofList ['\\', c])) 2
  return c.toNat

def setEscape (c : Char) : Reader SetItem := do
  if let some code := namedEscape? c then return .one code
  if let some category := categoryEscape? c then return category
  if let some code ← codeEscape c then return .one code
  if isOctalDigit c then
    return .one (← octalEscape (c :: (← takeUpTo isOctalDigit 2)))
  return .one (← otherEscape c)

def checkBehind (group : Nat) : Reader Unit := do
  let reading ← get
  if let some first := reading.behindFrom then
    if !reading.isClosed group then fail .openGroupReference
    if group ≥ first then fail .lookbehindGroupReference

def reference (group size : Nat) : Reader Expr := do
  match ((← get).widths[group]?).join with
  | none => fail .openGroupReference size
  | some width =>
    checkBehind group
    return .again group width

def numberEscape (c : Char) : Reader Expr := do
  if c = '0' then
    return .single (.one (numberOf 8 (c :: (← takeUpTo isOctalDigit 2))))
  let second ← takeUpTo Char.isDigit 1
  let third ←
    match second with
    | [d] =>
      if isOctalDigit c && isOctalDigit d then takeUpTo isOctalDigit 1 else pure []
    | _ => pure []
  let digits := c :: (second ++ third)
  if digits.length = 3 then return .single (.one (← octalEscape digits))
  let group := numberOf 10 digits
  let size := digits.length + 1
  if group < (← get).groups then reference group size
  else fail (.invalidGroupReference group) (size - 1)

def escape (c : Char) : Reader Expr := do
  if let some kind := anchorEscape? c then return .anchor kind
  if let some category := categoryEscape? c then return .single (.set false [category])
  if let some code := namedEscape? c then return .single (.one code)
  if let some code ← codeEscape c then return .single (.one code)
  if c.isDigit then numberEscape c
  else return .single (.one (← otherEscape c))

def setItems (start : Nat) : (fuel : Nat) → (items : List SetItem) → Reader (List SetItem)
  | 0, _ => throw (.fault ⟨.tooDeep, none⟩)
  | fuel + 1, items => do
    let some first ← next | unterminated
    if first = .plain ']' && !items.isEmpty then return items
    let low ← item first
    if !(← accept '-') then setItems start fuel (items ++ [low])
    else
      let some last ← next | unterminated
      if last = .plain ']' then return items ++ [low, .one '-'.toNat]
      let high ← item last
      match low, high with
      | .one a, .one b =>
        if b < a then badRange first last
        else setItems start fuel (items ++ [.range a b])
      | _, _ => badRange first last
where
  unterminated : Reader (List SetItem) := do fail .unterminatedSet ((← here) - start)
  item : Symbol → Reader SetItem
    | .plain c => return .one c.toNat
    | .escaped c => setEscape c
  badRange (first last : Symbol) : Reader (List SetItem) :=
    fail (.badRange first.string last.string) (first.text.length + 1 + last.text.length)

def bracket : Reader Single := do
  let start := (← here) - 1
  let negated ← accept '^'
  let items ← setItems start ((← get).rest.length + 1) []
  match items.eraseDups with
  | [.one code] => return if negated then .other code else .one code
  | items => return .set negated items

def repeatLimit : Nat := 4294967295

def repeatCount (digits : List Char) : Reader Nat := do
  if digits.length > Text.longestNumeral then throw (.numeralTooLong digits.length)
  let count := numberOf 10 digits
  if count ≥ repeatLimit then throw .repeatTooLarge
  return count

def braces (start : Nat) : Reader (Option (Nat × Option Nat)) := do
  if ← peekIs '}' then return none
  let saved ← get
  let low ← takeAll Char.isDigit
  let high ← if ← accept ',' then takeAll Char.isDigit else pure low
  if !(← accept '}') then
    settle saved.position saved.rest
    return none
  let least ← if low.isEmpty then pure 0 else repeatCount low
  if high.isEmpty then return some (least, none)
  let most ← repeatCount high
  if most < least then fail .leastAboveMost ((← here) - start)
  return some (least, some most)

/-- What a sequence is read into. A group that neither captures nor sets flags is kept apart until
its sequence ends, so that a quantifier takes all of it. -/
inductive Piece
  | expr (expr : Expr)
  | plainGroup (items : List Expr)

def Piece.items : Piece → List Expr
  | expr e => [e]
  | plainGroup items => items

def greed : Reader Greed := do
  if ← accept '?' then return .reluctant
  if ← accept '+' then return .possessive
  return .greedy

def quantify (start : Nat) (least : Nat) (most : Option Nat) (pieces : List Piece) :
    Reader (List Piece) := do
  let back := (← here) - start + 1
  match pieces with
  | [] | .expr (.anchor _) :: _ => fail .nothingToRepeat back
  | .expr (.times ..) :: _ => fail .multipleRepeat back
  | last :: pieces =>
    return .expr (.times (← greed) least most (.ofList last.items)) :: pieces

/-- Expressions that hold no other: only these are shared by the branches of an alternation. -/
def isLeaf : Expr → Bool
  | .single _ | .anchor _ | .again .. => true
  | _ => false

def commonStart : (fuel : Nat) → List (List Expr) → List Expr × List (List Expr)
  | 0, branches => ([], branches)
  | fuel + 1, branches =>
    match branches with
    | (e :: _) :: _ =>
      if isLeaf e && branches.all (·.head? == some e) then
        let (shared, branches) := commonStart fuel (branches.map (·.drop 1))
        (e :: shared, branches)
      else ([], branches)
    | _ => ([], branches)

def branchItems? : List Expr → Option (List SetItem)
  | [.single (.one code)] => some [.one code]
  | [.single (.set false items)] => some items
  | _ => none

/-- An alternation: shared leaves come first, and branches of one point or set make one set. -/
def alternation : List (List Expr) → List Expr
  | [items] => items
  | branches =>
    let (shared, branches) := commonStart ((branches.head?.getD []).length) branches
    match branches.mapM branchItems? with
    | some sets => shared ++ [.single (.set false sets.flatten.eraseDups)]
    | none => shared ++ [.choice (branches.map .ofList)]

def flagOf? : Char → Option Flags
  | 'i' => some { ignoreCase := true }
  | 'm' => some { multiline := true }
  | 's' => some { dotAll := true }
  | 'x' => some { verbose := true }
  | 'a' => some { ascii := true }
  | 't' => some { template := true }
  | 'u' => some { unicode := true }
  | 'L' => some {}
  | _ => none

def flagLetter (ends : List Char) (missing : Cause) : Reader Char := do
  match ← next with
  | none => fail missing
  | some (.plain c) =>
    if ends.contains c || (flagOf? c).isSome then return c
    else fail (if Text.isLetter c.toNat then .unknownFlag else missing) 1
  | some (.escaped _) => fail missing 2

def flagsOn : (fuel : Nat) → (c : Char) → (on : Flags) → Reader (Flags × Char)
  | 0, _, _ => throw (.fault ⟨.tooDeep, none⟩)
  | fuel + 1, c, on => do
    if c = 'L' then fail .localeFlag
    let on := on.union ((flagOf? c).getD {})
    if on.ascii && on.unicode && (c = 'a' || c = 'u') then fail .charsetFlags
    let c ← flagLetter [')', '-', ':'] .unclosedFlags
    if c = ')' || c = '-' || c = ':' then return (on, c)
    flagsOn fuel c on

def flagsOff : (fuel : Nat) → (c : Char) → (off : Flags) → Reader Flags
  | 0, _, _ => throw (.fault ⟨.tooDeep, none⟩)
  | fuel + 1, c, off => do
    if c = 'a' || c = 'u' || c = 'L' then fail .charsetFlagTurnedOff
    let off := off.union ((flagOf? c).getD {})
    let c ← flagLetter [':'] .missingColon
    if c = ':' then return off
    flagsOff fuel c off

def flagList (c : Char) : Reader (Option (Flags × Flags)) := do
  let fuel := (← get).rest.length + 1
  let (on, mark) ← if c = '-' then pure ({}, '-') else flagsOn fuel c {}
  if mark = ')' then
    modify fun reading => { reading with flags := reading.flags.union on }
    return none
  if on.template then fail .globalFlagTurnedOn 1
  let off ←
    if mark = '-' then
      let c ← flagLetter [] .missingFlag
      flagsOff fuel c {}
    else pure {}
  if off.template then fail .globalFlagTurnedOff 1
  if (on.ignoreCase && off.ignoreCase) || (on.multiline && off.multiline) ||
      (on.dotAll && off.dotAll) || (on.verbose && off.verbose) then
    fail .flagTurnedOnAndOff 1
  return some (on, off)

def groupName (terminator : Char) : Reader (List Char) := do
  let text ← name terminator "group name"
  if !Text.isIdentifier text then fail (.badGroupName (.ofList text)) (text.length + 1)
  return text

def groupNamed (text : List Char) : Reader Nat := do
  match (← get).names.lookup text with
  | some group => return group
  | none => fail (.unknownGroupName (.ofList text)) (text.length + 1)

def groupLimit : Nat := 1073741823

def conditionGroup : Reader Nat := do
  let text ← name ')' "group name"
  let back := text.length + 1
  let group ←
    if Text.isIdentifier text then groupNamed text
    else
      match Text.integer? 10 text with
      | some (.ofNat 0) => fail .zeroGroupNumber back
      | some (.ofNat group) =>
        if group ≥ groupLimit then fail (.invalidGroupReference group) back
        let reading ← get
        if (reading.conditions.lookup group).isNone then
          set { reading with
            conditions := reading.conditions ++ [(group, reading.position - back)] }
        pure group
      | _ => fail (.badGroupName (.ofList text)) back
  checkBehind group
  return group

def openGroup (text? : Option (List Char)) : Reader Nat := do
  let reading ← get
  let group := reading.groups
  match text? with
  | none => pure ()
  | some text =>
    if let some earlier := reading.names.lookup text then
      fail (.redefinedGroup (.ofList text) group earlier) (text.length + 1)
  modify fun reading => { reading with
    widths := reading.widths.push none
    names := reading.names ++ (text?.map fun text => (text, group)).toList }
  return group

def closeGroup (group : Nat) (width : Width) : Reader Unit :=
  modify fun reading => { reading with widths := reading.widths.set! group (some width) }

def skipComment (start : Nat) : (fuel : Nat) → Reader Unit
  | 0 => throw (.fault ⟨.tooDeep, none⟩)
  | fuel + 1 => do
    match ← next with
    | none => fail .unterminatedComment ((← here) - start)
    | some symbol => if symbol = .plain ')' then return () else skipComment start fuel

def skipLine : (fuel : Nat) → Reader Unit
  | 0 => return ()
  | fuel + 1 => do
    match ← next with
    | none => return ()
    | some symbol => if symbol = .plain '\n' then return () else skipLine fuel

def close (start : Nat) : Reader Unit := do
  if !(← accept ')') then fail .unterminatedGroup ((← here) - start)

inductive Opening
  | capture (name : Option (List Char))
  | plain
  | flagged (on off : Flags)
  | wholeFlags
  | atomic
  | comment
  | reference (expr : Expr)
  | ahead (negated : Bool)
  | behind (negated : Bool)
  | condition (group : Nat)

def opening (start : Nat) : Reader Opening := do
  if !(← accept '?') then return .capture none
  let some symbol ← next | fail .unexpectedEnd
  match symbol with
  | .plain 'P' =>
    if ← accept '<' then return .capture (some (← groupName '>'))
    if ← accept '=' then
      let text ← groupName ')'
      let group ← groupNamed text
      return .reference (← reference group (text.length + 1))
    let some extension ← next | fail .unexpectedEnd
    fail (.unknownExtension (.ofList ('?' :: 'P' :: extension.text))) (extension.text.length + 2)
  | .plain ':' => return .plain
  | .plain '#' =>
    skipComment start ((← get).rest.length + 1)
    return .comment
  | .plain '=' => return .ahead false
  | .plain '!' => return .ahead true
  | .plain '<' =>
    let some sign ← next | fail .unexpectedEnd
    match sign with
    | .plain '=' => return .behind false
    | .plain '!' => return .behind true
    | _ => fail (.unknownExtension (.ofList ('?' :: '<' :: sign.text))) (sign.text.length + 2)
  | .plain '(' => return .condition (← conditionGroup)
  | .plain '>' => return .atomic
  | .plain c =>
    if c = '-' || (flagOf? c).isSome then
      match ← flagList c with
      | none => return .wholeFlags
      | some (on, off) => return .flagged on off
    else fail (.unknownExtension (.ofList ['?', c])) 2
  | .escaped _ =>
    fail (.unknownExtension (.ofList ('?' :: symbol.text))) (symbol.text.length + 1)

def isVerboseBlank (c : Char) : Bool :=
  c = ' ' || c = '\t' || c = '\n' || c = '\r' || c = '\x0b' || c = '\x0c'

mutual

def branches (whole : Bool) : (fuel : Nat) → (verbose : Bool) → (done : List (List Expr)) →
    Reader (List (List Expr))
  | 0, _, _ => throw (.fault ⟨.tooDeep, none⟩)
  | fuel + 1, verbose, done => do
    let items ← sequence (whole && done.isEmpty) fuel verbose []
    let done := done ++ [items]
    if ← accept '|' then
      let reading ← get
      branches whole fuel (if whole then reading.flags.verbose else verbose) done
    else return done

/-- A sequence, up to a bar, a closing parenthesis or the end. `leading` holds where the flags of
the whole pattern may still be set. -/
def sequence (leading : Bool) : (fuel : Nat) → (verbose : Bool) → (pieces : List Piece) →
    Reader (List Expr)
  | 0, _, _ => throw (.fault ⟨.tooDeep, none⟩)
  | fuel + 1, verbose, pieces => do
    match ← peek with
    | none | some (.plain '|') | some (.plain ')') => return pieces.reverse.flatMap Piece.items
    | some symbol =>
      let start ← here
      let _ ← next
      let keep (e : Expr) : Reader (List Expr) :=
        sequence leading fuel verbose (.expr e :: pieces)
      let counted (least : Nat) (most : Option Nat) : Reader (List Expr) := do
        sequence leading fuel verbose (← quantify (start + 1) least most pieces)
      match symbol with
      | .escaped c => keep (← escape c)
      | .plain c =>
        if verbose && isVerboseBlank c then sequence leading fuel verbose pieces
        else if verbose && c = '#' then
          skipLine ((← get).rest.length + 1)
          sequence leading fuel verbose pieces
        else match c with
        | '[' => keep (.single (← bracket))
        | '?' => counted 0 (some 1)
        | '*' => counted 0 none
        | '+' => counted 1 none
        | '{' =>
          match ← braces (start + 1) with
          | none => keep (.single (.one c.toNat))
          | some (least, most) => counted least most
        | '.' => keep (.single .any)
        | '^' => keep (.anchor .lineStart)
        | '$' => keep (.anchor .lineEnd)
        | '(' =>
          match ← opening start with
          | .wholeFlags =>
            if !leading || !pieces.isEmpty then fail .misplacedFlags ((← here) - start)
            sequence leading fuel (← get).flags.verbose pieces
          | .comment => sequence leading fuel verbose pieces
          | .reference e => keep e
          | .capture name =>
            let group ← openGroup name
            let body := Expr.ofList (← alternative fuel verbose)
            close start
            closeGroup group body.width
            keep (.capture group body)
          | .plain =>
            let items ← alternative fuel verbose
            close start
            sequence leading fuel verbose (.plainGroup items :: pieces)
          | .flagged on off =>
            let items ← alternative fuel ((verbose || on.verbose) && !off.verbose)
            close start
            keep (.flagged on off (.ofList items))
          | .atomic =>
            let items ← alternative fuel verbose
            close start
            keep (.atomic (.ofList items))
          | .ahead negated =>
            let items ← alternative fuel verbose
            close start
            keep (.ahead negated (.ofList items))
          | .behind negated =>
            let outer := (← get).behindFrom
            modify fun reading => { reading with
              behindFrom := some (outer.getD reading.groups) }
            let items ← alternative fuel verbose
            modify fun reading => { reading with behindFrom := outer }
            close start
            keep (.behind negated (.ofList items))
          | .condition group =>
            let yes ← sequence false fuel verbose []
            let no ←
              if ← accept '|' then
                let no ← sequence false fuel verbose []
                if ← peekIs '|' then fail .thirdConditionalBranch
                pure no
              else pure []
            close start
            keep (.ifMatched group (.ofList yes) (.ofList no))
        | _ => keep (.single (.one c.toNat))

def alternative : (fuel : Nat) → (verbose : Bool) → Reader (List Expr)
  | 0, _ => throw (.fault ⟨.tooDeep, none⟩)
  | fuel + 1, verbose => return alternation (← branches false fuel verbose [])

end

def danglingCondition? (reading : Reading) : Option Fault :=
  (reading.conditions.find? (·.1 ≥ reading.groups)).map fun (group, position) =>
    ⟨.invalidGroupReference group, some position⟩

def whole (pattern : List Char) : Reader Expr := do
  settle 0 pattern
  let items := alternation (← branches true (3 * pattern.length + 3) false [])
  let reading ← get
  if reading.flags.ascii && reading.flags.unicode then throw .repertoireConflict
  if (← peek).isSome then fail .unbalancedParenthesis
  if let some fault := danglingCondition? reading then throw (.fault fault)
  return .ofList items

def behindLimit : Nat := 0xffffffff

/-- What keeps a well-formed expression from being matched: a look-behind whose width varies or is
out of bounds, and any repetition if the pattern is a template. The first one counts. -/
def Expr.obstacle? (template : Bool) : Expr → Option Cause
  | empty | single _ | anchor _ | again .. => none
  | seq a b | either a b | ifMatched _ a b => (a.obstacle? template).or (b.obstacle? template)
  | capture _ body | flagged _ _ body | atomic body | ahead _ body => body.obstacle? template
  | behind _ body =>
    if body.width.least > behindLimit then some .farLookbehind
    else if body.width.least ≠ body.width.most then some .variableLookbehind
    else body.obstacle? template
  | times greed _ _ body =>
    if template then some (.templateRepeat greed) else body.obstacle? template

def Regex.compile (pattern : String) : Except CompileError Regex := do
  let (expr, reading) ← (whole pattern.toList).run ⟨0, [], {}, [], #[none], none, []⟩
  match expr.obstacle? reading.flags.template with
  | some cause => throw (.fault ⟨cause, none⟩)
  | none => return ⟨pattern, reading.flags, reading.groups - 1, expr⟩

end DocFinder.Pattern
