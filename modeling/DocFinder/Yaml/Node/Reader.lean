import DocFinder.Yaml.Node
import DocFinder.Yaml.Token.Lexer

namespace DocFinder.Yaml

structure Reading where
  schema : Schema
  tokens : List Token
  fault : Option Fault
  handles : List (List Char × List Char) := []
  /-- Named nodes; a collection that is not complete has no node yet. -/
  anchors : List (List Char × Option Nat) := []
  graph : Graph := #[]

abbrev Reader := StateT Reading (Except Fault)

namespace Reader

def fail {α : Type} : Reader α := throw .malformed

def peek : Reader Token := do
  let reading ← get
  match reading.tokens with
  | token :: _ => return token
  | [] => throw (reading.fault.getD .malformed)

def drop : Reader Unit := modify fun reading => { reading with tokens := reading.tokens.drop 1 }

def nextIs (token : Token) : Reader Bool := return (← peek) == token

def accept (token : Token) : Reader Bool := do
  if ← nextIs token then
    drop
    return true
  return false

def expect (token : Token) : Reader Unit := do
  if !(← accept token) then fail

def nextIsOneOf (tokens : List Token) : Reader Bool := return tokens.contains (← peek)

end Reader

open Reader

def add (node : Node) : Reader Nat := do
  let reading ← get
  set { reading with graph := reading.graph.push node }
  return reading.graph.size

def blank : Reader Nat := do add ⟨(← get).schema.resolve [], .scalar []⟩

def properties : Reader (Option (List Char) × Option (Option (List Char) × List Char)) := do
  match ← peek with
  | .anchor name =>
    drop
    match ← peek with
    | .tag handle suffix =>
      drop
      return (some name, some (handle, suffix))
    | _ => return (some name, none)
  | .tag handle suffix =>
    drop
    match ← peek with
    | .anchor name =>
      drop
      return (some name, some (handle, suffix))
    | _ => return (none, some (handle, suffix))
  | _ => return (none, none)

def tagName : Option (List Char) → List Char → Reader (List Char)
  | none, suffix => return suffix
  | some handle, suffix => do
    match (← get).handles.lookup handle with
    | some start => return start ++ suffix
    | none => fail

def isOpenTag (tag : Option (List Char)) : Bool := tag.all (· == ['!'])

def tagOr (tag : Option (List Char)) (usual : Tag) : Tag :=
  match tag with
  | some name => if name == ['!'] then usual else .ofName name
  | none => usual

def scalarNode (tag : Option (List Char)) (text : List Sign) (plain : Bool) : Reader Nat := do
  let found := (← get).schema.resolve (text.map Sign.shown)
  match tag with
  | none => add ⟨if plain then found else .str, .scalar text⟩
  | some _ => add ⟨tagOr tag found, .scalar text⟩

def setAnchor (anchor : Option (List Char)) (node : Option Nat) : Reader Unit :=
  match anchor with
  | none => return ()
  | some name => modify fun reading => { reading with anchors := (name, node) :: reading.anchors }

def checkAnchor : Option (List Char) → Reader Unit
  | none => return ()
  | some name => do
    if ((← get).anchors.lookup name).isSome then fail

mutual

/-- Reads a node. `block` allows the collections that are shown by indentation, and `indentless` a
sequence whose entries are not indented. -/
def node : (fuel : Nat) → (block indentless : Bool) → Reader Nat
  | 0, _, _ => fail
  | fuel + 1, block, indentless => do
    match ← peek with
    | .alias name =>
      drop
      -- The name of a collection that is still open would put it into itself. That is no tree of
      -- values and is not read, although such documents can be written.
      match ((← get).anchors.lookup name).join with
      | some node => return node
      | none => fail
    | _ =>
      let (anchor, written) ← properties
      let tag ←
        match written with
        | none => pure none
        | some (handle, suffix) => do pure (some (← tagName handle suffix))
      let token ← peek
      checkAnchor anchor
      if indentless && token == .blockEntry then
        setAnchor anchor none
        let node ← add ⟨tagOr tag .seq, .sequence (← indentlessSequence fuel)⟩
        setAnchor anchor (some node)
        return node
      match token, block with
      | .scalar text plain, _ =>
        drop
        let node ← scalarNode tag text plain
        setAnchor anchor (some node)
        return node
      | .flowSequenceStart, _ =>
        drop
        setAnchor anchor none
        let node ← add ⟨tagOr tag .seq, .sequence (← flowSequence fuel true)⟩
        setAnchor anchor (some node)
        return node
      | .flowMappingStart, _ =>
        drop
        setAnchor anchor none
        let node ← add ⟨tagOr tag .map, .mapping (← flowMapping fuel true)⟩
        setAnchor anchor (some node)
        return node
      | .blockSequenceStart, true =>
        drop
        setAnchor anchor none
        let node ← add ⟨tagOr tag .seq, .sequence (← blockSequence fuel)⟩
        setAnchor anchor (some node)
        return node
      | .blockMappingStart, true =>
        drop
        setAnchor anchor none
        let node ← add ⟨tagOr tag .map, .mapping (← blockMapping fuel)⟩
        setAnchor anchor (some node)
        return node
      | _, _ =>
        if anchor.isNone && tag.isNone then fail
        let node ← scalarNode tag [] (isOpenTag tag)
        setAnchor anchor (some node)
        return node

def blockSequence : (fuel : Nat) → Reader (List Nat)
  | 0 => fail
  | fuel + 1 => do
    if ← accept .blockEntry then
      let item ←
        if ← nextIsOneOf [.blockEntry, .blockEnd] then blank else node fuel true false
      return item :: (← blockSequence fuel)
    expect .blockEnd
    return []

def indentlessSequence : (fuel : Nat) → Reader (List Nat)
  | 0 => fail
  | fuel + 1 => do
    if ← accept .blockEntry then
      let item ←
        if ← nextIsOneOf [.blockEntry, .key, .value, .blockEnd] then blank
        else node fuel true false
      return item :: (← indentlessSequence fuel)
    return []

def blockMapping : (fuel : Nat) → Reader (List (Nat × Nat))
  | 0 => fail
  | fuel + 1 => do
    if ← accept .key then
      let key ← blockPart fuel
      let value ← if ← accept .value then blockPart fuel else blank
      return (key, value) :: (← blockMapping fuel)
    expect .blockEnd
    return []

def blockPart : (fuel : Nat) → Reader Nat
  | 0 => fail
  | fuel + 1 => do
    if ← nextIsOneOf [.key, .value, .blockEnd] then blank else node fuel true true

/-- The key or the value of a flow collection behind its mark; `ends` are the tokens that stand
there if nothing is written. -/
def flowPart (ends : List Token) : (fuel : Nat) → Reader Nat
  | 0 => fail
  | fuel + 1 => do
    if ← nextIsOneOf ends then blank else node fuel false false

def flowSequence : (fuel : Nat) → (first : Bool) → Reader (List Nat)
  | 0, _ => fail
  | fuel + 1, first => do
    if ← accept .flowSequenceEnd then return []
    if !first then expect .flowEntry
    if ← accept .key then
      let key ← flowPart [.value, .flowEntry, .flowSequenceEnd] fuel
      let value ←
        if ← accept .value then flowPart [.flowEntry, .flowSequenceEnd] fuel else blank
      let item ← add ⟨.map, .mapping [(key, value)]⟩
      return item :: (← flowSequence fuel false)
    if ← accept .flowSequenceEnd then return []
    let item ← node fuel false false
    return item :: (← flowSequence fuel false)

def flowMapping : (fuel : Nat) → (first : Bool) → Reader (List (Nat × Nat))
  | 0, _ => fail
  | fuel + 1, first => do
    if ← accept .flowMappingEnd then return []
    if !first then expect .flowEntry
    if ← accept .key then
      let key ← flowPart [.value, .flowEntry, .flowMappingEnd] fuel
      let value ←
        if ← accept .value then flowPart [.flowEntry, .flowMappingEnd] fuel else blank
      return (key, value) :: (← flowMapping fuel false)
    if ← accept .flowMappingEnd then return []
    let key ← node fuel false false
    let value ← blank
    return (key, value) :: (← flowMapping fuel false)

end

def usualHandles : List (List Char × List Char) := [(['!'], ['!']), (['!', '!'], commonTypes)]

def directives : (fuel : Nat) → (versioned : Bool) → Reader Unit
  | 0, _ => fail
  | fuel + 1, versioned => do
    match ← peek with
    | .versionDirective major _ =>
      if versioned || major ≠ 1 then fail
      drop
      directives fuel true
    | .tagDirective handle start =>
      let reading ← get
      if (reading.handles.lookup handle).isSome then fail
      set { reading with
        tokens := reading.tokens.drop 1
        handles := (handle, start) :: reading.handles }
      directives fuel versioned
    | .otherDirective =>
      drop
      directives fuel versioned
    | _ => return ()

def skipDocumentEnds : (fuel : Nat) → Reader Unit
  | 0 => fail
  | fuel + 1 => do
    if ← accept .documentEnd then skipDocumentEnds fuel

def document (fuel : Nat) : Reader (Option Nat) := do
  match ← peek with
  | .streamEnd => return none
  | .versionDirective .. | .tagDirective .. | .otherDirective | .documentStart =>
    directives fuel false
    expect .documentStart
    modify fun reading => { reading with handles := reading.handles ++ usualHandles }
    let token ← peek
    let root ←
      match token with
      | .versionDirective .. | .tagDirective .. | .otherDirective | .documentStart
      | .documentEnd | .streamEnd => blank
      | _ => node fuel true false
    close root
  | _ =>
    modify fun reading => { reading with handles := usualHandles }
    close (← node fuel true false)
where
  /-- Nothing stands behind the document. The directives of another one are read all the same: a
  fault in them, or behind them, comes first. -/
  close (root : Nat) : Reader (Option Nat) := do
    skipDocumentEnds fuel
    if ← nextIs .streamEnd then return some root
    modify fun reading => { reading with handles := [] }
    directives fuel false
    fail

def Graph.read (schema : Schema) (text : List Char) : Except Fault (Option (Graph × Nat)) := do
  if !text.all isPrintable then throw .malformed
  let (tokens, fault) := tokensOf text
  let (root, reading) ← (document (3 * tokens.length + 3)).run { schema, tokens, fault }
  return root.map (reading.graph, ·)

end DocFinder.Yaml
