import DocFinder.Number.Reading
import DocFinder.Query
import DocFinder.Value.Key

namespace DocFinder

inductive Field
  | root
  | criteria
  | preset
  | includeMetadata
  deriving DecidableEq, Repr

def Field.key : Field → String
  | root => "root"
  | criteria => "criteria"
  | preset => "preset"
  | includeMetadata => "include_metadata"

structure Form where
  name : String
  fields : List Field
  deriving DecidableEq, Repr

namespace Form

def queryFields : List Field := [.root, .criteria, .preset]

def baseRoot : Form := ⟨"BaseRootInput", [.root]⟩

def baseQuery : Form := ⟨"BaseQueryInput", queryFields⟩

def describe : Form := ⟨"DescribeRootInput", [.root]⟩

def which : Form := ⟨"WhichDocumentInput", queryFields⟩

def list : Form := ⟨"ListDocumentsInput", queryFields ++ [.includeMetadata]⟩

def readMetadata : Form := ⟨"ReadDocumentMetadataInput", queryFields⟩

def all : List Form := [baseRoot, baseQuery, describe, which, list, readMetadata]

end Form

structure Input where
  root : Option String := none
  criteria : List String := []
  preset : String := Query.defaultPreset
  includeMetadata : Bool := false
  deriving DecidableEq, Repr

inductive InputFault
  | notText
  /-- A text that is not made of characters. -/
  | tornText
  | notList
  | notBool
  | unknownBool
  | notMap (form : String)
  | unacceptable (reason : String)
  deriving DecidableEq, Repr

def InputFault.kind : InputFault → String
  | notText => "string_type"
  | tornText => "string_unicode"
  | notList => "list_type"
  | notBool => "bool_type"
  | unknownBool => "bool_parsing"
  | notMap _ => "model_type"
  | unacceptable _ => "value_error"

def InputFault.message : InputFault → String
  | notText => "Input should be a valid string"
  | tornText =>
    "Input should be a valid string, unable to parse raw data as a unicode string"
  | notList => "Input should be a valid list"
  | notBool => "Input should be a valid boolean"
  | unknownBool => "Input should be a valid boolean, unable to interpret input"
  | notMap form => "Input should be a valid dictionary or instance of " ++ form
  | unacceptable reason => "Value error, " ++ reason

structure InputError where
  location : List String
  fault : InputFault
  deriving DecidableEq, Repr

inductive Refusal
  | invalid (errors : List InputError)
  /-- A pattern cannot be compiled and that is not the fault of its text. -/
  | unjudged (reason : Pattern.CompileError)
  deriving DecidableEq, Repr

namespace Input

def emptyRoot : String :=
  "Root directory cannot be empty. Either omit the root parameter or provide a directory path."

def refuse {α : Type} (fault : InputFault) : Except Refusal α := .error (.invalid [⟨[], fault⟩])

def textFault? : Value → Option InputFault
  | .plain _ => none
  | .text _ => some .tornText
  | _ => some .notText

def asText : Value → Except Refusal String
  | .plain s => .ok s
  | .text _ => refuse .tornText
  | _ => refuse .notText

def trimmed (s : String) : String := .ofList (Text.trim s.toList)

def readRoot : Value → Except Refusal (Option String)
  | .null => .ok none
  | value => do
    let root := trimmed (← asText value)
    if root = "" then refuse (.unacceptable emptyRoot) else return some root

def checkQuery (tokens : List String) (preset : String) : Except Refusal Unit :=
  match Query.compile (tokens.map .token) preset with
  | .ok _ => .ok ()
  | .error (.uncompilable reason) =>
    match reason.complaint? with
    | some complaint => refuse (.unacceptable complaint)
    | none => .error (.unjudged reason)
  | .error error => refuse (.unacceptable (error.message?.getD ""))

def itemErrors (items : List Value) : List InputError :=
  items.zipIdx.filterMap fun (item, i) =>
    (textFault? item).map fun fault => ⟨[toString i], fault⟩

def textsOf (items : List Value) : List String :=
  items.filterMap fun item => match item with | .plain s => some s | _ => none

def readCriteria : Value → Except Refusal (List String)
  | .list items =>
    if (itemErrors items).isEmpty then do
      checkQuery (textsOf items) Query.defaultPreset
      return textsOf items
    else .error (.invalid (itemErrors items))
  | _ => refuse .notList

def readPreset (value : Value) : Except Refusal String := do
  let preset ← asText value
  checkQuery [] preset
  return preset

def trueWords : List String := ["1", "on", "t", "true", "y", "yes"]

def falseWords : List String := ["0", "off", "f", "false", "n", "no"]

/-- The whole number that a number is, if it fits into 64 bits with its sign. -/
def wholeNumber? : Value → Option Int
  | .int n => if -0x8000000000000000 ≤ n ∧ n < 0x8000000000000000 then some n else none
  | .float x =>
    x.toInt?.filter fun n => -0x8000000000000000 < n && n < 0x8000000000000000
  | _ => none

def readBool : Value → Except Refusal Bool
  | .bool b => .ok b
  | .plain s =>
    let word := String.ofList (Number.asciiLowerText s.toList)
    if trueWords.contains word then .ok true
    else if falseWords.contains word then .ok false
    else refuse .unknownBool
  | .text _ => refuse .tornText
  | value =>
    match wholeNumber? value with
    | some 1 => .ok true
    | some 0 => .ok false
    | some _ => refuse .unknownBool
    | none => refuse .notBool

def set (input : Input) (value : Value) : Field → Except Refusal Input
  | .root => (readRoot value).map fun root => { input with root }
  | .criteria => (readCriteria value).map fun criteria => { input with criteria }
  | .preset => (readPreset value).map fun preset => { input with preset }
  | .includeMetadata =>
    (readBool value).map fun includeMetadata => { input with includeMetadata }

def readFields (data : Value) : List Field → Input × List InputError →
    Except Pattern.CompileError (Input × List InputError)
  | [], done => .ok done
  | field :: rest, (input, errors) =>
    match data.field? field.key with
    | none => readFields data rest (input, errors)
    | some value =>
      match input.set value field with
      | .ok input => readFields data rest (input, errors)
      | .error (.invalid more) =>
        let more := more.map fun error => { error with location := field.key :: error.location }
        readFields data rest (input, errors ++ more)
      | .error (.unjudged reason) => .error reason

def read (form : Form) : Value → Except Refusal Input
  | .map entries =>
    match readFields (.map entries) form.fields ({}, []) with
    | .ok (input, []) => .ok input
    | .ok (_, errors) => .error (.invalid errors)
    | .error reason => .error (.unjudged reason)
  | _ => refuse (.notMap form.name)

def fieldValue (input : Input) : Field → Value
  | .root => (input.root.map .plain).getD .null
  | .criteria => .list (input.criteria.map .plain)
  | .preset => .text input.preset
  | .includeMetadata => .bool input.includeMetadata

def toValue (form : Form) (input : Input) : Value :=
  .map (form.fields.map fun field => (.plain field.key, input.fieldValue field))

end Input

end DocFinder
