import DocFinder.Number.Reading
import DocFinder.Text.Base64
import DocFinder.Value
import DocFinder.Yaml.Scalar

namespace DocFinder.Yaml

def dropUnderscores (text : List Char) : List Char := text.filter (· != '_')

def lowerAscii (text : List Char) : List Char := Number.asciiLowerText text

def boolWords : List (String × Bool) :=
  [("yes", true), ("no", false), ("true", true), ("false", false), ("on", true), ("off", false)]

def readBool (text : List Char) : Except Fault Bool :=
  match boolWords.find? fun (word, _) => word.toList == lowerAscii text with
  | some (_, b) => .ok b
  | none => .error .unknownTruthValue

def readSign : List Char → Except Fault (Bool × List Char)
  | [] => .error .emptyNumber
  | '-' :: rest => .ok (true, rest)
  | '+' :: rest => .ok (false, rest)
  | text => .ok (false, text)

def readDigits (base : Nat) (text : List Char) : Except Fault Int :=
  match Text.integer? base text with
  | some n => .ok n
  | none => .error .malformedNumber

def sexagesimal (parts : List Int) : Int := parts.foldl (fun n part => 60 * n + part) 0

def readInt (text : List Char) : Except Fault Int := do
  let (negative, text) ← readSign (dropUnderscores text)
  let n ←
    match text with
    | [] => throw .emptyNumber
    | ['0'] => pure 0
    | '0' :: 'b' :: digits => readDigits 2 digits
    | '0' :: 'x' :: digits => readDigits 16 digits
    | '0' :: _ => readDigits 8 text
    | _ =>
      if text.contains ':' then
        return (if negative then -1 else 1) *
          sexagesimal (← (Spelling.splitAt ':' text).mapM (readDigits 10))
      else readDigits 10 text
  return if negative then -n else n

def readDecimal (text : List Char) : Except Fault Number.Binary64 :=
  match Number.Binary64.ofText? text with
  | some x => .ok x
  | none => .error .malformedNumber

def sexagesimalSum : (parts : List Number.Binary64) → (weight : Int) → (sum : Number.Binary64) →
    Except Fault Number.Binary64
  | [], _, sum => .ok sum
  | part :: parts, weight, sum =>
    match Number.Binary64.ofInt? weight with
    | none => .error .numberTooLarge
    | some factor => sexagesimalSum parts (60 * weight) (sum.add (part.mul factor))

def readFloat (text : List Char) : Except Fault Number.Binary64 := do
  let (negative, text) ← readSign (lowerAscii (dropUnderscores text))
  let signed (x : Number.Binary64) : Number.Binary64 := if negative then x.neg else x
  if text = ".inf".toList then return .infinity negative
  else if text = ".nan".toList then return .nan (some 0)
  else if text.contains ':' then
    let parts ← (Spelling.splitAt ':' text).mapM readDecimal
    return signed (← sexagesimalSum parts.reverse 1 (.zero false))
  else return signed (← readDecimal text)

def readBinary (text : List Char) : Except Fault (List UInt8) :=
  if text.all (·.toNat < 128) then
    match Text.Base64.decode? text with
    | some bytes => .ok bytes
    | none => .error .malformed
  else .error .malformed

def readTimestamp (text : List Char) : Except Fault Value :=
  match Spelling.timestamp? (Spelling.dropLineFeed text) with
  | none => .error .malformedTimestamp
  | some ⟨date, none⟩ => if date.isValid then .ok (.date date) else .error .impossibleDate
  | some ⟨_, some time⟩ => if time.isValid then .ok (.datetime time) else .error .impossibleDate

/-- The value of a scalar. Types of collections have none, and neither do types without a rule. Only
texts have a place for what is no character. -/
def Tag.read (text : List Sign) : Tag → Except Fault Value
  | null => .ok .null
  | bool => (readBool (text.map Sign.shown)).map .bool
  | int => (readInt (text.map Sign.shown)).map .int
  | float => (readFloat (text.map Sign.shown)).map .float
  | binary => (readBinary (text.map Sign.shown)).map .bytes
  | timestamp => readTimestamp (text.map Sign.shown)
  | str => .ok (.text (.ofSigns text))
  | omap | pairs | set | seq | map | merge | value | other _ => .error .malformed

end DocFinder.Yaml
