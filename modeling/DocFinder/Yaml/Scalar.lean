import DocFinder.Calendar
import DocFinder.Yaml.Token

namespace DocFinder.Yaml

inductive Tag
  | null
  | bool
  | int
  | float
  | binary
  | timestamp
  | omap
  | pairs
  | set
  | str
  | seq
  | map
  | merge
  | value
  | other (name : List Char)
  deriving DecidableEq, Repr

def commonTypes : List Char := "tag:yaml.org,2002:".toList

def Tag.named : List (String × Tag) :=
  [("null", null), ("bool", bool), ("int", int), ("float", float), ("binary", binary),
    ("timestamp", timestamp), ("omap", omap), ("pairs", pairs), ("set", set), ("str", str),
    ("seq", seq), ("map", map), ("merge", merge), ("value", value)]

def Tag.ofName (name : List Char) : Tag :=
  match named.find? fun (short, _) => commonTypes ++ short.toList == name with
  | some (_, tag) => tag
  | none => other name

structure Schema where
  /-- Whether days and times have a type of their own. -/
  timestamps : Bool
  deriving DecidableEq, Repr

namespace Spelling

def dropLineFeed (text : List Char) : List Char :=
  match text.getLast? with
  | some '\n' => text.dropLast
  | _ => text

def isOneOf (words : List String) (text : List Char) : Bool :=
  words.any (·.toList == text)

def isBool : List Char → Bool :=
  isOneOf ["yes", "Yes", "YES", "no", "No", "NO", "true", "True", "TRUE", "false", "False",
    "FALSE", "on", "On", "ON", "off", "Off", "OFF"]

def isNull : List Char → Bool := isOneOf ["", "~", "null", "Null", "NULL"]

def unsigned : List Char → List Char
  | '-' :: rest | '+' :: rest => rest
  | text => text

def isDigitOrBar (c : Char) : Bool := c.isDigit || c == '_'

def isNumber : List Char → Bool
  | c :: rest => c.isDigit && rest.all isDigitOrBar
  | [] => false

def splitAt (mark : Char) : List Char → List (List Char)
  | [] => [[]]
  | c :: rest =>
    if c == mark then [] :: splitAt mark rest
    else
      match splitAt mark rest with
      | piece :: pieces => (c :: piece) :: pieces
      | [] => [[c]]

def isSixtieth : List Char → Bool
  | [a] => a.isDigit
  | [a, b] => '0' ≤ a && a ≤ '5' && b.isDigit
  | _ => false

def isSexagesimal (text : List Char) : Bool :=
  match splitAt ':' text with
  | first :: rest => isNumber first && !rest.isEmpty && rest.all isSixtieth
  | [] => false

def isHexDigit (c : Char) : Bool :=
  c.isDigit || ('a' ≤ c && c ≤ 'f') || ('A' ≤ c && c ≤ 'F')

def isInt (text : List Char) : Bool :=
  match unsigned text with
  | '0' :: 'b' :: rest => !rest.isEmpty && rest.all fun c => c == '0' || c == '1' || c == '_'
  | '0' :: 'x' :: rest => !rest.isEmpty && rest.all fun c => isHexDigit c || c == '_'
  | '0' :: rest => rest.all fun c => ('0' ≤ c && c ≤ '7') || c == '_'
  | text => isNumber text || isSexagesimal text && text.head? != some '0'

def isExponent : List Char → Bool
  | [] => true
  | e :: sign :: digits =>
    (e == 'e' || e == 'E') && (sign == '-' || sign == '+') && !digits.isEmpty &&
      digits.all Char.isDigit
  | _ => false

def isFraction (text : List Char) : Bool := isExponent (text.dropWhile isDigitOrBar)

def isFloat (text : List Char) : Bool :=
  let body := unsigned text
  match text with
  | '.' :: rest => (isNumber (rest.takeWhile isDigitOrBar) && isFraction rest) || named text body
  | _ =>
    named text body ||
      match splitAt '.' body with
      | whole :: part :: parts =>
        (isNumber whole && isFraction (behindPoint part parts)) ||
          (parts.isEmpty && isSexagesimal whole && part.all isDigitOrBar)
      | _ => false
where
  named (text body : List Char) : Bool :=
    isOneOf [".inf", ".Inf", ".INF"] body || isOneOf [".nan", ".NaN", ".NAN"] text
  behindPoint (part : List Char) (parts : List (List Char)) : List Char :=
    parts.foldl (fun text part => text ++ '.' :: part) part

def digits? (least most : Nat) (text : List Char) : Option (Nat × List Char) :=
  let digits := (text.take most).takeWhile Char.isDigit
  if digits.length < least then none
  else
    some (digits.foldl (fun n c => 10 * n + (c.toNat - '0'.toNat)) 0, text.drop digits.length)

def mark? (c : Char) : List Char → Option (List Char)
  | d :: rest => if c == d then some rest else none
  | [] => none

def microseconds (digits : List Char) : Nat :=
  let digits := digits.take 6
  (digits ++ List.replicate (6 - digits.length) '0').foldl
    (fun n c => 10 * n + (c.toNat - '0'.toNat)) 0

def isBlank (c : Char) : Bool := c == ' ' || c == '\t'

def zone? (text : List Char) : Option (Option Int) :=
  match text with
  | [] => some none
  | _ =>
    match text.dropWhile isBlank with
    | ['Z'] => some (some 0)
    | sign :: rest =>
      if sign == '-' || sign == '+' then do
        let (hours, rest) ← digits? 1 2 rest
        let minutes ←
          match rest with
          | [] => some 0
          | _ => do
            let (minutes, rest) ← digits? 2 2 (← mark? ':' rest)
            if rest.isEmpty then some minutes else none
        let offset : Int := hours * 60 + minutes
        some (some (if sign == '-' then -offset else offset))
      else none
    | [] => none

structure Timestamp where
  date : Date
  time : Option DateTime
  deriving DecidableEq, Repr

def time? (date : Date) (text : List Char) : Option DateTime := do
  let text ←
    match text with
    | 'T' :: rest | 't' :: rest => some rest
    | c :: rest => if isBlank c then some (rest.dropWhile isBlank) else none
    | [] => none
  let (hour, text) ← digits? 1 2 text
  let (minute, text) ← digits? 2 2 (← mark? ':' text)
  let (second, text) ← digits? 2 2 (← mark? ':' text)
  let (fraction, text) :=
    match text with
    | '.' :: rest => (rest.takeWhile Char.isDigit, rest.dropWhile Char.isDigit)
    | _ => ([], text)
  let offset ← zone? text
  return ⟨date, hour, minute, second, microseconds fraction, offset⟩

def timestamp? (text : List Char) : Option Timestamp := do
  let (year, text) ← digits? 4 4 text
  let (month, text) ← digits? 1 2 (← mark? '-' text)
  let (day, text) ← digits? 1 2 (← mark? '-' text)
  let date := ⟨year, month, day⟩
  if text.isEmpty then return ⟨date, none⟩
  return ⟨date, ← time? date text⟩

/-- Whether a plain scalar is a timestamp. A day that stands alone has all of its digits. -/
def isTimestamp (text : List Char) : Bool :=
  match timestamp? text with
  | none => false
  | some ⟨_, some _⟩ => true
  | some ⟨_, none⟩ => text.length == 10

def isMerge (text : List Char) : Bool := text == ['<', '<']

def isValue (text : List Char) : Bool := text == ['=']

def isNodeMark (text : List Char) : Bool := text == ['!'] || text == ['&'] || text == ['*']

end Spelling

open Spelling in
def Schema.resolve (schema : Schema) (text : List Char) : Tag :=
  let text := if text = ['\n'] then text else dropLineFeed text
  if isBool text then .bool
  else if isFloat text then .float
  else if isInt text then .int
  else if isMerge text then .merge
  else if isNull text then .null
  else if schema.timestamps && isTimestamp text then .timestamp
  else if isValue text then .value
  else if isNodeMark text then .other (commonTypes ++ "yaml".toList)
  else .str

end DocFinder.Yaml
