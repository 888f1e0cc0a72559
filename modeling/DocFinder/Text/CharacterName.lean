import DocFinder.Text.CharacterName.Table
import DocFinder.Text.Integer

namespace DocFinder.Text

def behind? : (start text : List Char) → Option (List Char)
  | [], text => some text
  | _, [] => none
  | s :: start, c :: text => if s = c then behind? start text else none

def commaSeparated (names : String) : List String := names.splitOn ", "

def NameRun.ending? (run : NameRun) (name : String) : Option String :=
  if run.stem = "" then some name
  else (behind? (run.stem.toList ++ [' ']) name.toList).map .ofList

def NameRun.code? (run : NameRun) (name : String) : Option Nat := do
  let ending ← run.ending? name
  let index ← (commaSeparated run.endings).findIdx? (· == ending)
  return run.first + index

def ideographs : List (Nat × Nat) :=
  [(0x3400, 0x4dbf), (0x4e00, 0x9fff), (0x20000, 0x2a6df), (0x2a700, 0x2b738), (0x2b740, 0x2b81d),
    (0x2b820, 0x2cea1), (0x2ceb0, 0x2ebe0), (0x30000, 0x3134a)]

def isCapitalHexDigit (c : Char) : Bool := c.isDigit || ('A' ≤ c && c ≤ 'F')

def ideograph? (digits : List Char) : Option Nat := do
  guard ((digits.length == 4 || digits.length == 5) && digits.all isCapitalHexDigit)
  let code := ofDigits 16 (digits.filterMap alphanumericValue?)
  guard (ideographs.any fun (first, last) => first ≤ code && code ≤ last)
  return code

def initialSounds : List String :=
  ["G", "GG", "N", "D", "DD", "R", "M", "B", "BB", "S", "SS", "", "J", "JJ", "C", "K", "T", "P", "H"]

def vowels : List String :=
  ["A", "AE", "YA", "YAE", "EO", "E", "YEO", "YE", "O", "WA", "WAE", "OE", "YO", "U", "WEO", "WE",
    "WI", "YU", "EU", "YI", "I"]

def finalSounds : List String :=
  ["", "G", "GG", "GS", "N", "NJ", "NH", "D", "L", "LG", "LM", "LB", "LS", "LT", "LP", "LH", "M",
    "B", "BS", "S", "SS", "NG", "J", "C", "K", "T", "P", "H"]

def longestSound? (sounds : List String) (text : List Char) : Option (Nat × List Char) :=
  let found := sounds.zipIdx.filterMap fun (sound, i) => (behind? sound.toList text).map (i, ·)
  found.foldl (fun best (i, rest) =>
    match best with
    | some (_, shorter) => if rest.length < shorter.length then some (i, rest) else best
    | none => some (i, rest)) none

def syllable? (text : List Char) : Option Nat := do
  let (first, text) ← longestSound? initialSounds text
  let (second, text) ← longestSound? vowels text
  let (third, text) ← longestSound? finalSounds text
  guard text.isEmpty
  return 0xac00 + (first * vowels.length + second) * finalSounds.length + third

def listed? (name : String) : Option Nat :=
  (nameRuns.findSome? (·.code? name)).or
    ((nameAliases.find? fun (_, names) => (commaSeparated names).contains name).map (·.1))

def codeNamed? (name : String) : Option Nat :=
  match behind? "HANGUL SYLLABLE ".toList name.toList with
  | some sounds => syllable? sounds
  | none =>
    match behind? "CJK UNIFIED IDEOGRAPH-".toList name.toList with
    | some digits => ideograph? digits
    | none => listed? (.ofList (name.toList.map Char.toUpper))

end DocFinder.Text
