import DocFinder.Text.Printable
import DocFinder.Text.Written

namespace DocFinder.Text

def hexChar (n : Nat) : Char := Nat.digitChar n

def hexDigits : (width : Nat) → Nat → List Char
  | 0, _ => []
  | width + 1, n => hexDigits width (n / 16) ++ [hexChar (n % 16)]

def quoteMark (codes : List Nat) : Char :=
  if codes.contains '\''.toNat && !codes.contains '"'.toNat then '"' else '\''

def escapeCode (mark : Char) (showAs : Nat → Option Char) (code : Nat) : List Char :=
  if code == mark.toNat || code == '\\'.toNat then ['\\', Char.ofNat code]
  else if code == 9 then ['\\', 't']
  else if code == 10 then ['\\', 'n']
  else if code == 13 then ['\\', 'r']
  else match showAs code with
  | some c => [c]
  | none =>
    if code < 0x100 then '\\' :: 'x' :: hexDigits 2 code
    else if code < 0x10000 then '\\' :: 'u' :: hexDigits 4 code
    else '\\' :: 'U' :: hexDigits 8 code

def quoteCodes (showAs : Nat → Option Char) (codes : List Nat) : List Char :=
  let mark := quoteMark codes
  mark :: codes.flatMap (escapeCode mark showAs) ++ [mark]

def showPrintable (code : Nat) : Option Char :=
  if isPrintable code then some (Char.ofNat code) else none

def showAscii (code : Nat) : Option Char :=
  if 32 ≤ code ∧ code < 127 then some (Char.ofNat code) else none

def quote (text : Written) : String := .ofList (quoteCodes showPrintable text.codes)

def quoteBytes (bytes : List UInt8) : String :=
  .ofList ('b' :: quoteCodes showAscii (bytes.map (·.toNat)))

end DocFinder.Text
