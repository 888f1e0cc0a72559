import DocFinder.Number.Binary64
import DocFinder.Text.Integer

namespace DocFinder.Number

def startsWithDigit : List Char → Bool
  | [] => false
  | c :: _ => Text.isDecimalDigit c.toNat

def leadingDigits (afterDigit : Bool) : List Char → List Nat × List Char
  | [] => ([], [])
  | c :: rest =>
    if afterDigit && c == '_' && startsWithDigit rest then leadingDigits false rest
    else
      match Text.digitValue? c.toNat with
      | none => ([], c :: rest)
      | some value =>
        let (values, tail) := leadingDigits true rest
        (value :: values, tail)

def exponent? : List Char → Option Int
  | [] => some 0
  | c :: rest =>
    if c = 'e' ∨ c = 'E' then
      let (negative, rest) :=
        match rest with
        | '-' :: rest => (true, rest)
        | '+' :: rest => (false, rest)
        | rest => (false, rest)
      match leadingDigits false rest with
      | ([], _) => none
      | (digits, []) =>
        let n : Int := Text.ofDigits 10 digits
        some (if negative then -n else n)
      | _ => none
    else none

def asciiLowerText (text : List Char) : List Char :=
  text.map fun c => if 'A' ≤ c ∧ c ≤ 'Z' then Char.ofNat (c.toNat + 32) else c

def unsigned? (negative : Bool) (text : List Char) : Option Binary64 :=
  let named := asciiLowerText text
  if named = "inf".toList ∨ named = "infinity".toList then some (.infinity negative)
  else if named = "nan".toList then some (.nan none)
  else
    let (whole, rest) := leadingDigits false text
    let (part, rest) :=
      match rest with
      | '.' :: rest => leadingDigits false rest
      | rest => ([], rest)
    if whole.isEmpty && part.isEmpty then none
    else
      (exponent? rest).map fun exponent =>
        .ofDecimal negative (Text.ofDigits 10 (whole ++ part)) (exponent - part.length)

def Binary64.ofText? (text : List Char) : Option Binary64 :=
  match Text.trimNumeral text with
  | '-' :: rest => unsigned? true rest
  | '+' :: rest => unsigned? false rest
  | rest => unsigned? false rest

end DocFinder.Number
