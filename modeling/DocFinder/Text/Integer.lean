import DocFinder.Text.Blank
import DocFinder.Text.Numerals

namespace DocFinder.Text

def longestNumeral : Nat := 4300

def alphanumericValue? (c : Char) : Option Nat :=
  if 'a' ≤ c ∧ c ≤ 'z' then some (c.toNat - 'a'.toNat + 10)
  else if 'A' ≤ c ∧ c ≤ 'Z' then some (c.toNat - 'A'.toNat + 10)
  else digitValue? c.toNat

/-- The values of digits with single underscores between them. `digitNext` holds where an
underscore may not stand. -/
def digitValues? (base : Nat) : (digitNext : Bool) → List Char → Option (List Nat)
  | digitNext, [] => if digitNext then none else some []
  | digitNext, c :: rest =>
    if c = '_' then if digitNext then none else digitValues? base true rest
    else
      match alphanumericValue? c with
      | none => none
      | some value =>
        if value < base then (digitValues? base false rest).map (value :: ·) else none

def ofDigits (base : Nat) (digits : List Nat) : Nat :=
  digits.foldl (fun n d => base * n + d) 0

def isPowerOfTwo (base : Nat) : Bool := base == 2 || base == 8 || base == 16

def baseLetter? : Nat → Option Char
  | 2 => some 'b'
  | 8 => some 'o'
  | 16 => some 'x'
  | _ => none

def announces (base : Nat) (zero letter : Char) : Bool :=
  digitValue? zero.toNat == some 0 &&
    (baseLetter? base).any fun l => letter == l || letter.toNat + 32 == l.toNat

def dropBase (base : Nat) : List Char → List Char
  | zero :: letter :: rest =>
    if announces base zero letter then
      match rest with
      | '_' :: digits => digits
      | digits => digits
    else zero :: letter :: rest
  | text => text

/-- Reads digits of a base. Digits of a base that is no power of two are limited in number. -/
def natural? (base : Nat) (text : List Char) : Option Nat :=
  match digitValues? base true (dropBase base text) with
  | none => none
  | some digits =>
    if !isPowerOfTwo base && digits.length > longestNumeral then none
    else some (ofDigits base digits)

def integer? (base : Nat) (text : List Char) : Option Int :=
  match trimNumeral text with
  | '+' :: digits => (natural? base digits).map Int.ofNat
  | '-' :: digits => (natural? base digits).map (- Int.ofNat ·)
  | digits => (natural? base digits).map Int.ofNat

end DocFinder.Text
