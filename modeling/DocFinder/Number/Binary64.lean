/-!
Numbers of the binary64 format, with rounding to the nearest and ties to the even neighbour. A
finite number is a mantissa below `2 ^ 53` times a power of two; its exponent is the least possible
one, or the mantissa has all of its fifty-three bits.
-/

namespace DocFinder.Number

def power (base : Nat) (exponent : Int) : Nat := Nat.pow base exponent.toNat

inductive Binary64
  /-- Not a number. Two of these are the same key only if they carry the same mark. -/
  | nan (mark : Option Nat)
  | infinity (negative : Bool)
  | finite (negative : Bool) (mantissa : Nat) (exponent : Int)
  deriving DecidableEq, Repr

namespace Binary64

def leastExponent : Int := -1074

def greatestExponent : Int := 971

def leadingBit : Nat := 0x10000000000000

def zero (negative : Bool) : Binary64 := finite negative 0 leastExponent

def roundQuotient (num den : Nat) : Nat :=
  let low := num / den
  let twice := 2 * (num % den)
  if twice < den then low
  else if den < twice then low + 1
  else if low % 2 = 0 then low else low + 1

def inUnits (num den : Nat) (exponent : Int) : Nat × Nat :=
  (num * power 2 (-exponent), den * power 2 exponent)

def exponentOf (num den : Nat) : Int :=
  let guess : Int := (Nat.log2 num : Int) - Nat.log2 den - 52
  let (a, b) := inUnits num den guess
  max leastExponent (if a < leadingBit * b then guess - 1 else guess)

def ofRatio (negative : Bool) (num den : Nat) : Binary64 :=
  if num = 0 then zero negative
  else
    let exponent := exponentOf num den
    let (a, b) := inUnits num den exponent
    let mantissa := roundQuotient a b
    let (mantissa, exponent) :=
      if mantissa = 2 * leadingBit then (leadingBit, exponent + 1) else (mantissa, exponent)
    if exponent > greatestExponent then infinity negative else finite negative mantissa exponent

def ofDecimal (negative : Bool) (digits : Nat) (exponent : Int) : Binary64 :=
  let magnitude : Int := (Nat.log2 digits : Int) * 30103 / 100000 + exponent
  if digits = 0 then zero negative
  else if magnitude > 320 then infinity negative
  else if magnitude < -340 then zero negative
  else ofRatio negative (digits * power 10 exponent) (power 10 (-exponent))

def ofInt? (n : Int) : Option Binary64 :=
  match ofRatio (n < 0) n.natAbs 1 with
  | infinity _ => none
  | x => some x

def neg : Binary64 → Binary64
  | nan mark => nan mark
  | infinity negative => infinity !negative
  | finite negative m e => finite (!negative) m e

/-- `± m * 2 ^ e` as a whole number of units `2 ^ unit`, where `unit ≤ e`. -/
def units (negative : Bool) (m : Nat) (e unit : Int) : Int :=
  let n : Int := m * power 2 (e - unit)
  if negative then -n else n

def add : Binary64 → Binary64 → Binary64
  | nan _, _ | _, nan _ => nan none
  | infinity a, infinity b => if a = b then infinity a else nan none
  | infinity a, finite .. => infinity a
  | finite .., infinity b => infinity b
  | finite s m e, finite t n f =>
    let unit := min e f
    let sum := units s m e unit + units t n f unit
    if sum = 0 then zero (s && t)
    else ofRatio (sum < 0) (sum.natAbs * power 2 unit) (power 2 (-unit))

def mul : Binary64 → Binary64 → Binary64
  | nan _, _ | _, nan _ => nan none
  | infinity a, infinity b => infinity (a != b)
  | infinity a, finite t n _ => if n = 0 then nan none else infinity (a != t)
  | finite s m _, infinity b => if m = 0 then nan none else infinity (s != b)
  | finite s m e, finite t n f =>
    let unit := e + f
    ofRatio (s != t) (m * n * power 2 unit) (power 2 (-unit))

def toInt? : Binary64 → Option Int
  | nan _ | infinity _ => none
  | finite negative m e =>
    if e < 0 then
      if m % power 2 (-e) = 0 then
        let n : Int := (m / power 2 (-e) : Nat)
        some (if negative then -n else n)
      else none
    else some (units negative m e 0)

end Binary64

end DocFinder.Number
