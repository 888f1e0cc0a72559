import DocFinder.Number.Binary64

/-!
The text of a binary64 number: the fewest digits that read back as the number, the nearest of
those, positional from `0.0001` to below `1e16` and with an exponent of at least two digits
elsewhere.
-/

namespace DocFinder.Number

def digitsOf (n : Nat) : List Char := Nat.toDigits 10 n

/-- The reals that round to `m * 2 ^ e`, in quarters of the unit `2 ^ e`. The ends belong to it if
the mantissa is even. -/
structure RoundingInterval where
  low : Nat
  high : Nat
  closed : Bool
  deriving Repr

def RoundingInterval.of (m : Nat) (e : Int) : RoundingInterval :=
  ⟨4 * m - (if m = Binary64.leadingBit ∧ e > Binary64.leastExponent then 1 else 2), 4 * m + 2, m % 2 = 0⟩

def RoundingInterval.has (interval : RoundingInterval) (e : Int) (d : Nat) (k : Int) : Bool :=
  let left := 4 * d * power 10 k * power 2 (-e)
  let scale := power 10 (-k) * power 2 e
  let low := interval.low * scale
  let high := interval.high * scale
  if interval.closed then low ≤ left && left ≤ high else low < left && left < high

def distance (m : Nat) (e : Int) (d : Nat) (k : Int) : Nat :=
  let a := d * power 10 k * power 2 (-e)
  let b := m * power 10 (-k) * power 2 e
  (a - b) + (b - a)

def decimalPoint (m : Nat) (e : Int) : Int :=
  let guess : Int := ((Nat.log2 m : Int) + e) * 30103 / 100000
  let below (p : Int) : Bool :=
    m * power 2 e * power 10 (-p) < power 10 p * power 2 (-e)
  if below guess then guess
  else if below (guess + 1) then guess + 1
  else guess + 2

/-- Tries `count` and more digits: the neighbours of the number on the grid of that many digits. -/
def shortestFrom (m : Nat) (e : Int) (point : Int) : (fuel count : Nat) → Nat × Int
  | 0, count =>
    let k := point - count
    (Binary64.roundQuotient (m * power 2 e * power 10 (-k)) (power 10 k * power 2 (-e)), k)
  | fuel + 1, count =>
    let k := point - count
    let d := m * power 2 e * power 10 (-k) / (power 10 k * power 2 (-e))
    let interval := RoundingInterval.of m e
    match interval.has e d k, interval.has e (d + 1) k with
    | true, true =>
      let low := distance m e d k
      let high := distance m e (d + 1) k
      (if low < high || (low == high && d % 2 == 0) then d else d + 1, k)
    | true, false => (d, k)
    | false, true => (d + 1, k)
    | false, false => shortestFrom m e point fuel (count + 1)

def shortest (m : Nat) (e : Int) : Nat × Int :=
  shortestFrom m e (decimalPoint m e) 16 1

def stripZeros (digits : List Char) : List Char :=
  match (digits.reverse.dropWhile (· == '0')).reverse with
  | [] => ['0']
  | digits => digits

def positional (digits : List Char) (point : Int) : List Char :=
  if point ≤ 0 then '0' :: '.' :: List.replicate (-point).toNat '0' ++ digits
  else
    let whole := digits.take point.toNat
    let part := digits.drop point.toNat
    whole ++ List.replicate (point.toNat - whole.length) '0' ++ '.' ::
      (if part.isEmpty then ['0'] else part)

def scientific (digits : List Char) (exponent : Int) : List Char :=
  let size := digitsOf exponent.natAbs
  let mantissa :=
    match digits with
    | first :: second :: rest => first :: '.' :: second :: rest
    | digits => digits
  mantissa ++ 'e' :: (if exponent < 0 then '-' else '+') ::
    (if size.length < 2 then '0' :: size else size)

def Binary64.text : Binary64 → String
  | nan _ => "nan"
  | infinity negative => if negative then "-inf" else "inf"
  | finite negative m e =>
    let body :=
      if m = 0 then ['0', '.', '0']
      else
        let (d, k) := shortest m e
        let all := digitsOf d
        let digits := stripZeros all
        let point := (all.length : Int) + k
        if -4 < point ∧ point ≤ 16 then positional digits point
        else scientific digits (point - 1)
    .ofList (if negative then '-' :: body else body)

end DocFinder.Number
