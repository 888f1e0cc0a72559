namespace DocFinder

structure Date where
  year : Nat
  month : Nat
  day : Nat
  deriving DecidableEq, Repr

structure DateTime where
  date : Date
  hour : Nat
  minute : Nat
  second : Nat
  microsecond : Nat
  offset : Option Int
  deriving DecidableEq, Repr

namespace Date

def isLeap (year : Nat) : Bool := year % 4 == 0 && (year % 100 != 0 || year % 400 == 0)

def daysInMonth (year month : Nat) : Nat :=
  if month = 2 then if isLeap year then 29 else 28
  else if month = 4 ∨ month = 6 ∨ month = 9 ∨ month = 11 then 30
  else 31

def isValid (date : Date) : Bool :=
  1 ≤ date.year && date.year ≤ 9999 && 1 ≤ date.month && date.month ≤ 12 &&
    1 ≤ date.day && date.day ≤ daysInMonth date.year date.month

def daysBeforeMonth (year month : Nat) : Nat :=
  ((List.range' 1 (month - 1)).map (daysInMonth year)).foldl (· + ·) 0

def ordinal (date : Date) : Nat :=
  let past := date.year - 1
  past * 365 + past / 4 - past / 100 + past / 400 + daysBeforeMonth date.year date.month +
    date.day

end Date

def padded (width n : Nat) : String :=
  let digits := Nat.toDigits 10 n
  .ofList (List.replicate (width - digits.length) '0' ++ digits)

def Date.text (date : Date) : String :=
  padded 4 date.year ++ "-" ++ padded 2 date.month ++ "-" ++ padded 2 date.day

namespace DateTime

def isValid (time : DateTime) : Bool :=
  time.date.isValid && time.hour < 24 && time.minute < 60 && time.second < 60 &&
    time.microsecond < 1000000 && time.offset.all fun offset => offset.natAbs < 1440

def offsetText (offset : Int) : String :=
  (if offset < 0 then "-" else "+") ++ padded 2 (offset.natAbs / 60) ++ ":" ++
    padded 2 (offset.natAbs % 60)

def text (time : DateTime) : String :=
  time.date.text ++ " " ++ padded 2 time.hour ++ ":" ++ padded 2 time.minute ++ ":" ++
    padded 2 time.second ++
    (if time.microsecond = 0 then "" else "." ++ padded 6 time.microsecond) ++
    (time.offset.map offsetText).getD ""

def clock (time : DateTime) : Int :=
  (((time.date.ordinal * 24 + time.hour) * 60 + time.minute) * 60 + time.second) * 1000000 +
    time.microsecond

/-- Two times are the same if their offsets are known and they are the same instant, or if no
offset is known and the clocks agree. -/
def same (a b : DateTime) : Bool :=
  match a.offset, b.offset with
  | some s, some t => a.clock - s * 60000000 == b.clock - t * 60000000
  | none, none => a.clock == b.clock
  | _, _ => false

end DateTime

end DocFinder
