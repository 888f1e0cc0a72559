namespace DocFinder.Text

structure RangeTable where
  ranges : Array (Nat × Nat)
  deriving Repr

namespace RangeTable

def hexDigit (c : Char) : Nat :=
  if c.isDigit then c.toNat - '0'.toNat else c.toNat - 'a'.toNat + 10

def ofHex (digits : List Char) : Nat :=
  digits.foldl (fun n c => 16 * n + hexDigit c) 0

def range (word : List Char) : Nat × Nat :=
  let low := word.takeWhile (· != '-')
  match word.dropWhile (· != '-') with
  | [] => (ofHex low, ofHex low)
  | _ :: high => (ofHex low, ofHex high)

def words (text : String) : List (List Char) :=
  let (word, rest) := text.toList.foldr
    (fun c (word, rest) =>
      if c = ' ' ∨ c = '\n' then ([], if word.isEmpty then rest else word :: rest)
      else (c :: word, rest))
    (([], []) : List Char × List (List Char))
  if word.isEmpty then rest else word :: rest

def ofText (text : String) : RangeTable :=
  ⟨((words text).map range).toArray⟩

def search (ranges : Array (Nat × Nat)) (code low high : Nat) : Bool :=
  if low < high then
    let middle := low + (high - low) / 2
    match ranges[middle]? with
    | none => false
    | some (first, last) =>
      if code < first then search ranges code low middle
      else if last < code then search ranges code (middle + 1) high
      else true
  else false
termination_by high - low

def contains (table : RangeTable) (code : Nat) : Bool :=
  search table.ranges code 0 table.ranges.size

end RangeTable

end DocFinder.Text
