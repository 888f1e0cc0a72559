import DocFinder.Value

/-!
Values as keys. Numbers are compared by what they count: `1`, `1.0` and `true` are one key. A map
keeps the first of equal keys and the last of their values.
-/

namespace DocFinder.Value

def count? : Value → Option Int
  | bool b => some (if b then 1 else 0)
  | int n => some n
  | float x => x.toInt?
  | _ => none

def sameFloat : Number.Binary64 → Number.Binary64 → Bool
  | .nan a, .nan b => a.isSome && a == b
  | a, b => a == b

mutual

def sameKey : Value → Value → Bool
  | null, null => true
  | text a, text b => a == b
  | bytes a, bytes b => a == b
  | date a, date b => a == b
  | datetime a, datetime b => a.same b
  | tuple as, tuple bs => sameKeys as bs
  | a, b =>
    match a.count?, b.count? with
    | some m, some n => m == n
    | none, none =>
      match a, b with
      | float x, float y => sameFloat x y
      | _, _ => false
    | _, _ => false

def sameKeys : List Value → List Value → Bool
  | [], [] => true
  | a :: as, b :: bs => sameKey a b && sameKeys as bs
  | _, _ => false

end

/-- Sets the value of a key. A key that is there already stays as it was first written. -/
def insertEntry (key value : Value) : List (Value × Value) → List (Value × Value)
  | [] => [(key, value)]
  | (k, v) :: rest =>
    if sameKey k key then (k, value) :: rest else (k, v) :: insertEntry key value rest

def entriesOf (entries : List (Value × Value)) : List (Value × Value) :=
  entries.foldl (fun done (key, value) => insertEntry key value done) []

/-- A set of items. Sets have no order of their own; here they stay in the order of writing. -/
def elementsOf (items : List Value) : List Value :=
  (entriesOf (items.map fun item => (item, null))).map (·.1)

def field? (key : Written) : Value → Option Value
  | map entries =>
    (entries.find? fun (k, _) => match k with | text s => s == key | _ => false).map (·.2)
  | _ => none

end DocFinder.Value
