import DocFinder.Text.Base64
import DocFinder.Value.Key
import DocFinder.Value.Text

/-!
The form of a value that JSON can carry: null, truth values, numbers, texts, lists, and maps with
textual keys. Bytes become base 64 text, days and times their text, tuples and sets lists, and keys
their text.
-/

namespace DocFinder.Value

def insertField (name : Written) (value : Value) : List (Value × Value) → List (Value × Value) :=
  insertEntry (text name) value

mutual

/-- None if a key has no text. -/
def json? : Value → Option Value
  | null => some null
  | bool b => some (bool b)
  | int n => some (int n)
  | float x => some (float x)
  | text s => some (text s)
  | bytes b => some (text (String.ofList (Text.Base64.encode b)))
  | date d => some (text d.text)
  | datetime t => some (text t.text)
  | list items | tuple items | set items => (jsonItems? items).map list
  | map entries => (jsonEntries? [] entries).map map

def jsonItems? : List Value → Option (List Value)
  | [] => some []
  | item :: rest => do return (← json? item) :: (← jsonItems? rest)

def jsonEntries? (done : List (Value × Value)) :
    List (Value × Value) → Option (List (Value × Value))
  | [] => some done
  | (key, value) :: rest => do
    let name ← key.text?
    let value ← json? value
    jsonEntries? (insertField name value done) rest

end

end DocFinder.Value
