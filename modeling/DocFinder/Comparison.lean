import DocFinder.Pattern.Matching
import DocFinder.Value

namespace DocFinder

inductive Comparison
  | equals (value : String)
  | matches (regex : Pattern.Regex)
  deriving DecidableEq, Repr

namespace Comparison

def test (comparison : Comparison) (s : Written) : Bool :=
  match comparison with
  | equals value => s == .whole value
  | .matches regex => regex.search s

mutual

/-- None where the value has a shape that cannot be compared. -/
def compare (comparison : Comparison) : Value → Option Bool
  | .text s => some (comparison.test s)
  | .null => some false
  | .list [] => some false
  | .list items => compareAny comparison items
  | _ => none

def compareAny (comparison : Comparison) : List Value → Option Bool
  | [] => none
  | item :: rest =>
    match compare comparison item with
    | some true => some true
    | some false => some ((compareAny comparison rest).getD false)
    | none => compareAny comparison rest

end

end Comparison

end DocFinder
