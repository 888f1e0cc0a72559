import DocFinder.Calendar
import DocFinder.Number.Binary64
import DocFinder.Text.Written

namespace DocFinder

inductive Value
  | null
  | bool (b : Bool)
  | int (n : Int)
  | float (x : Number.Binary64)
  | text (s : Written)
  | bytes (bytes : List UInt8)
  | date (date : Date)
  | datetime (time : DateTime)
  | list (items : List Value)
  | tuple (items : List Value)
  | set (items : List Value)
  | map (entries : List (Value × Value))
  deriving BEq, Repr, Inhabited

@[match_pattern]
abbrev Value.plain (s : String) : Value := .text (.whole s)

end DocFinder
