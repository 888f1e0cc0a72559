import DocFinder.FrontMatter.Preamble
import DocFinder.Text.Utf8
import DocFinder.Yaml.Document

namespace DocFinder.FrontMatter

inductive Problem
  | unreadable (error : SystemError)
  | undecodable (fault : Text.Utf8.Fault)
  | malformed
  /-- A scalar in the block has no conversion. -/
  | unconvertible (fault : Yaml.Fault)
  deriving DecidableEq, Repr

structure Extraction where
  outcome : Except Problem (Option Value)
  warnings : List Warning

/-- In front matter, what looks like a date stays text. -/
def schema : Yaml.Schema := ⟨false⟩

def orEmpty : Value → Value
  | .null => .map []
  | value => value

def parse (block : List UInt8) : Except Problem Value :=
  match Text.Utf8.decode block with
  | .error fault => .error (.undecodable fault)
  | .ok text =>
    match Yaml.load schema text with
    | .error .malformed => .error .malformed
    | .error fault => .error (.unconvertible fault)
    | .ok value => .ok (orEmpty value)

def extract (source : Source) (size : Int) : Extraction :=
  let scan := findPreamble source size
  match scan.found with
  | .error error => ⟨.error (.unreadable error), scan.warnings⟩
  | .ok none => ⟨.ok none, scan.warnings⟩
  | .ok (some block) => ⟨(parse block).map some, scan.warnings⟩

end DocFinder.FrontMatter
