import DocFinder.Text.Written

namespace DocFinder.Yaml

/-- What a document cannot be read for. All but the first are faults of a single value whose
conversion has no rule, and are not faults of the document's syntax. -/
inductive Fault
  | malformed
  | escapeOutOfRange
  | escapeTooLarge
  | numeralTooLong
  | malformedNumber
  | emptyNumber
  | unknownTruthValue
  | malformedTimestamp
  | impossibleDate
  | numberTooLarge
  | timestampOfCollection
  deriving DecidableEq, Repr

inductive Token
  | streamEnd
  | versionDirective (major minor : Nat)
  | tagDirective (handle uri : List Char)
  | otherDirective
  | documentStart
  | documentEnd
  | blockSequenceStart
  | blockMappingStart
  | blockEnd
  | flowSequenceStart
  | flowSequenceEnd
  | flowMappingStart
  | flowMappingEnd
  | blockEntry
  | flowEntry
  | key
  | value
  | anchor (name : List Char)
  | alias (name : List Char)
  /-- A tag with its handle, if it has one. -/
  | tag (handle : Option (List Char)) (suffix : List Char)
  | scalar (text : List Sign) (plain : Bool)
  deriving DecidableEq, Repr

def isPrintable (c : Char) : Bool :=
  let n := c.toNat
  n == 9 || n == 10 || n == 13 || (0x20 ≤ n && n ≤ 0x7e) || n == 0x85 ||
    (0xa0 ≤ n && n ≤ 0xd7ff) || (0xe000 ≤ n && n ≤ 0xfffd) || 0x10000 ≤ n

def isBreak (c : Char) : Bool :=
  c == '\n' || c == '\r' || c == '\u0085' || c == '\u2028' || c == '\u2029'

def endsLine (c? : Option Char) : Bool := c?.all isBreak

/-- Whether a word ends here: at a blank, a break or the end. Some words end at a tab, others do
not. -/
def endsWord (c? : Option Char) (atTab : Bool) : Bool :=
  c?.all fun c => isBreak c || c == ' ' || (atTab && c == '\t')

end DocFinder.Yaml
