import DocFinder.Text.Integer
import DocFinder.Text.Quoted

namespace DocFinder.Pattern

inductive Greed
  | greedy
  | reluctant
  | possessive
  deriving DecidableEq, Repr

inductive Cause
  | danglingEscape
  | badEscape (escape : String)
  | incompleteEscape (escape : String)
  | octalTooLarge (escape : String)
  | missingBrace
  | undefinedCharacter (name : String)
  | missingName (what : String)
  | unterminatedName (terminator : Char)
  | badGroupName (name : String)
  | unknownGroupName (name : String)
  | redefinedGroup (name : String) (group earlier : Nat)
  | openGroupReference
  | lookbehindGroupReference
  | invalidGroupReference (group : Nat)
  | zeroGroupNumber
  | unterminatedSet
  | badRange (first last : String)
  | leastAboveMost
  | nothingToRepeat
  | multipleRepeat
  | unexpectedEnd
  | unknownExtension (extension : String)
  | unterminatedComment
  | unterminatedGroup
  | thirdConditionalBranch
  | misplacedFlags
  | localeFlag
  | charsetFlags
  | unclosedFlags
  | missingFlag
  | missingColon
  | unknownFlag
  | globalFlagTurnedOn
  | globalFlagTurnedOff
  | charsetFlagTurnedOff
  | flagTurnedOnAndOff
  | unbalancedParenthesis
  | variableLookbehind
  | farLookbehind
  | templateRepeat (greed : Greed)
  | tooDeep
  deriving DecidableEq, Repr

def Greed.code : Greed → String
  | .greedy => "MAX_REPEAT"
  | .reluctant => "MIN_REPEAT"
  | .possessive => "POSSESSIVE_REPEAT"

def Cause.message : Cause → String
  | danglingEscape => "bad escape (end of pattern)"
  | badEscape escape => "bad escape " ++ escape
  | incompleteEscape escape => "incomplete escape " ++ escape
  | octalTooLarge escape => "octal escape value " ++ escape ++ " outside of range 0-0o377"
  | missingBrace => "missing \x7b"
  | undefinedCharacter name => "undefined character name " ++ Text.quote name
  | missingName what => "missing " ++ what
  | unterminatedName terminator => "missing " ++ terminator.toString ++ ", unterminated name"
  | badGroupName name => "bad character in group name " ++ Text.quote name
  | unknownGroupName name => "unknown group name " ++ Text.quote name
  | redefinedGroup name group earlier =>
    "redefinition of group name " ++ Text.quote name ++ " as group " ++ toString group ++
      "; was group " ++ toString earlier
  | openGroupReference => "cannot refer to an open group"
  | lookbehindGroupReference =>
    "cannot refer to group defined in the same lookbehind subpattern"
  | invalidGroupReference group => "invalid group reference " ++ toString group
  | zeroGroupNumber => "bad group number"
  | unterminatedSet => "unterminated character set"
  | badRange first last => "bad character range " ++ first ++ "-" ++ last
  | leastAboveMost => "min repeat greater than max repeat"
  | nothingToRepeat => "nothing to repeat"
  | multipleRepeat => "multiple repeat"
  | unexpectedEnd => "unexpected end of pattern"
  | unknownExtension extension => "unknown extension " ++ extension
  | unterminatedComment => "missing ), unterminated comment"
  | unterminatedGroup => "missing ), unterminated subpattern"
  | thirdConditionalBranch => "conditional backref with more than two branches"
  | misplacedFlags => "global flags not at the start of the expression"
  | localeFlag => "bad inline flags: cannot use 'L' flag with a str pattern"
  | charsetFlags => "bad inline flags: flags 'a', 'u' and 'L' are incompatible"
  | unclosedFlags => "missing -, : or )"
  | missingFlag => "missing flag"
  | missingColon => "missing :"
  | unknownFlag => "unknown flag"
  | globalFlagTurnedOn => "bad inline flags: cannot turn on global flag"
  | globalFlagTurnedOff => "bad inline flags: cannot turn off global flag"
  | charsetFlagTurnedOff => "bad inline flags: cannot turn off flags 'a', 'u' and 'L'"
  | flagTurnedOnAndOff => "bad inline flags: flag turned on and off"
  | unbalancedParenthesis => "unbalanced parenthesis"
  | variableLookbehind => "look-behind requires fixed-width pattern"
  | farLookbehind => "looks too much behind"
  | templateRepeat greed => "internal: unsupported template operator " ++ greed.code
  | tooDeep => "nested too deeply"

structure Fault where
  cause : Cause
  position : Option Nat
  deriving DecidableEq, Repr

def lineOf (pattern : List Char) (position : Nat) : Nat :=
  (pattern.take position).count '\n' + 1

def columnOf (pattern : List Char) (position : Nat) : Nat :=
  ((pattern.take position).reverse.takeWhile (· ≠ '\n')).length + 1

def Fault.message (pattern : List Char) (fault : Fault) : String :=
  match fault.position with
  | none => fault.cause.message
  | some position =>
    let text := fault.cause.message ++ " at position " ++ toString position
    if pattern.contains '\n' then
      text ++ " (line " ++ toString (lineOf pattern position) ++ ", column " ++
        toString (columnOf pattern position) ++ ")"
    else text

/-- Why a pattern has no compiled form. Only a fault is a statement about its syntax. -/
inductive CompileError
  | fault (fault : Fault)
  /-- A repeat count does not fit the counter. -/
  | repeatTooLarge
  /-- An escaped code point does not fit a machine integer. -/
  | codeTooLarge
  /-- A repeat count has more digits than a numeral may have. -/
  | numeralTooLong (digits : Nat)
  /-- Both character repertoires are asked for. -/
  | repertoireConflict
  deriving DecidableEq, Repr

def CompileError.complaint? : CompileError → Option String
  | fault _ | repeatTooLarge | codeTooLarge => none
  | numeralTooLong digits =>
    some ("Exceeds the limit (" ++ toString Text.longestNumeral ++
      " digits) for integer string conversion: value has " ++ toString digits ++
      " digits; use sys.set_int_max_str_digits() to increase the limit")
  | repertoireConflict => some "ASCII and UNICODE flags are incompatible"

end DocFinder.Pattern
