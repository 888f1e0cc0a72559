import DocFinder.Pattern.Parser

namespace DocFinder

inductive Condition
  | nameMatches (pattern : String)
  | fieldEquals (key value : String)
  | fieldMatches (key pattern : String)
  deriving DecidableEq, Repr

inductive Criterion
  /-- Documents of this name or, if there are none, documents whose name begins like this. -/
  | smartName (pattern : String)
  | simple (condition : Condition) (negated : Bool)
  deriving DecidableEq, Repr

inductive Unsupported
  | expression
  | range
  | contents
  deriving DecidableEq, Repr

inductive QueryError
  | unsupported (feature : Unsupported) (token : String)
  | negatedSmartName (token : String)
  | badRegex (pattern : String) (fault : Pattern.Fault)
  | repeatedSmartName
  | unknownPreset (preset : String)
  /-- A pattern that fails to compile for a reason other than its syntax. -/
  | uncompilable (reason : Pattern.CompileError)
  /-- A smart name search where only a condition may stand. -/
  | misplacedSmartName (pattern : String)
  deriving DecidableEq, Repr

def Unsupported.message : Unsupported → String
  | expression => "`=EXPRESSION` syntax is not implemented"
  | range => "Range comparisons are not implemented"
  | contents => "Full-text content search is not implemented"

namespace QueryError

/-- The wording of a refusal; none if the pattern could not even be judged. -/
def message? : QueryError → Option String
  | unsupported feature token => some (feature.message ++ ": '" ++ token ++ "'")
  | negatedSmartName token =>
    some ("Smart name search cannot be used with negation: '" ++ token ++ "'")
  | badRegex pattern fault =>
    some ("Failed to compile the regex '" ++ pattern ++ "': " ++ fault.message pattern.toList)
  | repeatedSmartName => some "Smart name search criteria can only appear once"
  | unknownPreset preset => some ("Unknown query preset: '" ++ preset ++ "'")
  | misplacedSmartName pattern =>
    some ("Unknown criterion: NameSmart(pattern=" ++ Text.quote pattern ++ ")")
  | uncompilable _ => none

end QueryError

def compileRegex (pattern : String) : Except QueryError Pattern.Regex :=
  match Pattern.Regex.compile pattern with
  | .ok regex => .ok regex
  | .error (.fault fault) => .error (.badRegex pattern fault)
  | .error reason => .error (.uncompilable reason)

namespace Criterion

def slashed? : List Char → Option (List Char)
  | '/' :: rest => if rest.getLast? = some '/' then some rest.dropLast else none
  | _ => none

def splitColon? : List Char → Option (List Char × List Char)
  | [] => none
  | c :: rest =>
    if c = ':' then some ([], rest)
    else (splitColon? rest).map fun (key, value) => (c :: key, value)

def contentsKey : List Char := "contents".toList

def isRange : List Char → Bool
  | '<' :: _ | '>' :: _ => true
  | _ => false

/-- Reads what stands behind the mark of negation. `token` is the whole text. -/
def parseBody (token : String) (negated : Bool) (body : List Char) : Except QueryError Criterion :=
  match slashed? body with
  | some pattern => do
    let _ ← compileRegex (.ofList pattern)
    return .simple (.nameMatches (.ofList pattern)) negated
  | none =>
    if body.head? = some '=' then .error (.unsupported .expression token)
    else
      match splitColon? body with
      | some (key, value) =>
        if isRange value then .error (.unsupported .range token)
        else if key = contentsKey then .error (.unsupported .contents token)
        else
          match slashed? value with
          | some pattern => do
            let _ ← compileRegex (.ofList pattern)
            return .simple (.fieldMatches (.ofList key) (.ofList pattern)) negated
          | none => .ok (.simple (.fieldEquals (.ofList key) (.ofList value)) negated)
      | none =>
        if negated then .error (.negatedSmartName token) else .ok (.smartName (.ofList body))

def parse (token : String) : Except QueryError Criterion :=
  match token.toList with
  | '!' :: body => parseBody token true body
  | body => parseBody token false body

def parseAll (tokens : List String) : Except QueryError (List Criterion) := tokens.mapM parse

end Criterion

def Condition.text : Condition → String
  | nameMatches pattern => "/" ++ pattern ++ "/"
  | fieldEquals key value => key ++ ":" ++ value
  | fieldMatches key pattern => key ++ ":/" ++ pattern ++ "/"

def Criterion.text : Criterion → String
  | smartName pattern => pattern
  | simple condition negated => (if negated then "!" else "") ++ condition.text

end DocFinder
