import DocFinder.Comparison
import DocFinder.Criterion

namespace DocFinder

inductive Matcher
  | always
  | never
  | not (inner : Matcher)
  | nameMatches (regex : Pattern.Regex)
  | nameIs (pattern : String)
  | nameStartsWith (pattern : String)
  | field (key : String) (comparison : Comparison)
  deriving DecidableEq, Repr

structure Query where
  smartName : Option String
  matchers : List Matcher
  deriving DecidableEq, Repr

inductive Clause
  | token (text : String)
  | criterion (criterion : Criterion)
  /-- A smart name search that is used as a condition. -/
  | conditionOfSmartName (pattern : String)
  deriving DecidableEq, Repr

def Condition.compile : Condition → Except QueryError Matcher
  | nameMatches pattern => do return .nameMatches (← compileRegex pattern)
  | fieldEquals key value => .ok (.field key (.equals value))
  | fieldMatches key pattern => do return .field key (.matches (← compileRegex pattern))

namespace Query

def defaultPreset : String := "default"

def presets : List String := ["", defaultPreset]

def Clause.read : Clause → Except QueryError Criterion
  | .token text => Criterion.parse text
  | .criterion criterion => .ok criterion
  | .conditionOfSmartName pattern => .error (.misplacedSmartName pattern)

def add (query : Query) : Criterion → Except QueryError Query
  | .smartName pattern =>
    match query.smartName with
    | some _ => .error .repeatedSmartName
    | none => .ok { query with smartName := some pattern }
  | .simple condition negated => do
    let matcher ← condition.compile
    return { query with matchers := query.matchers ++ [if negated then .not matcher else matcher] }

def ofClauses (clauses : List Clause) : Except QueryError Query :=
  clauses.foldlM (fun query clause => do query.add (← Clause.read clause)) ⟨none, []⟩

/-- Compiles a query. An unknown preset is reported before any clause is read. -/
def compile (clauses : List Clause) (preset : String) : Except QueryError Query :=
  if presets.contains preset then ofClauses clauses else .error (.unknownPreset preset)

end Query

end DocFinder
