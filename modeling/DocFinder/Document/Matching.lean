import DocFinder.Document
import DocFinder.Query

namespace DocFinder

def pathKey : String := "path"

def Document.field (opener : Opener) (document : Document) (key : String) : Answer Value :=
  if key = pathKey then ⟨.ok (.text document.path.text), document, []⟩
  else
    let answer := document.metadata opener
    { answer with
      result := answer.result.map fun metadata => ((metadata.bind (·.field? key)).getD .null) }

/-- The verdict on a field. One that cannot be compared is refused with a warning. -/
def Comparison.judge (comparison : Comparison) (key : String) (answer : Answer Value) :
    Answer Bool :=
  match answer.result with
  | .error failure => ⟨.error failure, answer.document, answer.events⟩
  | .ok value =>
    match comparison.compare value with
    | some verdict => ⟨.ok verdict, answer.document, answer.events⟩
    | none =>
      ⟨.ok false, answer.document,
        answer.events ++ [.warned (.uncomparable key answer.document.path)]⟩

namespace Matcher

def accepts (opener : Opener) (document : Document) : Matcher → Answer Bool
  | always => ⟨.ok true, document, []⟩
  | never => ⟨.ok false, document, []⟩
  | not inner =>
    let answer := inner.accepts opener document
    { answer with result := answer.result.map (!·) }
  | nameMatches regex => ⟨.ok (document.name?.any regex.search), document, []⟩
  | nameIs pattern => ⟨.ok (document.name?.any (· == pattern)), document, []⟩
  | nameStartsWith pattern =>
    ⟨.ok (document.name?.any fun name => pattern.toList.isPrefixOf name.toList), document, []⟩
  | field key comparison => comparison.judge key (document.field opener key)

def allAccept (opener : Opener) (document : Document) : List Matcher → Answer Bool
  | [] => ⟨.ok true, document, []⟩
  | matcher :: rest =>
    let answer := matcher.accepts opener document
    match answer.result with
    | .ok true =>
      let more := allAccept opener answer.document rest
      { more with events := answer.events ++ more.events }
    | _ => answer

end Matcher

end DocFinder
