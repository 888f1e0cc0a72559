import DocFinder.Selection

/-!
A selection that is under way. A caller asks for one item after the other. Between two items a
selection keeps where its pass stands, what became of its source and whether the pass has yielded.
-/

namespace DocFinder.Selection

structure Course where
  supply : Supply
  /-- The matchers of each pass, from the present one on. -/
  phases : List (List Matcher)
  /-- The present pass, once it has begun. -/
  pass : Option Pass := none
  produced : Bool := false
  /-- What was seen so far. -/
  log : List Event := []

inductive Stop
  | yielded (item : SelectionItem)
  | exhausted
  | broken (breakdown : Breakdown)

structure Stretch where
  events : List Event := []
  supply : Supply
  rest : List PathItem := []
  stop : Stop

def stretch (opener : Opener) (matchers : List Matcher) (feed : Feed) :
    Supply → List PathItem → Stretch
  | supply, [] => { supply, stop := .exhausted }
  | supply, item :: rest =>
    let one := examine opener matchers item
    let seen := feed.events ++ one.events
    let after := supply.drew item feed
    match one.breakdown, one.items with
    | some breakdown, _ => ⟨seen, after, rest, .broken breakdown⟩
    | none, result :: _ => ⟨seen, after, rest, .yielded result⟩
    | none, [] =>
      let later := stretch opener matchers feed after rest
      { later with events := seen ++ later.events }

namespace Course

def start (source : PathSource) (query : Query) : Course :=
  { supply := source.supply query, phases := query.phases }

def present (tree : FileTree) (course : Course) : Except Breakdown (Pass × Course) :=
  match course.pass with
  | some pass => .ok (pass, course)
  | none =>
    (course.supply.begin tree).map fun (pass, supply) =>
      (pass, { course with supply, log := course.log ++ course.supply.front })

def ended (course : Course) : Course := { course with phases := [] }

/-- Goes on to the next item. A pass that ends without having yielded is followed by the next one. -/
def goOn (tree : FileTree) :
    List (List Matcher) → Course → Except Breakdown (Option SelectionItem) × Course
  | [], course => (.ok none, course.ended)
  | matchers :: later, course =>
    match course.present tree with
    | .error breakdown => (.error breakdown, course.ended)
    | .ok (pass, begun) =>
      let part := stretch tree.opener matchers pass.feed begun.supply pass.rest
      let reached : Course :=
        { supply := part.supply, phases := matchers :: later, pass := some ⟨pass.feed, part.rest⟩,
          produced := begun.produced, log := begun.log ++ part.events }
      match part.stop with
      | .yielded item => (.ok (some item), { reached with produced := true })
      | .broken breakdown => (.error breakdown, reached.ended)
      | .exhausted =>
        if reached.produced then (.ok none, reached.ended)
        else goOn tree later { reached with phases := later, pass := none }

def next (tree : FileTree) (course : Course) : Except Breakdown (Option SelectionItem) × Course :=
  goOn tree course.phases course

def left (course : Course) : List PathItem :=
  match course.pass, course.supply with
  | some ⟨.drawn, rest⟩, _ => rest
  | some ⟨.recorded, rest⟩, _ => rest
  | _, .iterator rest => rest
  | _, .recorder source _ => source.getD []
  | _, _ => []

end Course

structure Stopped where
  course : Course
  breakdown : Option Breakdown := none

def Stopped.selection (stopped : Stopped) : Selection := ⟨stopped.course.log, stopped.breakdown⟩

namespace Course

def run (tree : FileTree) : Nat → Course → Stopped
  | 0, course => { course }
  | n + 1, course =>
    match course.next tree with
    | (.ok (some _), course) => run tree n course
    | (.ok none, course) => { course }
    | (.error breakdown, course) => ⟨course, some breakdown⟩

end Course

abbrev Asking := ExceptT SelectionError (ExceptT Breakdown (StateM Course))

namespace Asking

def document (tree : FileTree) : Asking (Option Document) := fun course =>
  match course.next tree with
  | (.ok none, course) => (.ok (.ok none), course)
  | (.ok (some (.ok document)), course) => (.ok (.ok (some document)), course)
  | (.ok (some (.error error)), course) => (.ok (.error (.failed error)), course)
  | (.error breakdown, course) => (.error breakdown, course)

def documents (tree : FileTree) : Nat → Asking (List Document)
  | 0 => return []
  | n + 1 => do
    let some first ← document tree | return []
    return first :: (← documents tree n)

/-- The single document. When there is a second one, as many are asked for as it takes to tell whether
there are more than are shown. -/
def single (tree : FileTree) : Asking Document := do
  let some first ← document tree | throw .empty
  let some second ← document tree | return first
  let candidates := first :: second :: (← documents tree (shown - 1))
  if shown < candidates.length then throw (.ambiguous candidates.dropLast true)
  else throw (.ambiguous candidates false)

end Asking

end DocFinder.Selection
