import DocFinder.Pattern.Matching
import DocFinder.Pattern.Parser
import DocFinder.Path
import DocFinder.Text.Blank
import DocFinder.Text.Quoted

namespace DocFinder.FileSpec

inductive Error
  /-- A line that is no pattern: it is only a mark, or an escape has nothing behind it. -/
  | invalid (line : Written)
  | uncompilable (reason : Pattern.CompileError)
  deriving DecidableEq, Repr

def Error.message? : Error → Option String
  | invalid line => some ("Invalid git pattern: " ++ Text.quote line)
  | uncompilable _ => none

def specials : List Char := "()[]?*+-|^$\\.&~# \t\n\r\x0b\x0c\x7b\x7d".toList

/-- A half is written as an escape, which stands for the same code point in a set and out of it. -/
def plain : Sign → List Char
  | .char c => [c]
  | .half index => '\\' :: 'u' :: Text.hexDigits 4 (Sign.half index).code

def literal : Sign → List Char
  | .char c => if specials.contains c then ['\\', c] else [c]
  | half => plain half

/-- A character class behind its opening bracket: its text, and how many characters it takes; none
if it is not closed. A closing bracket at its start stands for itself, and so do backslashes. -/
def bracket? (rest : List Sign) : Option (List Char × Nat) :=
  let negated := rest.head? == some (.char '!') || rest.head? == some (.char '^')
  let inside := if negated then rest.drop 1 else rest
  let first := inside.takeWhile (· == .char ']') |>.take 1
  let body := (inside.drop first.length).takeWhile (· != .char ']')
  let taken := first ++ body
  if taken.length < inside.length then
    some ((if negated then ['[', '^'] else ['[']) ++
      taken.flatMap (fun c => if c = .char '\\' then ['\\', '\\'] else plain c) ++ [']'],
      rest.length - inside.length + taken.length + 1)
  else none

/-- The regular expression of one component, which never reaches over a slash. The first `skip`
characters were read before. None if an escape has nothing behind it. -/
def globFrom (skip : Nat) : List Sign → Option (List Char)
  | [] => some []
  | c :: rest =>
    match skip with
    | skip + 1 => globFrom skip rest
    | 0 =>
      if c = .char '\\' then
        match rest with
        | [] => none
        | e :: _ => (globFrom 1 rest).map (literal e ++ ·)
      else if c = .char '*' then (globFrom 0 rest).map ("[^/]*".toList ++ ·)
      else if c = .char '?' then (globFrom 0 rest).map ("[^/]".toList ++ ·)
      else if c = .char '[' then
        match bracket? rest with
        | some (text, count) => (globFrom count rest).map (text ++ ·)
        | none => (globFrom 0 rest).map (['\\', '['] ++ ·)
      else (globFrom 0 rest).map (literal c ++ ·)

def glob : List Sign → Option (List Char) := globFrom 0

def deep : List Sign := [.char '*', .char '*']

def star : List Sign := [.char '*']

/-- Makes a pattern relative to the top: a slash in front ties it there, and a single component may
stand at any depth. -/
def anchored : List (List Sign) → List (List Sign)
  | [] :: rest => rest
  | [name] => if name = deep then [name] else [deep, name]
  | [name, []] => if name = deep then [name, []] else [deep, name, []]
  | components => components

def openEnded (components : List (List Sign)) : List (List Sign) :=
  if components.getLast? = some [] then components.dropLast ++ [deep] else components

def collapsed : List (List Sign) → List (List Sign)
  | [] => []
  | c :: rest =>
    if c = deep ∧ rest.head? = some deep then collapsed rest else c :: collapsed rest

/-- The regular expression of the components from one on. `first` says that nothing stands before
them, and `slash` that a slash is due. -/
def regexFrom (first slash : Bool) : List (List Sign) → Option (List Char)
  | [] => some []
  | c :: rest =>
    if c = deep then
      let text := if first then "^(?:.+/)?" else if rest.isEmpty then "/" else "(?:/.+)?"
      (regexFrom false (!first) rest).map (text.toList ++ ·)
    else do
      let start := if first then ['^'] else if slash then ['/'] else []
      let body ← if c = star then some "[^/]+".toList else glob c
      let stop := if !rest.isEmpty then "" else if c = star then "/?$" else "(?:/|$)"
      return start ++ body ++ stop.toList ++ (← regexFrom false true rest)

def regexText? (pattern : List Sign) : Option (List Char) :=
  let pieces := pattern.splitOn (.char '/')
  let ofDirectory := pieces.getLast? == some [] && pattern != [.char '/']
  match collapsed (openEnded (anchored pieces)) with
  | [] => none
  | components =>
    if components = [deep] then some (if ofDirectory then ['/'] else ['.'])
    else if components = [deep, star] then some ['.']
    else if components = [deep, star, deep] then some ['/']
    else regexFrom true false components

/-- A line without the blanks at its end, unless the last one is escaped. -/
def trimmed (line : List Sign) : List Sign :=
  if [.char '\\', .char ' '].isSuffixOf line then line
  else Text.dropEnd Sign.isBlank line

end FileSpec

structure FilePattern where
  takesIn : Bool
  regex : Pattern.Regex
  deriving DecidableEq, Repr

abbrev FileSpec := List FilePattern

namespace FileSpec

def ofLine (line : Written) : Except Error (Option FilePattern) :=
  match trimmed line.signs with
  | [] => .ok none
  | .char '#' :: _ => .ok none
  | signs =>
    let (takesIn, pattern) :=
      match signs with
      | .char '!' :: pattern => (false, pattern)
      | pattern => (true, pattern)
    match regexText? pattern with
    | none => .error (.invalid line)
    | some text =>
      match Pattern.Regex.compile (.ofList text) with
      | .ok regex => .ok (some ⟨takesIn, regex⟩)
      | .error reason => .error (.uncompilable reason)

def ofLines (lines : List Written) : Except Error FileSpec := do
  return (← lines.mapM ofLine).filterMap id

def relative : List Char → List Char
  | '/' :: rest => rest
  | '.' :: '/' :: rest => rest
  | path => path

/-- What the last matching pattern says about a path; none if there is no such pattern. -/
def verdict? (spec : FileSpec) (path : String) : Option Bool :=
  let path := String.ofList (relative path.toList)
  (spec.reverse.find? fun pattern => pattern.regex.search path).map (·.takesIn)

end FileSpec

end DocFinder
