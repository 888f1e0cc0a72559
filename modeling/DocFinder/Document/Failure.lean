import DocFinder.FileSpec
import DocFinder.FrontMatter.Metadata

namespace DocFinder

/-- A failure that belongs to one document or directory. Others are not affected by it. -/
inductive DocumentError
  | unreadable (path : Path) (error : FrontMatter.SystemError)
  | undecodable (path : Option Path) (fault : Text.Utf8.Fault)
  | malformed (path : Option Path)
  | unknownState (path : Path) (error : FrontMatter.SystemError)
  | loop (path : Path)
  | unlisted (path : Path) (error : FrontMatter.SystemError)
  /-- A failure that a source of paths reports in place of a path. -/
  | reported (text : String) (path : Option Path)
  deriving DecidableEq, Repr

namespace DocumentError

def path? : DocumentError → Option Path
  | unreadable path _ | unknownState path _ | loop path | unlisted path _ => some path
  | undecodable path _ | malformed path | reported _ path => path

def origin : Option Path → String
  | some path => path.text
  | none => "stream"

def message : DocumentError → String
  | unreadable path error => "Failed to read metadata from " ++ path.text ++ ": " ++ error.message
  | undecodable path fault =>
    "Failed to decode the preamble of " ++ origin path ++ " as UTF-8: " ++ fault.message
  | malformed path => "Failed to parse the preamble of " ++ origin path ++ " as YAML"
  | unknownState path error => "Failed to stat " ++ path.text ++ ": " ++ error.message
  | loop path => "Filesystem loop detected at " ++ path.text
  | unlisted path error =>
    "Failed to list directory " ++ path.text ++ ": " ++ error.message
  | reported text _ => text

end DocumentError

/-- A failure that no rule foresees. It ends whatever asked. -/
inductive Breakdown
  | unconvertible (fault : Yaml.Fault)
  | nulInPath
  /-- A path holds half of a surrogate pair. -/
  | halfInPath
  | linkLoop
  | unknownHome
  /-- A key has too many digits to be written. -/
  | keyTooLong
  | badFilePattern (error : FileSpec.Error)
  deriving DecidableEq, Repr

inductive Failure
  | document (error : DocumentError)
  | breakdown (breakdown : Breakdown)
  deriving DecidableEq, Repr

namespace FrontMatter.Problem

def failure (path : Path) : Problem → Failure
  | unreadable error => .document (.unreadable path error)
  | undecodable fault => .document (.undecodable (some path) fault)
  | malformed => .document (.malformed (some path))
  | unconvertible fault => .breakdown (.unconvertible fault)

end FrontMatter.Problem

end DocFinder
