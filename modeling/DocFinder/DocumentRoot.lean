import DocFinder.FileTree

namespace DocFinder

def defaultFiles : List Written := ["*.md", "*.mdown", "!*.swp", "!.git/", "!.svn/"]

structure DocumentRoot where
  path : Path
  files : List Written := defaultFiles
  deriving DecidableEq, Repr

abbrev PathItem := Except DocumentError Path

/-- What file patterns say about a path below the root: taken in, left out or nothing. -/
abbrev Verdict := String → Option Bool

end DocFinder
