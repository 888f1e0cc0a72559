import DocFinder.FrontMatter.Source

/-!
The front-matter block at the start of a file: a line of three dashes, the block, and another such
line with the same line ending. The file is read no further than the end of the block.
-/

namespace DocFinder.FrontMatter

structure Delimiter where
  opening : List UInt8
  closing : List UInt8
  deriving DecidableEq, Repr

def dashes : List UInt8 := [45, 45, 45]

def Delimiter.ofLineEnd (lineEnd : List UInt8) : Delimiter :=
  ⟨dashes ++ lineEnd, lineEnd ++ dashes ++ lineEnd⟩

def crlf : List UInt8 := [13, 10]

def lf : List UInt8 := [10]

def cr : List UInt8 := [13]

/-- The three kinds of delimiters. The carriage return comes last, since it begins the pair. -/
def delimiters : List Delimiter := [crlf, lf, cr].map .ofLineEnd

def lookahead : Nat := 5

def chunkSize : Int := 4096

def delimiterOf? (head : List UInt8) : Option Delimiter :=
  delimiters.find? fun delimiter => delimiter.opening.isPrefixOf head

def indexOf? (needle : List UInt8) : List UInt8 → Option Nat
  | [] => if needle.isEmpty then some 0 else none
  | b :: rest =>
    if needle.isPrefixOf (b :: rest) then some 0 else (indexOf? needle rest).map (· + 1)

inductive Warning
  | unclosedBlock
  deriving DecidableEq, Repr

def Warning.message : Warning → String
  | unclosedBlock => "Encountered EOF while reading the preamble"

structure Scan where
  found : Except SystemError (Option (List UInt8))
  warnings : List Warning
  source : Source

def readFully (source : Source) (size : Nat) : Except (SystemError × Source) (List UInt8 × Source) :=
  if size = 0 then .ok ([], source)
  else if source.fails then .error (source.failure, source)
  else
    let chunk := source.chunk size
    if _h : chunk = [] then .ok ([], source.after size)
    else
      match readFully (source.after size) (size - chunk.length) with
      | .error e => .error e
      | .ok (more, last) => .ok (chunk ++ more, last)
termination_by source.rest.length
decreasing_by exact Source.after_rest_length_lt ‹_›

/-- Reads until the closing delimiter stands in what was read. `taken` holds the bytes of the block
so far, the last one first: a delimiter can begin only in the last few of them. -/
def readBlock (closing : List UInt8) (size : Int) (taken : List UInt8) (source : Source) : Scan :=
  if source.fails then ⟨.error source.failure, [], source⟩
  else
    let chunk := source.chunk size
    if _h : chunk = [] then ⟨.ok none, [.unclosedBlock], source.after size⟩
    else
      let tail := (taken.take (closing.length - 1)).reverse
      let all := chunk.reverse ++ taken
      match indexOf? closing (tail ++ chunk) with
      | some i =>
        ⟨.ok (some (all.reverse.take (taken.length - tail.length + i))), [], source.after size⟩
      | none => readBlock closing size all (source.after size)
termination_by source.rest.length
decreasing_by exact Source.after_rest_length_lt ‹_›

/-- The bytes between the delimiters, or none if the source does not begin with a block or ends
within it. Once a block is open the source is read in pieces of `size` bytes. -/
def findPreamble (source : Source) (size : Int) : Scan :=
  match readFully source lookahead with
  | .error (e, source) => ⟨.error e, [], source⟩
  | .ok (head, source) =>
    if head.length < lookahead then ⟨.ok none, [], source⟩
    else
      match delimiterOf? head with
      | none => ⟨.ok none, [], source⟩
      | some delimiter =>
        readBlock delimiter.closing size (head.drop delimiter.opening.length).reverse source

end DocFinder.FrontMatter
