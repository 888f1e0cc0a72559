namespace DocFinder.FrontMatter

inductive SystemError
  /-- A numbered error about a quoted path. -/
  | numbered (number : Nat) (text quotedPath : String)
  | described (text : String)
  deriving DecidableEq, Repr

def SystemError.message : SystemError → String
  | numbered number text quotedPath =>
    "[Errno " ++ toString number ++ "] " ++ text ++ ": " ++ quotedPath
  | described text => text

/-- What is left of a source that is being read. The read number `n`, counted from zero, yields at
most `allowance n` bytes. -/
structure Source where
  rest : List UInt8
  position : Nat := 0
  reads : Nat := 0
  allowance : Nat → Nat
  /-- Reads that begin here or later fail. -/
  failsFrom : Option Nat := none
  failure : SystemError := .described ""

namespace Source

def ofBytes (bytes : List UInt8) : Source := { rest := bytes, allowance := fun _ => bytes.length }

def request (source : Source) (size : Int) : Nat :=
  if size < 0 then source.rest.length else size.toNat

def chunk (source : Source) (size : Int) : List UInt8 :=
  source.rest.take (min (source.request size) (source.allowance source.reads))

def after (source : Source) (size : Int) : Source :=
  let chunk := source.chunk size
  { source with
    rest := source.rest.drop chunk.length
    position := source.position + chunk.length
    reads := source.reads + 1 }

def fails (source : Source) : Bool := source.failsFrom.any (· ≤ source.position)

theorem after_rest_length_lt {source : Source} {size : Int} (h : source.chunk size ≠ []) :
    (source.after size).rest.length < source.rest.length := by
  have : 0 < (source.chunk size).length := List.length_pos_iff.2 h
  simp only [chunk, List.length_take] at this
  simp only [after, List.length_drop, chunk, List.length_take]
  omega

end Source

end DocFinder.FrontMatter
