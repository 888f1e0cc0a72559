import DocFinder.Text.Quoted

namespace DocFinder.Text.Utf8

inductive Reason
  | invalidStart
  | invalidContinuation
  | unexpectedEnd
  deriving DecidableEq, Repr

def Reason.message : Reason → String
  | invalidStart => "invalid start byte"
  | invalidContinuation => "invalid continuation byte"
  | unexpectedEnd => "unexpected end of data"

structure Fault where
  byte : UInt8
  position : Nat
  count : Nat
  reason : Reason
  deriving DecidableEq, Repr

def Fault.message (fault : Fault) : String :=
  let place :=
    if fault.count = 1 then
      "byte 0x" ++ .ofList (hexDigits 2 fault.byte.toNat) ++ " in position " ++
        toString fault.position
    else
      "bytes in position " ++ toString fault.position ++ "-" ++
        toString (fault.position + fault.count - 1)
  "'utf-8' codec can't decode " ++ place ++ ": " ++ fault.reason.message

def isContinuation (b : UInt8) : Bool := 0x80 ≤ b && b < 0xc0

def followers? (b : UInt8) : Option Nat :=
  if b < 0x80 then some 0
  else if b < 0xc2 then none
  else if b < 0xe0 then some 1
  else if b < 0xf0 then some 2
  else if b < 0xf5 then some 3
  else none

/-- Whether the second byte may stand behind the first one. Longer forms than needed, surrogates
and codes that are too large are excluded here. -/
def maySecond (first second : UInt8) : Bool :=
  isContinuation second && !(first == 0xe0 && second < 0xa0) && !(first == 0xed && 0xa0 ≤ second) &&
    !(first == 0xf0 && second < 0x90) && !(first == 0xf4 && 0x90 ≤ second)

def leadBits (first : UInt8) : Nat → Nat
  | 0 => first.toNat
  | 1 => first.toNat % 32
  | 2 => first.toNat % 16
  | _ => first.toNat % 8

/-- Reads `n` followers: the code point, or how many followers fit before the fault. `count` is the
number of those that were read. -/
def follow (first : UInt8) : (n count code : Nat) → List UInt8 → Except (Nat × Reason) Nat
  | 0, _, code, _ => .ok code
  | _ + 1, count, _, [] => .error (count, .unexpectedEnd)
  | n + 1, count, code, b :: rest =>
    if (if count = 0 then maySecond first b else isContinuation b) then
      follow first n (count + 1) (code * 64 + b.toNat % 64) rest
    else .error (count, .invalidContinuation)

def decodeFrom (position skip : Nat) : List UInt8 → Except Fault (List Char)
  | [] => .ok []
  | b :: rest =>
    match skip with
    | skip + 1 => decodeFrom (position + 1) skip rest
    | 0 =>
      match followers? b with
      | none => .error ⟨b, position, 1, .invalidStart⟩
      | some n =>
        match follow b n 0 (leadBits b n) rest with
        | .error (count, reason) => .error ⟨b, position, count + 1, reason⟩
        | .ok code =>
          match decodeFrom (position + 1) n rest with
          | .error fault => .error fault
          | .ok chars => .ok (Char.ofNat code :: chars)

def decode (bytes : List UInt8) : Except Fault (List Char) := decodeFrom 0 0 bytes

end DocFinder.Text.Utf8
