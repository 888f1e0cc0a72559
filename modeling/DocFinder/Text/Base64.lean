namespace DocFinder.Text.Base64

def alphabet : List Char :=
  "ABCDEFGHIJKLMNOPQRSTUVWXYZabcdefghijklmnopqrstuvwxyz0123456789+/".toList

def digit (n : Nat) : Char := (alphabet[n]?).getD '='

def encode : List UInt8 → List Char
  | [] => []
  | [a] =>
    let n := a.toNat * 16
    [digit (n / 64), digit (n % 64), '=', '=']
  | [a, b] =>
    let n := (a.toNat * 256 + b.toNat) * 4
    [digit (n / 4096), digit (n / 64 % 64), digit (n % 64), '=']
  | a :: b :: c :: rest =>
    let n := (a.toNat * 256 + b.toNat) * 256 + c.toNat
    digit (n / 262144) :: digit (n / 4096 % 64) :: digit (n / 64 % 64) :: digit (n % 64) ::
      encode rest

def value? (c : Char) : Option Nat := alphabet.findIdx? (· == c)

/-- Reads digits and skips all else. `held` is the number of digits of the group that is open, and
`left` what the last of them left over. A sign of padding that completes a group ends the text;
one that does not, and padding before the second digit of a group, is skipped. A text that ends
within a group has no bytes. -/
def decodeFrom (held left pads : Nat) : List Char → Option (List UInt8)
  | [] => if held = 0 then some [] else none
  | c :: rest =>
    if c = '=' then
      if held ≥ 2 && held + pads + 1 ≥ 4 then some []
      else decodeFrom held left (pads + 1) rest
    else
      match value? c with
      | none => decodeFrom held left pads rest
      | some n =>
        match held with
        | 0 => decodeFrom 1 n 0 rest
        | 1 => (decodeFrom 2 (n % 16) 0 rest).map (UInt8.ofNat (left * 4 + n / 16) :: ·)
        | 2 => (decodeFrom 3 (n % 4) 0 rest).map (UInt8.ofNat (left * 16 + n / 4) :: ·)
        | _ => (decodeFrom 0 0 0 rest).map (UInt8.ofNat (left * 64 + n) :: ·)

def decode? (text : List Char) : Option (List UInt8) := decodeFrom 0 0 0 text

end DocFinder.Text.Base64
