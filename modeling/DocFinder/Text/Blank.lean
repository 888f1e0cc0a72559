/-!
Blanks: the white space of Unicode 14, with the four ASCII separators 1C to 1F, and its ASCII part.
-/

namespace DocFinder.Text

def isBlankCode (code : Nat) : Bool :=
  (9 ≤ code && code ≤ 13) || (28 ≤ code && code ≤ 32) || code == 0x85 || code == 0xa0 ||
    code == 0x1680 || (0x2000 ≤ code && code ≤ 0x200a) || code == 0x2028 || code == 0x2029 ||
    code == 0x202f || code == 0x205f || code == 0x3000

def isBlank (c : Char) : Bool := isBlankCode c.toNat

def isAsciiBlankCode (code : Nat) : Bool := (9 ≤ code && code ≤ 13) || code == 32

def isNumeralBlank (c : Char) : Bool :=
  if c.toNat < 128 then isAsciiBlankCode c.toNat else isBlank c

def dropEnd {α : Type} (p : α → Bool) (text : List α) : List α :=
  (text.reverse.dropWhile p).reverse

def trimEnd (text : List Char) : List Char := dropEnd isBlank text

def trim (text : List Char) : List Char := trimEnd (text.dropWhile isBlank)

def trimNumeral (text : List Char) : List Char :=
  dropEnd isNumeralBlank (text.dropWhile isNumeralBlank)

end DocFinder.Text
