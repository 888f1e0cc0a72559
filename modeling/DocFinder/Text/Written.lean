import DocFinder.Text.Blank

namespace DocFinder

/-- A character, or half of a surrogate pair by its place among the halves. -/
inductive Sign
  | char (c : Char)
  | half (index : Fin 0x800)
  deriving DecidableEq, Repr

namespace Sign

def firstHalf : Nat := 0xd800

def code : Sign → Nat
  | char c => c.toNat
  | half index => firstHalf + index

def ofCode (code : Nat) : Sign :=
  if between : firstHalf ≤ code ∧ code < firstHalf + 0x800 then
    half ⟨code - firstHalf, by omega⟩
  else char (Char.ofNat code)

def isHalf : Sign → Bool
  | char _ => false
  | half _ => true

def shown : Sign → Char
  | char c => c
  | half _ => '\ufffd'

def ofChars (chars : List Char) : List Sign := chars.map char

@[simp]
theorem shown_ofChars (chars : List Char) : (ofChars chars).map shown = chars := by
  rw [ofChars, List.map_map]
  exact List.map_id chars

@[simp]
theorem any_isHalf_ofChars (chars : List Char) : (ofChars chars).any isHalf = false := by
  simp [ofChars, isHalf]

def isBlank : Sign → Bool
  | char c => Text.isBlank c
  | half _ => false

/-- The bytes that the system is given. The upper half of the bytes has halves of its own, by which
file names that are no text are written; other halves have no bytes. -/
def bytes? : Sign → Option (List UInt8)
  | char c => some (String.utf8EncodeChar c)
  | half index => if 0x480 ≤ index.val ∧ index.val < 0x500 then some [.ofNat (index - 0x400)] else none

end Sign

structure TornText where
  signs : List Sign
  torn : signs.any Sign.isHalf = true
  deriving DecidableEq, Repr

inductive Written
  | whole (text : String)
  | torn (text : TornText)
  deriving DecidableEq, Repr

instance : Coe String Written := ⟨.whole⟩

namespace Written

def ofSigns (signs : List Sign) : Written :=
  if torn : signs.any Sign.isHalf = true then .torn ⟨signs, torn⟩
  else .whole (.ofList (signs.map Sign.shown))

@[simp]
theorem ofSigns_ofChars (chars : List Char) :
    ofSigns (Sign.ofChars chars) = .whole (.ofList chars) := by
  simp [ofSigns]

theorem whole_beq (text other : String) : (whole text == whole other) = (text == other) := by
  rw [Bool.eq_iff_iff, beq_iff_eq, beq_iff_eq, whole.injEq]

def signs : Written → List Sign
  | whole text => Sign.ofChars text.toList
  | torn text => text.signs

def codes (text : Written) : List Nat := text.signs.map Sign.code

instance : Append Written := ⟨fun text more => ofSigns (text.signs ++ more.signs)⟩

end Written

end DocFinder
