import DocFinder.Configuration
import DocFinder.FrontMatter.Metadata

/-! The types of plain scalars as a table of rules. A rule is known by the characters that its scalars
begin with, and the first rule that fits counts. Front matter leaves out the rule for timestamps, and
what this rule would have taken no other rule takes. -/

namespace DocFinder.Yaml

open Spelling

structure Rule where
  tag : Tag
  /-- What its scalars begin with; none stands for the empty scalar. -/
  begins : Option Char → Bool
  spells : List Char → Bool

def isSign (c : Char) : Bool := c == '-' || c == '+'

def rules : List Rule :=
  [⟨.bool, (·.any "yYnNtTfFoO".toList.contains), isBool⟩,
    ⟨.float, (·.any fun c => isSign c || c.isDigit || c == '.'), isFloat⟩,
    ⟨.int, (·.any fun c => isSign c || c.isDigit), isInt⟩,
    ⟨.merge, (· == some '<'), isMerge⟩,
    ⟨.null, (·.all "~nN".toList.contains), isNull⟩,
    ⟨.timestamp, (·.any Char.isDigit), isTimestamp⟩,
    ⟨.value, (· == some '='), isValue⟩,
    ⟨.other (commonTypes ++ "yaml".toList), (·.any "!&*".toList.contains), isNodeMark⟩]

def spelled (text : List Char) : List Char := if text = ['\n'] then text else dropLineFeed text

def Rule.fits (rule : Rule) (text : List Char) : Bool :=
  rule.begins text.head? && rule.spells (spelled text)

def byRules (rules : List Rule) (text : List Char) : Tag :=
  ((rules.find? (·.fits text)).map (·.tag)).getD .str

theorem spelled_head (text : List Char) : (spelled text).head? = text.head? := by
  unfold spelled dropLineFeed
  split
  · rfl
  · rename_i other
    split
    · rename_i last
      match text with
      | [] => rfl
      | [c] =>
          cases last
          exact absurd rfl other
      | first :: second :: rest => rfl
    · rfl

theorem spelled_line (text : List Char) (line : '\n' ∉ text) : spelled text = text := by
  unfold spelled dropLineFeed
  split
  · rfl
  · split
    · rename_i last
      exact absurd (List.mem_of_getLast? last) line
    · rfl

theorem isOneOf_iff (words : List String) (text : List Char) :
    isOneOf words text = true ↔ ∃ word ∈ words, word.toList = text := by
  simp [isOneOf]

def BeginsWithDigit (text : List Char) : Prop := ∃ c, text.head? = some c ∧ c.isDigit = true

theorem splitAt_digit (mark : Char) (text first : List Char) (rest : List (List Char))
    (pieces : splitAt mark text = first :: rest) (digit : BeginsWithDigit first) :
    BeginsWithDigit text := by
  obtain ⟨c, head, isDigit⟩ := digit
  refine ⟨c, ?_, isDigit⟩
  cases text with
  | nil =>
      cases pieces
      cases head
  | cons d more =>
      unfold splitAt at pieces
      split at pieces
      · cases pieces
        cases head
      · split at pieces
        · cases pieces
          exact head
        · cases pieces
          exact head

theorem isNumber_digit (text : List Char) (number : isNumber text = true) : BeginsWithDigit text := by
  cases text with
  | nil => cases number
  | cons c rest =>
      simp only [isNumber, Bool.and_eq_true] at number
      exact ⟨c, rfl, number.1⟩

theorem isSexagesimal_digit (text : List Char) (sixtieths : isSexagesimal text = true) :
    BeginsWithDigit text := by
  unfold isSexagesimal at sixtieths
  split at sixtieths
  · rename_i first rest pieces
    simp only [Bool.and_eq_true] at sixtieths
    exact splitAt_digit _ text first rest pieces (isNumber_digit first sixtieths.1.1)
  · cases sixtieths

theorem unsigned_cases (text : List Char) :
    (∃ c, text.head? = some c ∧ isSign c = true) ∨ unsigned text = text := by
  unfold unsigned
  split
  · exact .inl ⟨_, rfl, rfl⟩
  · exact .inl ⟨_, rfl, rfl⟩
  · exact .inr rfl

theorem isInt_unsigned (text : List Char) (integer : isInt text = true) :
    BeginsWithDigit (unsigned text) := by
  unfold isInt at integer
  split at integer
  · rename_i rest body
    exact ⟨'0', by rw [body]; rfl, rfl⟩
  · rename_i rest body
    exact ⟨'0', by rw [body]; rfl, rfl⟩
  · rename_i rest _ _ body
    exact ⟨'0', by rw [body]; rfl, rfl⟩
  · simp only [Bool.or_eq_true, Bool.and_eq_true] at integer
    rcases integer with number | ⟨sixtieths, _⟩
    · exact isNumber_digit _ number
    · exact isSexagesimal_digit _ sixtieths

theorem named_point (words : List String) (pointed : ∀ word ∈ words, word.toList.head? = some '.')
    (text : List Char) (named : isOneOf words text = true) : text.head? = some '.' := by
  obtain ⟨word, member, rfl⟩ := (isOneOf_iff words text).mp named
  exact pointed word member

theorem isFloat_unsigned (text : List Char) (float : isFloat text = true) :
    text.head? = some '.' ∨ BeginsWithDigit (unsigned text) ∨ (unsigned text).head? = some '.' := by
  unfold isFloat at float
  split at float
  · exact .inl rfl
  · rcases Bool.or_eq_true_iff.mp float with named | number
    · rcases Bool.or_eq_true_iff.mp named with infinite | nan
      · exact .inr (.inr (named_point _ (by decide) _ infinite))
      · exact .inl (named_point _ (by decide) _ nan)
    · refine .inr (.inl ?_)
      split at number
      · rename_i whole part parts pieces
        refine splitAt_digit _ _ whole _ pieces ?_
        simp only [Bool.or_eq_true, Bool.and_eq_true] at number
        rcases number with ⟨plain, _⟩ | ⟨⟨_, sixtieths⟩, _⟩
        · exact isNumber_digit whole plain
        · exact isSexagesimal_digit whole sixtieths
      · cases number

theorem digits_begin (text : List Char) (result : Nat × List Char)
    (read : digits? 4 4 text = some result) : BeginsWithDigit text := by
  cases text with
  | nil => cases read
  | cons c rest =>
      refine ⟨c, rfl, ?_⟩
      cases digit : c.isDigit with
      | true => rfl
      | false => simp [digits?, digit] at read

theorem isTimestamp_digit (text : List Char) (timestamp : isTimestamp text = true) :
    BeginsWithDigit text := by
  unfold isTimestamp at timestamp
  cases read : timestamp? text with
  | none =>
      rw [read] at timestamp
      cases timestamp
  | some parts =>
      obtain ⟨year, digits, _⟩ := Option.bind_eq_some_iff.mp read
      exact digits_begin text year digits

theorem begins_of_spells (rule : Rule) (member : rule ∈ rules) (text : List Char)
    (spells : rule.spells text = true) : rule.begins text.head? = true := by
  simp only [rules, List.mem_cons, List.not_mem_nil, or_false] at member
  rcases member with rfl | rfl | rfl | rfl | rfl | rfl | rfl | rfl
  · obtain ⟨word, inside, rfl⟩ := (isOneOf_iff _ _).mp spells
    revert word
    decide
  · rcases unsigned_cases text with ⟨c, head, sign⟩ | same
    · simp [head, sign]
    · rcases isFloat_unsigned text spells with point | ⟨c, head, digit⟩ | point
      · rw [point]
        rfl
      · rw [same] at head
        simp [head, digit]
      · rw [← same, point]
        rfl
  · rcases unsigned_cases text with ⟨c, head, sign⟩ | same
    · simp [head, sign]
    · obtain ⟨c, head, digit⟩ := isInt_unsigned text spells
      rw [same] at head
      simp [head, digit]
  · obtain rfl : text = ['<', '<'] := by simpa [isMerge] using spells
    rfl
  · obtain ⟨word, inside, rfl⟩ := (isOneOf_iff _ _).mp spells
    revert word
    decide
  · obtain ⟨c, head, digit⟩ := isTimestamp_digit text spells
    simp [head, digit]
  · obtain rfl : text = ['='] := by simpa [isValue] using spells
    rfl
  · have marks : text = ['!'] ∨ text = ['&'] ∨ text = ['*'] := by
      simpa [isNodeMark, or_assoc] using spells
    rcases marks with rfl | rfl | rfl <;> rfl

theorem fits_eq (rule : Rule) (member : rule ∈ rules) (text : List Char) :
    rule.fits text = rule.spells (spelled text) := by
  rw [Rule.fits, ← spelled_head text]
  cases spells : rule.spells (spelled text) with
  | false => exact Bool.and_false _
  | true => rw [begins_of_spells rule member _ spells, Bool.true_and]

def Schema.rules (schema : Schema) : List Rule :=
  if schema.timestamps then Yaml.rules else Yaml.rules.filter fun rule => rule.tag ≠ .timestamp

theorem byRules_cons (rule : Rule) (rest : List Rule) (text : List Char) :
    byRules (rule :: rest) text = if rule.fits text then rule.tag else byRules rest text := by
  rw [byRules, List.find?_cons]
  cases rule.fits text <;> rfl

theorem resolve_by_rules (schema : Schema) (text : List Char) :
    schema.resolve text = byRules schema.rules text := by
  have fits (rule : Rule) (member : rule ∈ rules) := fits_eq rule member text
  simp only [rules, List.forall_mem_cons] at fits
  obtain ⟨bool, float, int, merge, null, timestamp, value, mark, _⟩ := fits
  cases schema with
  | mk timestamps =>
    cases timestamps with
    | true =>
        change _ = byRules rules text
        simp only [rules, byRules_cons, bool, float, int, merge, null, timestamp, value, mark]
        simp only [Schema.resolve, Bool.true_and]
        rfl
    | false =>
        change _ = byRules [_, _, _, _, _, _, _] text
        simp only [byRules_cons, bool, float, int, merge, null, value, mark]
        simp only [Schema.resolve, Bool.false_and, Bool.false_eq_true, if_false]
        rfl

/-- What is no string is spelled as some rule for its type says. -/
theorem resolve_spells (schema : Schema) (text : List Char) (marked : schema.resolve text ≠ .str) :
    ∃ rule ∈ rules, rule.tag = schema.resolve text ∧ rule.spells (spelled text) = true := by
  rw [resolve_by_rules, byRules] at marked ⊢
  cases found : schema.rules.find? (·.fits text) with
  | none =>
      rw [found] at marked
      exact absurd rfl marked
  | some rule =>
      have member : rule ∈ rules := by
        have own := List.mem_of_find?_eq_some found
        unfold Schema.rules at own
        split at own
        · exact own
        · exact (List.mem_filter.mp own).1
      have fits := List.find?_some found
      exact ⟨rule, member, rfl, (fits_eq rule member text).symm.trans fits⟩

theorem unmarked_timestamp (text : List Char) (timestamp : isTimestamp text = true) :
    isValue text = false ∧ isNodeMark text = false := by
  obtain ⟨c, head, digit⟩ := isTimestamp_digit text timestamp
  have other (mark : Char) (plain : mark.isDigit = false) : (text == [mark]) = false := by
    refine Bool.eq_false_iff.mpr fun same => ?_
    rw [beq_iff_eq.mp same] at head
    cases head
    rw [plain] at digit
    cases digit
  refine ⟨other '=' (by decide), ?_⟩
  rw [isNodeMark, other '!' (by decide), other '&' (by decide), other '*' (by decide)]
  rfl

/-- Front matter takes for a string what is a timestamp in a configuration, and nothing else has
another type there. -/
theorem front_matter_resolve (text : List Char) :
    FrontMatter.schema.resolve text =
      if Configuration.schema.resolve text = .timestamp then .str
      else Configuration.schema.resolve text := by
  simp only [FrontMatter.schema, Configuration.schema, Schema.resolve, Bool.true_and, Bool.false_and]
  generalize (if text = ['\n'] then text else dropLineFeed text) = text
  -- The rules before the one for timestamps are the same.
  split
  · rfl
  split
  · rfl
  split
  · rfl
  split
  · rfl
  split
  · rfl
  cases timestamp : isTimestamp text with
  | true =>
      obtain ⟨value, mark⟩ := unmarked_timestamp text timestamp
      simp [value, mark]
  | false =>
      simp only [Bool.false_eq_true, if_false]
      split
      · rfl
      split <;> rfl

end DocFinder.Yaml
