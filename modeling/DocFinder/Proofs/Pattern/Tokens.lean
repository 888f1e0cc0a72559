import DocFinder.Proofs.Pattern.Reading
import Mathlib.Algebra.Group.Nat.Defs

namespace DocFinder.Pattern

section

variable {α : Type} {pattern text rest : List Char}

section Escapes

theorem hexDigit_value (c : Char) (hexadecimal : isHexDigit c = true) :
    (Text.alphanumericValue? c).getD 0 < 16 := by
  simp only [isHexDigit, Char.isDigit, Bool.or_eq_true, Bool.and_eq_true, decide_eq_true_eq,
    Char.le_def, UInt32.le_iff_toNat_le, Char.reduceVal, UInt32.reduceToNat] at hexadecimal
  simp only [Text.alphanumericValue?, Text.digitValue?, Text.isAsciiDigit, Bool.and_eq_true,
    decide_eq_true_eq, Char.le_def, UInt32.le_iff_toNat_le, Char.toNat, Char.reduceVal,
    UInt32.reduceToNat]
  split
  · rw [Option.getD_some]
    omega
  · split
    · rw [Option.getD_some]
      omega
    · rw [if_pos (by omega), if_pos (by omega), Option.getD_some]
      omega

theorem numberOf_lt (base : Nat) (digits : List Char)
    (small : ∀ digit ∈ digits, (Text.alphanumericValue? digit).getD 0 < base) :
    numberOf base digits < base ^ digits.length := by
  have grows (start : Nat) :
      digits.foldl (fun n c => base * n + (Text.alphanumericValue? c).getD 0) start <
        (start + 1) * base ^ digits.length := by
    induction digits generalizing start with
    | nil => simp
    | cons digit rest ih =>
        have value := small digit List.mem_cons_self
        have later := ih (fun other member => small other (List.mem_cons_of_mem _ member))
          (base * start + (Text.alphanumericValue? digit).getD 0)
        rw [List.foldl_cons, List.length_cons]
        calc
          _ < (base * start + (Text.alphanumericValue? digit).getD 0 + 1) * base ^ rest.length :=
            later
          _ ≤ base * (start + 1) * base ^ rest.length :=
            Nat.mul_le_mul_right _ (by rw [Nat.mul_succ]; omega)
          _ = (start + 1) * base ^ (rest.length + 1) := by
            rw [pow_succ]
            ac_rfl
  simpa [numberOf] using grows 0

theorem hexEscape_keeps (letter : Char) (size : Nat)
    (known : (letter, size) ∈ [('x', 2), ('u', 4), ('U', 8)]) :
    Keeps pattern ['\\', letter] rest (hexEscape letter size) := by
  unfold hexEscape
  refine (takeUpTo_reads isHexDigit size).stood.bind fun digits behind left taken => ?_
  obtain ⟨⟨took, _⟩, stands⟩ := taken
  refine Keeps.shorter ?_ took.fewer
  obtain ⟨rfl, _, hexadecimal⟩ := took
  refine Keeps.check _ _ (by simp) fun complete => ?_
  have complete : digits.length = size := Decidable.not_not.mp complete
  refine Reads.check (fun large => ?_) fun _ => ?_
  · have bound := numberOf_lt 16 digits fun digit member =>
      hexDigit_value digit (hexadecimal digit member)
    rw [complete] at bound
    -- Two or four digits write no number of this size.
    simp only [List.mem_cons, Prod.mk.injEq, List.not_mem_nil, or_false] at known
    rcases known with ⟨_, rfl⟩ | ⟨_, rfl⟩ | ⟨rfl, rfl⟩
    · omega
    · omega
    · exact Reads.throw _ ⟨digits, complete, hexadecimal, large, stands⟩
  · exact Keeps.check _ _ (by simp) fun _ => Keeps.pure _

theorem characterEscape_keeps : Keeps pattern text rest characterEscape := by
  unfold characterEscape
  refine (accept_keeps '{').bind fun accepted left _ => Keeps.check _ _ (by simp) fun _ => ?_
  refine (name_keeps '}' "character name").bind fun characterName left _ => ?_
  split
  · exact Keeps.pure _
  · exact Keeps.fail _ _ (by simp)

theorem octalEscape_keeps (digits : List Char) : Keeps pattern text rest (octalEscape digits) :=
  Keeps.check _ _ (by simp) fun _ => Keeps.pure _

theorem codeEscape_keeps (c : Char) : Keeps pattern ['\\', c] rest (codeEscape c) := by
  unfold codeEscape
  split
  · exact (hexEscape_keeps 'x' 2 (by simp)).bind fun code _ _ => Keeps.pure _
  · exact (hexEscape_keeps 'u' 4 (by simp)).bind fun code _ _ => Keeps.pure _
  · exact (hexEscape_keeps 'U' 8 (by simp)).bind fun code _ _ => Keeps.pure _
  · exact characterEscape_keeps.bind fun code _ _ => Keeps.pure _
  · exact Keeps.pure _

theorem otherEscape_keeps (c : Char) : Keeps pattern text rest (otherEscape c) :=
  Keeps.check _ _ (by simp) fun _ => Keeps.pure _

theorem setEscape_keeps (c : Char) : Keeps pattern ['\\', c] rest (setEscape c) := by
  unfold setEscape
  split
  · exact Keeps.pure _
  · split
    · exact Keeps.pure _
    · refine (codeEscape_keeps c).bind fun code? left _ => ?_
      split
      · exact Keeps.pure _
      · split
        · refine (takeUpTo_keeps _ 2).bind fun digits left _ => ?_
          exact (octalEscape_keeps _).bind fun _ _ _ => Keeps.pure _
        · exact (otherEscape_keeps c).bind fun _ _ _ => Keeps.pure _

theorem checkBehind_keeps (group : Nat) : Keeps pattern text rest (checkBehind group) := by
  unfold checkBehind
  refine Reads.get fun reading here => ?_
  split
  · refine Keeps.check _ _ (by simp) fun _ => ?_
    split
    · exact Keeps.fail _ _ (by simp)
    · exact Keeps.pure _
  · exact Keeps.pure _

theorem reference_keeps (group size : Nat) : Keeps pattern text rest (reference group size) := by
  unfold reference
  refine Reads.get fun reading here => ?_
  split
  · exact Keeps.fail _ _ (by simp)
  · exact (checkBehind_keeps group).bind fun _ _ _ => Keeps.pure _

theorem numberEscape_keeps (c : Char) : Keeps pattern text rest (numberEscape c) := by
  unfold numberEscape
  split
  · exact (takeUpTo_keeps _ 2).bind fun _ _ _ => Keeps.pure _
  · refine (takeUpTo_keeps _ 1).bind fun second left _ => ?_
    have numbered (third left : List Char) : Keeps pattern [] left (do
        let digits := c :: (second ++ third)
        if digits.length = 3 then return .single (.one (← octalEscape digits))
        let group := numberOf 10 digits
        let size := digits.length + 1
        if group < (← get).groups then reference group size
        else Reader.fail (.invalidGroupReference group) (size - 1)) := by
      dsimp only
      split
      · exact (octalEscape_keeps _).bind fun _ _ _ => Keeps.pure _
      · refine Reads.get fun reading _ => ?_
        split
        · exact reference_keeps _ _
        · exact Keeps.fail _ _ (by simp)
    have nothing (left : List Char) : Keeps pattern [] left (pure [] : Reader (List Char)) :=
      Keeps.pure []
    split
    · split
      · exact (takeUpTo_keeps _ 1).bind fun third left _ => numbered third left
      · exact (nothing left).bind fun third left _ => numbered third left
    · exact (nothing left).bind fun third left _ => numbered third left

theorem escape_keeps (c : Char) : Keeps pattern ['\\', c] rest (escape c) := by
  unfold escape
  split
  · exact Keeps.pure _
  · split
    · exact Keeps.pure _
    · split
      · exact Keeps.pure _
      · refine (codeEscape_keeps c).bind fun code? left _ => ?_
        split
        · exact Keeps.pure _
        · split
          · exact numberEscape_keeps c
          · exact (otherEscape_keeps c).bind fun _ _ _ => Keeps.pure _

end Escapes

section Sets

variable (start : Nat)

theorem unterminated_keeps : Keeps pattern text rest (setItems.unterminated start) :=
  Reads.here fun _ => Reads.fail _ _ (by simp)

theorem item_keeps (symbol : Symbol) :
    Keeps pattern symbol.text rest (setItems.item symbol) := by
  cases symbol with
  | plain c => exact Keeps.pure _
  | escaped c => exact setEscape_keeps c

theorem badRange_keeps (first last : Symbol) :
    Keeps pattern text rest (setItems.badRange first last) := Keeps.fail _ _ (by simp)

theorem setItems_keeps (fuel : Nat) (items : List SetItem) (enough : rest.length < fuel) :
    Keeps pattern [] rest (setItems start fuel items) := by
  induction fuel generalizing rest items with
  | zero => exact absurd enough (Nat.not_lt_zero _)
  | succ fuel ih =>
      unfold setItems
      refine next_keeps (unterminated_keeps start) fun first left parts => ?_
      have fewer : left.length < fuel := by
        have size := congrArg List.length parts
        have taken := text_nonempty first
        rw [List.length_append] at size
        omega
      dsimp only
      split
      · exact Keeps.pure _
      · refine (item_keeps first).bind fun low left _ => ?_
        refine (accept_keeps '-').bind fun accepted left _ => ?_
        split
        · exact ih _ (by omega)
        · refine next_keeps (unterminated_keeps start) fun last left parts => ?_
          have size := congrArg List.length parts
          rw [List.length_append] at size
          dsimp only
          split
          · exact Keeps.pure _
          · refine (item_keeps last).bind fun high left _ => ?_
            split
            · split
              · exact badRange_keeps first last
              · exact ih _ (by omega)
            · exact badRange_keeps first last

theorem bracket_keeps : Keeps pattern text rest bracket := by
  unfold bracket
  refine Reads.here fun position => ?_
  refine (accept_keeps '^').bind fun negated left _ => Reads.get fun reading here => ?_
  rw [here.left]
  refine (setItems_keeps _ _ [] (Nat.lt_succ_self _)).bind fun items left _ => ?_
  split
  · exact Keeps.pure _
  · exact Keeps.pure _

end Sets

section Quantifiers

theorem repeatCount_keeps (digits : List Char) (count : CountIn pattern digits) :
    Keeps pattern text rest (repeatCount digits) := by
  refine Reads.check (fun long => Reads.throw _ ⟨digits, count, rfl, long⟩) fun short => ?_
  refine Reads.check (fun large => Reads.throw _ ?_) fun _ => Keeps.pure _
  exact ⟨digits, count, Nat.le_of_not_lt short, large⟩

theorem braces_keeps (start : Nat) : Keeps pattern ['{'] rest (braces start) := by
  unfold braces
  refine peekIs_reads '}' ?_
  split
  · exact Keeps.pure _
  · refine Reads.get fun saved here => ?_
    refine (takeAll_reads Char.isDigit).stood.bind fun low behind left taken => ?_
    obtain ⟨⟨rfl, parts, low_digits⟩, low_stands⟩ := taken
    have low_counts : CountIn pattern low := ⟨low_digits, Or.inl low_stands⟩
    have low_fewer : left.length ≤ rest.length := by
      rw [parts, List.length_append]
      exact Nat.le_add_left _ _
    refine (accept_reads ',').bind fun separated behind middle separator => ?_
    refine Reads.either (fun high _ left => CountIn pattern high ∧ left.length ≤ rest.length)
      (fun comma => ?_) (fun alone => ?_) fun high behind left counts => ?_
    · rw [if_pos comma] at separator
      obtain ⟨rfl, rfl⟩ := separator
      refine (takeAll_reads Char.isDigit).stood.weaken fun high behind left taken => ?_
      obtain ⟨⟨rfl, more, high_digits⟩, high_stands⟩ := taken
      refine ⟨⟨high_digits, Or.inr ⟨low, low_digits, ?_⟩⟩, ?_⟩
      · simpa using high_stands
      · rw [List.length_cons, more, List.length_append] at low_fewer
        omega
    · rw [if_neg alone] at separator
      obtain ⟨rfl, rfl⟩ := separator
      exact Reads.pure low ⟨low_counts, low_fewer⟩
    · obtain ⟨high_counts, high_fewer⟩ := counts
      refine Reads.bind (accept_keeps '}') fun closed behind left fewer => ?_
      split
      · rw [here.left]
        refine (settle_reads saved.position _ _ here.suffix).bind fun _ _ _ settled => ?_
        exact Reads.pure none (Nat.le_of_eq (congrArg List.length settled.2))
      · refine Keeps.shorter ?_ (Nat.le_trans fewer high_fewer)
        refine Keeps.either (Keeps.pure 0) (repeatCount_keeps low low_counts) fun least left _ => ?_
        split
        · exact Keeps.pure _
        · refine (repeatCount_keeps high high_counts).bind fun most left _ => ?_
          split
          · refine Reads.here fun position => ?_
            exact Keeps.bind (Keeps.fail _ _ (by simp)) fun _ _ _ => Keeps.pure _
          · exact Keeps.pure _

theorem greed_keeps : Keeps pattern text rest greed := by
  unfold greed
  refine (accept_keeps '?').bind fun _ left _ => ?_
  split
  · exact Keeps.pure _
  · refine (accept_keeps '+').bind fun _ left _ => ?_
    split
    · exact Keeps.pure _
    · exact Keeps.pure _

theorem quantify_keeps (start least : Nat) (most : Option Nat) (pieces : List Piece) :
    Keeps pattern text rest (quantify start least most pieces) := by
  unfold quantify
  refine Reads.here fun position => ?_
  dsimp only
  split
  · exact Keeps.fail _ _ (by simp)
  · exact Keeps.fail _ _ (by simp)
  · exact Keeps.fail _ _ (by simp)
  · exact greed_keeps.bind fun _ _ _ => Keeps.pure _

end Quantifiers

section Flags

theorem flagOf_ascii (c : Char) (asks : ((flagOf? c).getD {}).ascii = true) : c = 'a' := by
  unfold flagOf? at asks
  split at asks <;> first | rfl | cases asks

theorem flagOf_unicode (c : Char) (asks : ((flagOf? c).getD {}).unicode = true) : c = 'u' := by
  unfold flagOf? at asks
  split at asks <;> first | rfl | cases asks

theorem flagLetter_reads (ends : List Char) (missing : Cause) (shallow : missing ≠ .tooDeep) :
    Reads pattern text rest (flagLetter ends missing) fun c behind left =>
      behind = text ++ [c] ∧ rest = c :: left ∧ (c ∈ ends ∨ (flagOf? c).isSome = true) := by
  unfold flagLetter
  refine next_reads.bind fun symbol? behind left taken => ?_
  cases symbol? with
  | none => exact Reads.fail _ _ shallow
  | some symbol =>
      obtain ⟨_, rfl, parts⟩ := taken
      cases symbol with
      | plain c =>
          simp only
          split
          · rename_i fits
            rw [Bool.or_eq_true, List.contains_iff_mem] at fits
            exact Reads.pure c ⟨rfl, parts, fits⟩
          · apply Reads.fail
            split
            · simp
            · exact shallow
      | escaped c => exact Reads.fail _ _ shallow

structure TurnsOn (letters : List Char) (on : Flags) : Prop where
  flags : ∀ letter ∈ letters, (flagOf? letter).isSome = true
  ascii : on.ascii = true → 'a' ∈ letters
  unicode : on.unicode = true → 'u' ∈ letters

theorem turnsOn_nothing : TurnsOn [] {} := ⟨by simp, (by simp), (by simp)⟩

theorem TurnsOn.concat {letters : List Char} {on : Flags} {c : Char} (turns : TurnsOn letters on)
    (flag : (flagOf? c).isSome = true) :
    TurnsOn (letters ++ [c]) (on.union ((flagOf? c).getD {})) where
  flags := by
    intro letter member
    rcases List.mem_append.mp member with earlier | last
    · exact turns.flags letter earlier
    · rw [List.mem_singleton.mp last]
      exact flag
  ascii := by
    intro asks
    rcases Bool.or_eq_true_iff.mp asks with earlier | last
    · exact List.mem_append_left _ (turns.ascii earlier)
    · simp [flagOf_ascii c last]
  unicode := by
    intro asks
    rcases Bool.or_eq_true_iff.mp asks with earlier | last
    · exact List.mem_append_left _ (turns.unicode earlier)
    · simp [flagOf_unicode c last]

theorem TurnsOn.asked {letters : List Char} {on : Flags} (turns : TurnsOn letters on)
    (stands : ('(' :: '?' :: (letters ++ [')'])) <:+: pattern) : Asked pattern on where
  ascii asks := ⟨letters, turns.ascii asks, turns.flags, stands⟩
  unicode asks := ⟨letters, turns.unicode asks, turns.flags, stands⟩

theorem Asked.union {first second : Flags} (asked : Asked pattern first)
    (more : Asked pattern second) : Asked pattern (first.union second) where
  ascii asks := (Bool.or_eq_true_iff.mp asks).elim asked.ascii more.ascii
  unicode asks := (Bool.or_eq_true_iff.mp asks).elim asked.unicode more.unicode

theorem turnOn_keeps (on : Flags) (asked : Asked pattern on) :
    Keeps pattern text rest
      (modify fun reading => { reading with flags := reading.flags.union on }) :=
  fun _ here =>
    ⟨text, rest, Nat.le_refl _, here.left, here.suffix, here.asked.union asked⟩

/-- The letters of a flag list stand behind its beginning, and in front of the mark that ends it. -/
theorem flagsOn_reads (fuel : Nat) (c : Char) (letters : List Char) (on : Flags)
    (turns : TurnsOn letters on) (flag : (flagOf? c).isSome = true) (enough : rest.length < fuel) :
    Reads pattern ('(' :: '?' :: (letters ++ [c])) rest (flagsOn fuel c on)
      fun result behind left =>
        (∃ letters, TurnsOn letters result.1 ∧ behind = '(' :: '?' :: (letters ++ [result.2])) ∧
          left.length ≤ rest.length := by
  induction fuel generalizing c letters on rest with
  | zero => exact absurd enough (Nat.not_lt_zero _)
  | succ fuel ih =>
      have more := turns.concat flag
      unfold flagsOn
      refine Reads.check (fun _ => Reads.fail _ _ (by simp)) fun _ => ?_
      refine Reads.check (fun _ => Reads.fail _ _ (by simp)) fun _ => ?_
      refine (flagLetter_reads _ _ (by simp)).bind fun letter behind left taken => ?_
      obtain ⟨rfl, rfl, kind⟩ := taken
      rw [List.length_cons] at enough
      split
      · exact Reads.pure _ ⟨⟨_, more, by simp⟩, Nat.le_succ _⟩
      · rename_i unmarked
        have flag : (flagOf? letter).isSome = true := by
          rcases kind with mark | flag
          · exact absurd (by simpa [or_assoc] using mark) unmarked
          · exact flag
        have shorter : left.length < fuel := by omega
        have later := ih letter (letters ++ [c]) _ more flag shorter
        refine Reads.weaken (by simpa using later) fun result behind rest found => ?_
        exact ⟨found.1, Nat.le_succ_of_le found.2⟩

theorem flagsOff_keeps (fuel : Nat) (c : Char) (off : Flags) (enough : rest.length < fuel) :
    Keeps pattern text rest (flagsOff fuel c off) := by
  induction fuel generalizing c off text rest with
  | zero => exact absurd enough (Nat.not_lt_zero _)
  | succ fuel ih =>
      unfold flagsOff
      refine Keeps.check _ _ (by simp) fun _ => ?_
      refine (flagLetter_reads _ _ (by simp)).bind fun letter behind left taken => ?_
      obtain ⟨_, rfl, _⟩ := taken
      rw [List.length_cons] at enough
      refine Keeps.shorter ?_ (Nat.le_succ _)
      split
      · exact Keeps.pure _
      · exact ih letter _ (by omega)

theorem flagList_keeps (c : Char) (flag : c = '-' ∨ (flagOf? c).isSome = true) :
    Keeps pattern ['(', '?', c] rest (flagList c) := by
  unfold flagList
  refine Reads.get fun reading here => ?_
  rw [here.left]
  refine Reads.either (fun result behind left =>
    ((∃ letters, TurnsOn letters result.1 ∧ behind = '(' :: '?' :: (letters ++ [result.2])) ∧
      left.length ≤ rest.length) ∧ behind <:+: pattern) (fun minus => ?_) (fun letter => ?_)
    fun result behind left list => ?_
  · refine Reads.stood (Reads.pure _ ⟨⟨[], turnsOn_nothing, ?_⟩, Nat.le_refl _⟩)
    rw [minus]
    rfl
  · refine Reads.stood (flagsOn_reads _ c [] {} turnsOn_nothing ?_ (Nat.lt_succ_self _))
    exact flag.resolve_left letter
  · obtain ⟨⟨⟨letters, turns, rfl⟩, fewer⟩, stands⟩ := list
    obtain ⟨on, mark⟩ := result
    refine Keeps.shorter ?_ fewer
    have judged (off : Flags) (left : List Char) : Keeps pattern [] left (do
        if off.template then Reader.fail .globalFlagTurnedOff 1
        if (on.ignoreCase && off.ignoreCase) || (on.multiline && off.multiline) ||
            (on.dotAll && off.dotAll) || (on.verbose && off.verbose) then
          Reader.fail .flagTurnedOnAndOff 1
        return some (on, off)) :=
      Keeps.check _ _ (by simp) fun _ => Keeps.check _ _ (by simp) fun _ => Keeps.pure _
    dsimp only
    split
    · rename_i closed
      refine (turnOn_keeps on (turns.asked ?_)).bind fun _ _ _ => Keeps.pure _
      rw [← closed]
      exact stands
    · refine Keeps.check _ _ (by simp) fun _ => ?_
      split
      · refine (flagLetter_reads [] _ (by simp)).bind fun letter behind left taken => ?_
        obtain ⟨_, rfl, _⟩ := taken
        rw [List.length_cons] at fewer
        refine Keeps.shorter ?_ (Nat.le_succ _)
        exact (flagsOff_keeps _ letter {} (by omega)).bind fun off left _ => judged off left
      · exact (Keeps.pure _).bind fun off left _ => judged off left

end Flags

section Groups

theorem groupName_keeps (terminator : Char) : Keeps pattern text rest (groupName terminator) :=
  (name_keeps _ _).bind fun _ _ _ => Keeps.check _ _ (by simp) fun _ => Keeps.pure _

theorem groupNamed_keeps (name : List Char) : Keeps pattern text rest (groupNamed name) := by
  refine Reads.get fun reading _ => ?_
  split
  · exact Keeps.pure _
  · exact Keeps.fail _ _ (by simp)

theorem conditionGroup_keeps : Keeps pattern text rest conditionGroup := by
  unfold conditionGroup
  refine (name_keeps _ _).bind fun name left _ => ?_
  have checked (group : Nat) (left : List Char) : Keeps pattern [] left (do
      checkBehind group
      return group) := (checkBehind_keeps group).bind fun _ _ _ => Keeps.pure _
  dsimp only
  split
  · exact (groupNamed_keeps name).bind fun group left _ => checked group left
  · split
    · exact Keeps.bind (Keeps.fail _ _ (by simp)) fun group left _ => checked group left
    · refine Keeps.check _ _ (by simp) fun _ => Reads.get fun reading here => ?_
      split
      · refine Keeps.bind (fun _ _ => ?_) fun _ left _ => ?_
        · exact ⟨[], left, Nat.le_refl _, here.left, here.suffix, here.asked⟩
        · exact (Keeps.pure _).bind fun group left _ => checked group left
      · exact (Keeps.pure _).bind fun group left _ => checked group left
    · exact Keeps.bind (Keeps.fail _ _ (by simp)) fun group left _ => checked group left

theorem openGroup_keeps (name? : Option (List Char)) :
    Keeps pattern text rest (openGroup name?) := by
  unfold openGroup
  refine Reads.get fun reading here => ?_
  have opened (group : Nat) : Keeps pattern text rest (do
      modify fun reading => { reading with
        widths := reading.widths.push none
        names := reading.names ++ (name?.map fun name => (name, group)).toList }
      return group) :=
    Keeps.bind (Reads.modify (Nat.le_refl _) (fun _ => rfl) fun _ => rfl) fun _ _ _ => Keeps.pure _
  dsimp only
  split
  · exact opened _
  · split
    · exact Reads.stop (Reads.fail _ _ (by simp))
    · exact opened _

theorem closeGroup_keeps (group : Nat) (width : Width) :
    Keeps pattern text rest (closeGroup group width) :=
  Reads.modify (Nat.le_refl _) (fun _ => rfl) fun _ => rfl

theorem skipComment_keeps (start fuel : Nat) (enough : rest.length < fuel) :
    Keeps pattern text rest (skipComment start fuel) := by
  induction fuel generalizing text rest with
  | zero => exact absurd enough (Nat.not_lt_zero _)
  | succ fuel ih =>
      unfold skipComment
      refine next_keeps (Reads.here fun _ => Keeps.fail _ _ (by simp)) fun symbol left parts => ?_
      have size := congrArg List.length parts
      have taken := text_nonempty symbol
      rw [List.length_append] at size
      dsimp only
      split
      · exact Keeps.pure _
      · exact ih (by omega)

theorem skipLine_keeps (fuel : Nat) : Keeps pattern text rest (skipLine fuel) := by
  induction fuel generalizing text rest with
  | zero => exact Keeps.pure _
  | succ fuel ih =>
      unfold skipLine
      refine next_keeps (Keeps.pure _) fun symbol left _ => ?_
      dsimp only
      split
      · exact Keeps.pure _
      · exact ih

theorem close_keeps (start : Nat) : Keeps pattern text rest (close start) := by
  unfold close
  refine (accept_keeps ')').bind fun closed left _ => ?_
  split
  · exact Reads.here fun _ => Keeps.fail _ _ (by simp)
  · exact Keeps.pure _

theorem extension_keeps {next : Symbol → Reader α}
    (reads : ∀ symbol left, rest = symbol.text ++ left →
      Keeps pattern (text ++ symbol.text) left (next symbol)) :
    Keeps pattern text rest (do
      let some symbol ← Reader.next | Reader.fail .unexpectedEnd
      next symbol) :=
  next_keeps (Keeps.fail _ _ (by simp)) fun symbol left parts => reads symbol left parts

theorem opening_keeps (start : Nat) : Keeps pattern ['('] rest (opening start) := by
  unfold opening
  refine (accept_reads '?').bind fun extended behind left mark => ?_
  split
  · rename_i plain
    rw [if_neg (by simpa using plain)] at mark
    exact Reads.pure _ (Nat.le_of_eq (congrArg List.length mark.2))
  · rename_i question
    rw [if_pos (by simpa using question)] at mark
    obtain ⟨rfl, rfl⟩ := mark
    refine Keeps.shorter ?_ (Nat.le_succ _)
    refine extension_keeps fun symbol left _ => ?_
    split
    · refine Keeps.bind (accept_keeps '<') fun named left _ => ?_
      split
      · exact (groupName_keeps '>').bind fun _ _ _ => Keeps.pure _
      · refine (accept_keeps '=').bind fun again left _ => ?_
        split
        · refine (groupName_keeps ')').bind fun name left _ => ?_
          refine (groupNamed_keeps name).bind fun group left _ => ?_
          exact (reference_keeps _ _).bind fun _ _ _ => Keeps.pure _
        · exact extension_keeps fun _ _ _ => Keeps.fail _ _ (by simp)
    · exact Keeps.pure _
    · refine Reads.get fun reading here => ?_
      rw [here.left]
      exact (skipComment_keeps start _ (Nat.lt_succ_self _)).bind fun _ _ _ => Keeps.pure _
    · exact Keeps.pure _
    · exact Keeps.pure _
    · refine extension_keeps fun sign left _ => ?_
      split
      · exact Keeps.pure _
      · exact Keeps.pure _
      · exact Keeps.fail _ _ (by simp)
    · exact conditionGroup_keeps.bind fun _ _ _ => Keeps.pure _
    · exact Keeps.pure _
    · split
      · rename_i flag
        refine (flagList_keeps _ (by simpa using flag)).bind fun list left _ => ?_
        split
        · exact Keeps.pure _
        · exact Keeps.pure _
      · exact Keeps.fail _ _ (by simp)
    · exact Keeps.fail _ _ (by simp)

end Groups

end

end DocFinder.Pattern
