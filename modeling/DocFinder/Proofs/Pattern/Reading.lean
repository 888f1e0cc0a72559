import DocFinder.Pattern.Parser

/-! What was read of a pattern stands in it. A reader of a pattern leaves no more than it found, and
where it fails for a reason that is not its syntax, the pattern holds the text that explains this. -/

namespace DocFinder.Pattern

def CountIn (pattern digits : List Char) : Prop :=
  (∀ digit ∈ digits, digit.isDigit = true) ∧
    (('{' :: digits) <:+: pattern ∨
      ∃ least, (∀ digit ∈ least, digit.isDigit = true) ∧
        ('{' :: (least ++ ',' :: digits)) <:+: pattern)

def FlagIn (pattern : List Char) (flag : Char) : Prop :=
  ∃ letters, flag ∈ letters ∧ (∀ letter ∈ letters, (flagOf? letter).isSome = true) ∧
    ('(' :: '?' :: (letters ++ [')'])) <:+: pattern

/-- What a pattern holds that does not compile for some reason. The depth of a pattern is none. -/
def Explains (pattern : List Char) : CompileError → Prop
  | .fault fault => fault.cause ≠ .tooDeep
  | .repeatTooLarge => ∃ digits, CountIn pattern digits ∧
    digits.length ≤ Text.longestNumeral ∧ repeatLimit ≤ numberOf 10 digits
  | .numeralTooLong count => ∃ digits, CountIn pattern digits ∧
    digits.length = count ∧ Text.longestNumeral < count
  | .codeTooLarge => ∃ digits, digits.length = 8 ∧ (∀ digit ∈ digits, isHexDigit digit = true) ∧
    0x80000000 ≤ numberOf 16 digits ∧ ('\\' :: 'U' :: digits) <:+: pattern
  | .repertoireConflict => FlagIn pattern 'a' ∧ FlagIn pattern 'u'

/-- Flags that a pattern asks for, as far as they matter for its repertoire. -/
structure Asked (pattern : List Char) (flags : Flags) : Prop where
  ascii : flags.ascii = true → FlagIn pattern 'a'
  unicode : flags.unicode = true → FlagIn pattern 'u'

structure At (pattern text rest : List Char) (reading : Reading) : Prop where
  left : reading.rest = rest
  suffix : (text ++ rest) <:+ pattern
  asked : Asked pattern reading.flags

/-- What a reader gives in front of a rest of a pattern, what it has read last then, and what is left.
Where it fails, the pattern explains why. -/
def Reads {α : Type} (pattern text rest : List Char) (reader : Reader α)
    (gives : α → (text rest : List Char) → Prop) : Prop :=
  ∀ reading, At pattern text rest reading →
    match reader.run reading with
    | .ok (value, next) => ∃ text rest, gives value text rest ∧ At pattern text rest next
    | .error reason => Explains pattern reason

def Keeps {α : Type} (pattern text rest : List Char) (reader : Reader α) : Prop :=
  Reads pattern text rest reader fun _ _ left => left.length ≤ rest.length

section

variable {α β : Type} {pattern text rest : List Char} {reader : Reader α}
  {gives : α → List Char → List Char → Prop}

namespace At

variable {reading : Reading}

theorem stands (here : At pattern text rest reading) : text <:+: pattern :=
  (List.prefix_append text rest).isInfix.trans here.suffix.isInfix

theorem forget (here : At pattern text rest reading) : At pattern [] rest reading where
  left := here.left
  suffix := (List.suffix_append text rest).trans here.suffix
  asked := here.asked

end At

namespace Reads

theorem bind {next : α → Reader β} {gives_then : β → List Char → List Char → Prop}
    (first : Reads pattern text rest reader gives)
    (second : ∀ value text rest, gives value text rest →
      Reads pattern text rest (next value) gives_then) :
    Reads pattern text rest (reader >>= next) gives_then := by
  intro reading here
  have outcome := first reading here
  rw [StateT.run_bind]
  cases ran : reader.run reading with
  | error reason =>
      rw [ran] at outcome
      exact outcome
  | ok result =>
      rw [ran] at outcome
      obtain ⟨text, rest, given, there⟩ := outcome
      exact second _ text rest given _ there

theorem tell {gives_less : α → List Char → List Char → Prop}
    (reads : Reads pattern text rest reader gives)
    (less : ∀ value text rest reading, gives value text rest → At pattern text rest reading →
      gives_less value text rest) :
    Reads pattern text rest reader gives_less := by
  intro reading here
  have outcome := reads reading here
  cases ran : reader.run reading with
  | error reason =>
      rw [ran] at outcome
      exact outcome
  | ok result =>
      rw [ran] at outcome
      obtain ⟨text, rest, given, there⟩ := outcome
      exact ⟨text, rest, less _ text rest _ given there, there⟩

theorem weaken {gives_less : α → List Char → List Char → Prop}
    (reads : Reads pattern text rest reader gives)
    (less : ∀ value text rest, gives value text rest → gives_less value text rest) :
    Reads pattern text rest reader gives_less :=
  reads.tell fun value text rest _ given _ => less value text rest given

theorem anywhere (reads : Reads pattern [] rest reader gives) :
    Reads pattern text rest reader gives := fun reading here => reads reading here.forget

theorem stood (reads : Reads pattern text rest reader gives) :
    Reads pattern text rest reader fun value text rest =>
      gives value text rest ∧ text <:+: pattern :=
  reads.tell fun _ _ _ _ given there => ⟨given, there.stands⟩

theorem pure (value : α) (given : gives value text rest) :
    Reads pattern text rest (Pure.pure value : Reader α) gives :=
  fun _ here => ⟨text, rest, given, here⟩

theorem throw (reason : CompileError) (explained : Explains pattern reason) :
    Reads pattern text rest (MonadExcept.throw reason : Reader α) gives := fun _ _ => explained

theorem fail (cause : Cause) (back : Nat) (shallow : cause ≠ .tooDeep) :
    Reads pattern text rest (Reader.fail cause back : Reader α) gives := fun _ _ => shallow

theorem get {next : Reading → Reader α}
    (reads : ∀ reading, At pattern text rest reading →
      Reads pattern text rest (next reading) gives) :
    Reads pattern text rest (MonadState.get >>= next) gives :=
  fun reading here => reads reading here reading here

theorem here {next : Nat → Reader α}
    (reads : ∀ position, Reads pattern text rest (next position) gives) :
    Reads pattern text rest (Reader.here >>= next) gives :=
  fun reading standing => reads reading.position reading standing

theorem modify {gives : Unit → List Char → List Char → Prop} {change : Reading → Reading}
    (given : gives () text rest) (left : ∀ reading, (change reading).rest = reading.rest)
    (flags : ∀ reading, (change reading).flags = reading.flags) :
    Reads pattern text rest (modify change : Reader Unit) gives := by
  intro reading here
  refine ⟨text, rest, given, (left reading).trans here.left, here.suffix, ?_⟩
  rw [flags]
  exact here.asked

theorem stop {next : α → Reader β} {gives_then : β → List Char → List Char → Prop}
    (fails : Reads pattern text rest reader fun _ _ _ => False) :
    Reads pattern text rest (reader >>= next) gives_then :=
  fails.bind fun _ _ _ impossible => impossible.elim

theorem check {condition : Prop} [Decidable condition] {bad : Reader Unit}
    (fails : condition → Reads pattern text rest bad fun _ _ _ => False)
    (reads : ¬ condition → Reads pattern text rest reader gives) :
    Reads pattern text rest (if condition then bad >>= fun _ => reader else reader) gives := by
  by_cases holds : condition
  · rw [if_pos holds]
    exact (fails holds).stop
  · rw [if_neg holds]
    exact reads holds

variable (gives) in
theorem either {condition : Prop} [Decidable condition] {other : Reader α} {next : α → Reader β}
    {gives_then : β → List Char → List Char → Prop}
    (yes : condition → Reads pattern text rest reader gives)
    (no : ¬ condition → Reads pattern text rest other gives)
    (second : ∀ value text rest, gives value text rest →
      Reads pattern text rest (next value) gives_then) :
    Reads pattern text rest (if condition then reader >>= next else other >>= next) gives_then := by
  by_cases holds : condition
  · rw [if_pos holds]
    exact (yes holds).bind second
  · rw [if_neg holds]
    exact (no holds).bind second

end Reads

namespace Keeps

theorem bind {next : α → Reader β} (first : Keeps pattern text rest reader)
    (second : ∀ value left, left.length ≤ rest.length → Keeps pattern [] left (next value)) :
    Keeps pattern text rest (reader >>= next) := by
  refine Reads.bind first fun value text left fewer => Reads.anywhere ?_
  exact (second value left fewer).weaken fun _ _ _ least => Nat.le_trans least fewer

theorem pure (value : α) : Keeps pattern text rest (Pure.pure value : Reader α) :=
  Reads.pure value (Nat.le_refl _)

theorem fail (cause : Cause) (back : Nat) (shallow : cause ≠ .tooDeep) :
    Keeps pattern text rest (Reader.fail cause back : Reader α) := Reads.fail cause back shallow

theorem shorter {left : List Char} (keeps : Keeps pattern text left reader)
    (fewer : left.length ≤ rest.length) :
    Reads pattern text left reader fun _ _ left => left.length ≤ rest.length :=
  keeps.weaken fun _ _ _ least => Nat.le_trans least fewer

theorem check {condition : Prop} [Decidable condition] {next : Reader α} (cause : Cause)
    (back : Nat) (shallow : cause ≠ .tooDeep) (reads : ¬ condition → Keeps pattern text rest next) :
    Keeps pattern text rest
      (if condition then (Reader.fail cause back : Reader Unit) >>= fun _ => next else next) :=
  Reads.check (fun _ => Reads.fail cause back shallow) reads

theorem either {condition : Prop} [Decidable condition] {other : Reader α} {next : α → Reader β}
    (yes : Keeps pattern text rest reader) (no : Keeps pattern text rest other)
    (second : ∀ value left, left.length ≤ rest.length → Keeps pattern [] left (next value)) :
    Keeps pattern text rest (if condition then reader >>= next else other >>= next) := by
  split
  · exact yes.bind second
  · exact no.bind second

end Keeps

end

def ahead : List Char → Option Symbol
  | '\\' :: c :: _ => some (.escaped c)
  | c :: _ => some (.plain c)
  | [] => none

theorem symbol_ahead (reading : Reading) : reading.symbol? = ahead reading.rest := rfl

theorem ahead_some (rest : List Char) (symbol : Symbol) (next : ahead rest = some symbol) :
    ∃ left, rest = symbol.text ++ left := by
  unfold ahead at next
  split at next
  · cases next
    exact ⟨_, rfl⟩
  · cases next
    exact ⟨_, rfl⟩
  · cases next

theorem text_nonempty (symbol : Symbol) : 0 < symbol.text.length := by
  cases symbol <;> exact Nat.zero_lt_succ _

section

variable {α : Type} {pattern text rest : List Char} {gives : α → List Char → List Char → Prop}

theorem settle_reads (position : Nat) (back left : List Char)
    (suffix : (back ++ left) <:+ pattern) :
    Reads pattern text rest (Reader.settle position left) fun _ text rest =>
      text = back ∧ rest = left := by
  refine Reads.check (fun _ => Reads.throw _ (by simp [Explains])) fun _ => ?_
  exact fun reading here => ⟨back, left, ⟨rfl, rfl⟩, rfl, suffix, here.asked⟩

theorem next_reads :
    Reads pattern text rest Reader.next fun symbol? behind left =>
      symbol? = ahead rest ∧
        match symbol? with
        | none => behind = text ∧ left = rest
        | some symbol => behind = text ++ symbol.text ∧ rest = symbol.text ++ left := by
  unfold Reader.next
  apply Reads.get
  intro reading here
  rw [symbol_ahead, here.left]
  cases next : ahead rest with
  | none => exact Reads.pure none ⟨rfl, rfl, rfl⟩
  | some symbol =>
      obtain ⟨left, parts⟩ := ahead_some rest symbol next
      have dropped : rest.drop symbol.text.length = left := by
        rw [parts, List.drop_left]
      simp only [dropped]
      refine Reads.bind (settle_reads _ (text ++ symbol.text) left ?_) ?_
      · rw [List.append_assoc, ← parts]
        exact here.suffix
      · rintro _ _ _ ⟨rfl, rfl⟩
        exact Reads.pure _ ⟨rfl, rfl, parts⟩

theorem take_reads {next : Option Symbol → Reader α} {symbol : Symbol}
    (first : ahead rest = some symbol)
    (reads : ∀ left, rest = symbol.text ++ left →
      Reads pattern (text ++ symbol.text) left (next (some symbol)) gives) :
    Reads pattern text rest (Reader.next >>= next) gives := by
  refine next_reads.bind fun symbol? behind left taken => ?_
  obtain ⟨rfl, taken⟩ := taken
  rw [first] at taken ⊢
  obtain ⟨rfl, parts⟩ := taken
  exact reads left parts

theorem next_keeps {next : Option Symbol → Reader α}
    (ended : Keeps pattern text rest (next none))
    (reads : ∀ symbol left, rest = symbol.text ++ left →
      Keeps pattern (text ++ symbol.text) left (next (some symbol))) :
    Keeps pattern text rest (Reader.next >>= next) := by
  refine next_reads.bind fun symbol? behind left taken => ?_
  cases symbol? with
  | none =>
      obtain ⟨_, rfl, rfl⟩ := taken
      exact ended
  | some symbol =>
      obtain ⟨_, rfl, parts⟩ := taken
      apply (reads symbol left parts).shorter
      rw [parts, List.length_append]
      exact Nat.le_add_left _ _

theorem peek_reads {next : Option Symbol → Reader α}
    (reads : Reads pattern text rest (next (ahead rest)) gives) :
    Reads pattern text rest (Reader.peek >>= next) gives := by
  intro reading here
  have same : reading.symbol? = ahead rest := by rw [symbol_ahead, here.left]
  have outcome := reads reading here
  rw [← same] at outcome
  exact outcome

theorem peekIs_reads {next : Bool → Reader α} (c : Char)
    (reads : Reads pattern text rest (next (ahead rest == some (.plain c))) gives) :
    Reads pattern text rest (Reader.peekIs c >>= next) gives := by
  intro reading here
  have same : reading.symbol? = ahead rest := by rw [symbol_ahead, here.left]
  have outcome := reads reading here
  rw [← same] at outcome
  exact outcome

theorem accept_reads (c : Char) :
    Reads pattern text rest (Reader.accept c) fun accepted behind left =>
      if accepted then behind = text ++ [c] ∧ rest = c :: left else behind = text ∧ left = rest := by
  unfold Reader.accept
  apply peekIs_reads
  split
  · rename_i found
    have next : ahead rest = some (.plain c) := by simpa using found
    exact take_reads next fun left parts => Reads.pure true ⟨rfl, parts⟩
  · exact Reads.pure false ⟨rfl, rfl⟩

theorem accept_keeps (c : Char) : Keeps pattern text rest (Reader.accept c) := by
  apply (accept_reads c).weaken
  intro accepted behind left taken
  split at taken
  · rw [taken.2]
    exact Nat.le_succ _
  · exact Nat.le_of_eq (congrArg List.length taken.2)

def Took (allowed : Char → Bool) (text rest taken behind left : List Char) : Prop :=
  behind = text ++ taken ∧ rest = taken ++ left ∧ ∀ c ∈ taken, allowed c = true

theorem takeUpTo_reads (allowed : Char → Bool) (most : Nat) :
    Reads pattern text rest (Reader.takeUpTo allowed most) fun taken behind left =>
      Took allowed text rest taken behind left ∧ taken.length ≤ most := by
  induction most generalizing text rest with
  | zero => exact Reads.pure [] ⟨⟨by simp, rfl, by simp⟩, Nat.le_refl 0⟩
  | succ most ih =>
      have nothing : Reads pattern text rest (pure [] : Reader (List Char))
          fun taken behind left =>
            Took allowed text rest taken behind left ∧ taken.length ≤ most + 1 :=
        Reads.pure [] ⟨⟨by simp, rfl, by simp⟩, Nat.zero_le _⟩
      unfold Reader.takeUpTo
      apply peek_reads
      split
      · rename_i c first
        split
        · rename_i fits
          refine take_reads first fun left parts => ?_
          refine ih.bind fun more behind left taken => Reads.pure _ ?_
          obtain ⟨⟨rfl, rest_parts, all⟩, few⟩ := taken
          refine ⟨⟨by simp [Symbol.text], ?_, ?_⟩, Nat.succ_le_succ few⟩
          · rw [parts, rest_parts]
            rfl
          · intro d member
            rcases List.mem_cons.mp member with rfl | later
            · exact fits
            · exact all d later
        · exact nothing
      · exact nothing

theorem Took.fewer {allowed : Char → Bool} {taken behind left : List Char}
    (took : Took allowed text rest taken behind left) : left.length ≤ rest.length := by
  rw [took.2.1, List.length_append]
  exact Nat.le_add_left _ _

theorem takeUpTo_keeps (allowed : Char → Bool) (most : Nat) :
    Keeps pattern text rest (Reader.takeUpTo allowed most) :=
  (takeUpTo_reads allowed most).weaken fun _ _ _ taken => taken.1.fewer

theorem takeAll_reads (allowed : Char → Bool) :
    Reads pattern text rest (Reader.takeAll allowed) (Took allowed text rest) := by
  apply Reads.get
  intro reading _
  exact (takeUpTo_reads allowed _).weaken fun _ _ _ taken => taken.1

theorem name_keeps (terminator : Char) (what : String) :
    Keeps pattern text rest (Reader.name terminator what) := by
  have ended (text rest taken : List Char) :
      Keeps pattern text rest (Reader.name.atEnd terminator what taken) := by
    unfold Reader.name.atEnd
    split
    · exact Keeps.fail _ _ (by simp)
    · exact Keeps.fail _ _ (by simp)
  have reads (fuel : Nat) : ∀ text rest taken,
      Keeps pattern text rest (Reader.name.go terminator what fuel taken) := by
    induction fuel with
    | zero => exact ended
    | succ fuel ih =>
        intro text rest taken
        unfold Reader.name.go
        refine next_keeps (ended _ _ _) fun symbol left _ => ?_
        cases symbol with
        | plain c =>
            simp only
            split
            · split
              · exact Keeps.fail _ _ (by simp)
              · exact Keeps.pure _
            · exact ih _ _ _
        | escaped c => exact ih _ _ _
  exact Reads.get fun reading _ => reads _ text rest []

end

end DocFinder.Pattern
