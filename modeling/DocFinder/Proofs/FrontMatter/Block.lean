import DocFinder.Proofs.FrontMatter.Occurrence

namespace DocFinder.FrontMatter

/-- The delimiters that fit the first line of a file. The carriage return alone comes last. -/
def styleOf (data : List UInt8) : Delimiter :=
  if [45, 45, 45, 13, 10] <+: data then ⟨[45, 45, 45, 13, 10], [13, 10, 45, 45, 45, 13, 10]⟩
  else if [45, 45, 45, 10] <+: data then ⟨[45, 45, 45, 10], [10, 45, 45, 45, 10]⟩
  else ⟨[45, 45, 45, 13], [13, 45, 45, 45, 13]⟩

/-- A file holds a block between its opening line and the closing one that comes first. -/
def IsBlock (data block : List UInt8) : Prop :=
  (∃ rest, data = (styleOf data).opening ++ block ++ (styleOf data).closing ++ rest) ∧
    ∀ index < block.length,
      ¬ (styleOf data).closing <+: (block ++ (styleOf data).closing).drop index

def HasBlock (data : List UInt8) : Prop :=
  ∃ block rest, data = (styleOf data).opening ++ block ++ (styleOf data).closing ++ rest

theorem style_lengths (data : List UInt8) :
    (styleOf data).opening.length ≤ lookahead ∧ 4 ≤ (styleOf data).opening.length ∧
      5 ≤ (styleOf data).closing.length := by
  unfold styleOf lookahead
  split
  · decide
  · split <;> decide

theorem delimiterOf_lookahead (data : List UInt8) :
    delimiterOf? (data.take lookahead) =
      if (styleOf data).opening <+: data then some (styleOf data) else none := by
  have seen (opening : List UInt8) (short : opening.length ≤ lookahead) :
      opening.isPrefixOf (data.take lookahead) = decide (opening <+: data) := by
    rw [Bool.eq_iff_iff, decide_eq_true_eq, List.isPrefixOf_iff_prefix, List.prefix_take_iff]
    exact ⟨fun both => both.1, fun present => ⟨present, short⟩⟩
  have pair := seen [45, 45, 45, 13, 10] (by decide)
  have newline := seen [45, 45, 45, 10] (by decide)
  have carriage := seen [45, 45, 45, 13] (by decide)
  simp only [delimiterOf?, delimiters, Delimiter.ofLineEnd, dashes, crlf, lf, cr, List.map_cons,
    List.map_nil, List.cons_append, List.nil_append, List.find?_cons, List.find?_nil, pair, newline,
    carriage, styleOf]
  by_cases first : [45, 45, 45, 13, 10] <+: data
  · simp [first]
  · by_cases second : [45, 45, 45, 10] <+: data
    · simp [first, second]
    · by_cases third : [45, 45, 45, 13] <+: data <;> simp [first, second, third]

theorem isBlock_iff (data block : List UInt8) :
    IsBlock data block ↔ (styleOf data).opening <+: data ∧
      indexOf? (styleOf data).closing (data.drop (styleOf data).opening.length) =
        some block.length ∧
      block = (data.drop (styleOf data).opening.length).take block.length := by
  let opening := (styleOf data).opening
  let closing := (styleOf data).closing
  change ((∃ rest, data = opening ++ block ++ closing ++ rest) ∧
      ∀ index < block.length, ¬ closing <+: (block ++ closing).drop index) ↔
    opening <+: data ∧ indexOf? closing (data.drop opening.length) = some block.length ∧
      block = (data.drop opening.length).take block.length
  constructor
  · rintro ⟨⟨rest, whole⟩, earliest⟩
    have behind : data.drop opening.length = block ++ closing ++ rest := by
      rw [whole, List.append_assoc, List.append_assoc, List.drop_left, List.append_assoc]
    have found : indexOf? closing (block ++ closing) = some block.length := by
      rw [indexOf_some_iff]
      refine ⟨by simp, by simp, earliest⟩
    refine ⟨⟨block ++ closing ++ rest, by simp [whole]⟩, ?_, ?_⟩
    · rw [behind]
      exact indexOf_stays closing (block ++ closing) rest block.length found
    · rw [behind, List.append_assoc, List.take_left]
  · rintro ⟨⟨behind, whole⟩, found, same⟩
    have rest : data.drop opening.length = behind := by
      rw [← whole, List.drop_left]
    rw [rest] at found same
    obtain ⟨bound, ⟨last, present⟩, earliest⟩ := (indexOf_some_iff _ _ _).mp found
    have parts : behind = block ++ closing ++ last := by
      rw [List.append_assoc, present]
      exact (List.take_append_drop block.length behind).symm.trans (by rw [← same])
    refine ⟨⟨last, by rw [← whole, parts]; simp⟩, ?_⟩
    intro index below occurs
    apply earliest index below
    rw [parts, List.drop_append_of_le_length (by rw [List.length_append]; omega)]
    exact List.prefix_append_of_prefix occurs

theorem hasBlock_iff (data : List UInt8) :
    HasBlock data ↔ (styleOf data).opening <+: data ∧
      indexOf? (styleOf data).closing (data.drop (styleOf data).opening.length) ≠ none := by
  let opening := (styleOf data).opening
  let closing := (styleOf data).closing
  change (∃ block rest, data = opening ++ block ++ closing ++ rest) ↔
    opening <+: data ∧ indexOf? closing (data.drop opening.length) ≠ none
  constructor
  · rintro ⟨block, rest, whole⟩
    refine ⟨⟨block ++ closing ++ rest, by simp [whole]⟩, ?_⟩
    intro unfound
    have behind : data.drop opening.length = block ++ (closing ++ rest) := by
      rw [whole, List.append_assoc, List.append_assoc, List.drop_left]
    rw [behind, indexOf_none_iff] at unfound
    exact unfound block.length (by simp) (by simp)
  · rintro ⟨⟨behind, whole⟩, found⟩
    obtain ⟨index, first⟩ := Option.ne_none_iff_exists'.mp found
    have rest : data.drop opening.length = behind := by
      rw [← whole, List.drop_left]
    rw [rest] at first
    obtain ⟨_, ⟨last, present⟩, _⟩ := (indexOf_some_iff _ _ _).mp first
    refine ⟨behind.take index, last, ?_⟩
    rw [List.append_assoc, present, List.append_assoc, List.take_append_drop, whole]

namespace Source

/-- No read fails, and each yields something until the source is exhausted. -/
structure Steady (source : Source) : Prop where
  sound : source.failsFrom = none
  yields : ∀ n, 1 ≤ source.allowance n

theorem steady_after (source : Source) (size : Int) (steady : source.Steady) :
    (source.after size).Steady := ⟨steady.sound, steady.yields⟩

theorem steady_not_fails (source : Source) (steady : source.Steady) : source.fails = false := by
  simp [fails, steady.sound]

theorem chunk_append_after (source : Source) (size : Int) :
    source.chunk size ++ (source.after size).rest = source.rest :=
  List.prefix_iff_eq_append.mp (List.take_prefix _ source.rest)

theorem chunk_eq_nil_iff (source : Source) (size : Int) (steady : source.Steady)
    (asks : 1 ≤ size) : source.chunk size = [] ↔ source.rest = [] := by
  have yields := steady.yields source.reads
  have asked : 1 ≤ source.request size := by
    rw [request, if_neg (by omega)]
    omega
  rw [chunk, List.take_eq_nil_iff]
  constructor
  · rintro (nothing | exhausted)
    · omega
    · exact exhausted
  · exact Or.inr

theorem chunk_length_le (source : Source) (size : Nat) : (source.chunk size).length ≤ size := by
  rw [chunk, List.length_take, request, if_neg (by omega), Int.toNat_natCast]
  omega

end Source

theorem readFully_eq (source : Source) (size : Nat) (steady : source.Steady) :
    ∃ last : Source, last.Steady ∧ last.rest = source.rest.drop size ∧
      readFully source size = .ok (source.rest.take size, last) := by
  fun_induction readFully source size with
  | case1 source => exact ⟨source, steady, rfl, by simp⟩
  | case2 source size _ fails =>
      rw [source.steady_not_fails steady] at fails
      cases fails
  | case3 source size nonzero _ chunk empty =>
      have exhausted := (source.chunk_eq_nil_iff size steady (by omega)).mp empty
      exact ⟨_, source.steady_after size steady, by simp [Source.after, exhausted], by simp [exhausted]⟩
  | case4 source size nonzero _ chunk _ error failed ih =>
      obtain ⟨last, _, _, equation⟩ := ih (source.steady_after size steady)
      rw [failed] at equation
      cases equation
  | case5 source size nonzero _ chunk _ more last read ih =>
      obtain ⟨other, steady_last, rest_last, equation⟩ := ih (source.steady_after size steady)
      rw [read] at equation
      cases equation
      have joined := source.chunk_append_after size
      have short := source.chunk_length_le size
      refine ⟨last, steady_last, ?_, ?_⟩
      · rw [rest_last, ← joined, List.drop_append, List.drop_eq_nil_of_le short, List.nil_append]
      · rw [← joined, List.take_append, List.take_of_length_le short]

/-- The last bytes of a block are looked at again, since a delimiter may have begun in them. -/
theorem readBlock_window (closing taken chunk : List UInt8)
    (absent : indexOf? closing taken.reverse = none) :
    let tail := (taken.take (closing.length - 1)).reverse
    indexOf? closing (taken.reverse ++ chunk) =
      (indexOf? closing (tail ++ chunk)).map (taken.length - tail.length + ·) := by
  intro tail
  let front := (taken.drop (closing.length - 1)).reverse
  have parts : taken.reverse = front ++ tail := by
    simp only [front, tail, ← List.reverse_append, List.take_append_drop]
  have width : front.length = taken.length - tail.length := by
    simp only [front, tail, List.length_reverse, List.length_drop, List.length_take]
    omega
  have short : front = [] ∨ closing.length ≤ tail.length + 1 := by
    simp only [front, tail, List.reverse_eq_nil_iff, List.drop_eq_nil_iff, List.length_reverse,
      List.length_take]
    omega
  rw [parts, indexOf_overlap closing front tail chunk short (parts ▸ absent), width]

theorem readBlock_eq (closing : List UInt8) (size : Int) (taken : List UInt8) (source : Source)
    (steady : source.Steady) (asks : 1 ≤ size)
    (absent : indexOf? closing taken.reverse = none) :
    (readBlock closing size taken source).found =
        .ok ((indexOf? closing (taken.reverse ++ source.rest)).map
          fun index => (taken.reverse ++ source.rest).take index) ∧
      (readBlock closing size taken source).warnings =
        if indexOf? closing (taken.reverse ++ source.rest) = none then [.unclosedBlock] else [] := by
  -- No closing line in what is taken: this holds before each read, so that a first one reaches into
  -- the new piece and begins in the last bytes at the earliest.
  fun_induction readBlock closing size taken source with
  | case1 taken source fails =>
      rw [source.steady_not_fails steady] at fails
      cases fails
  | case2 taken source _ chunk empty =>
      have exhausted := (source.chunk_eq_nil_iff size steady asks).mp empty
      simp [exhausted, absent]
  | case3 taken source _ chunk _ tail all index found =>
      have window := readBlock_window closing taken chunk absent
      simp only [found, Option.map_some, tail] at window
      have joined := source.chunk_append_after size
      have whole := indexOf_stays _ _ (source.after size).rest _ window
      rw [List.append_assoc, joined] at whole
      have bound := ((indexOf_some_iff _ _ _).mp window).1
      have block : all.reverse = taken.reverse ++ chunk := by
        simp [all]
      have longer : taken.reverse ++ source.rest =
          taken.reverse ++ chunk ++ (source.after size).rest := by
        rw [List.append_assoc, joined]
      rw [whole, block, longer, Option.map_some, List.take_append_of_le_length bound]
      exact ⟨rfl, rfl⟩
  | case4 taken source _ chunk _ tail all unfound ih =>
      have window := readBlock_window closing taken chunk absent
      simp only [unfound, Option.map_none, tail] at window
      have joined := source.chunk_append_after size
      have later := ih (source.steady_after size steady) (by simpa [all] using window)
      have same : all.reverse ++ (source.after size).rest = taken.reverse ++ source.rest := by
        rw [← joined]
        simp [all, chunk]
      rw [same] at later
      exact later

theorem findPreamble_short (source : Source) (size : Int) (steady : source.Steady)
    (short : source.rest.length < lookahead) :
    (findPreamble source size).found = .ok none ∧ (findPreamble source size).warnings = [] := by
  obtain ⟨last, _, _, head⟩ := readFully_eq source lookahead steady
  have brief : (source.rest.take lookahead).length < lookahead := by
    rw [List.length_take]
    omega
  simp only [findPreamble, head, if_pos brief, and_self]

theorem findPreamble_unopened (source : Source) (size : Int) (steady : source.Steady)
    (long : lookahead ≤ source.rest.length)
    (unopened : ¬ (styleOf source.rest).opening <+: source.rest) :
    (findPreamble source size).found = .ok none ∧ (findPreamble source size).warnings = [] := by
  obtain ⟨last, _, _, head⟩ := readFully_eq source lookahead steady
  have full : ¬ (source.rest.take lookahead).length < lookahead := by
    rw [List.length_take]
    omega
  simp only [findPreamble, head, if_neg full, delimiterOf_lookahead, if_neg unopened, and_self]

theorem findPreamble_opened (source : Source) (size : Int) (steady : source.Steady)
    (asks : 1 ≤ size) (long : lookahead ≤ source.rest.length)
    (opens : (styleOf source.rest).opening <+: source.rest) :
    let behind := source.rest.drop (styleOf source.rest).opening.length
    let found := indexOf? (styleOf source.rest).closing behind
    (findPreamble source size).found = .ok (found.map behind.take) ∧
      (findPreamble source size).warnings = if found = none then [.unclosedBlock] else [] := by
  intro behind found
  obtain ⟨last, steady_last, rest_last, head⟩ := readFully_eq source lookahead steady
  obtain ⟨narrow, wide, broad⟩ := style_lengths source.rest
  let taken := ((source.rest.take lookahead).drop (styleOf source.rest).opening.length).reverse
  have full : ¬ (source.rest.take lookahead).length < lookahead := by
    rw [List.length_take]
    omega
  have scan : findPreamble source size =
      readBlock (styleOf source.rest).closing size taken last := by
    simp only [findPreamble, head, if_neg full, delimiterOf_lookahead, if_pos opens, taken]
  have joined : taken.reverse ++ last.rest = behind := by
    simp only [taken, List.reverse_reverse, rest_last, behind]
    rw [← List.drop_append_of_le_length (by rw [List.length_take]; omega), List.take_append_drop]
  -- At most one byte of the lookahead is left, too few for a closing line.
  have absent : indexOf? (styleOf source.rest).closing taken.reverse = none := by
    apply indexOf_none_of_short
    simp only [taken, List.reverse_reverse, List.length_drop, List.length_take]
    unfold lookahead
    omega
  have block := readBlock_eq (styleOf source.rest).closing size taken last steady_last asks absent
  rw [joined] at block
  rw [scan]
  exact block

theorem findPreamble_eq (source : Source) (size : Int) (steady : source.Steady) (asks : 1 ≤ size) :
    let data := source.rest
    let behind := data.drop (styleOf data).opening.length
    let found := indexOf? (styleOf data).closing behind
    (findPreamble source size).found =
        .ok (if (styleOf data).opening <+: data then found.map behind.take else none) ∧
      (findPreamble source size).warnings =
        if lookahead ≤ data.length ∧ (styleOf data).opening <+: data ∧ found = none
        then [.unclosedBlock] else [] := by
  intro data behind found
  by_cases long : lookahead ≤ data.length
  · by_cases opens : (styleOf data).opening <+: data
    · obtain ⟨block, warnings⟩ := findPreamble_opened source size steady asks long opens
      rw [if_pos opens]
      refine ⟨block, warnings.trans ?_⟩
      simp only [long, opens, true_and, found, behind, data]
    · obtain ⟨block, warnings⟩ := findPreamble_unopened source size steady long opens
      rw [if_neg opens, if_neg (fun conditions => opens conditions.2.1)]
      exact ⟨block, warnings⟩
  · have short : data.length < lookahead := Nat.lt_of_not_le long
    have unfound : found = none := by
      obtain ⟨_, _, broad⟩ := style_lengths data
      apply indexOf_none_of_short
      simp only [behind, List.length_drop]
      unfold lookahead at short
      omega
    have quiet : ¬ (lookahead ≤ data.length ∧ (styleOf data).opening <+: data ∧ found = none) :=
      fun conditions => long conditions.1
    obtain ⟨block, warnings⟩ := findPreamble_short source size steady short
    rw [if_neg quiet, unfound, Option.map_none, ite_self]
    exact ⟨block, warnings⟩

theorem found_block_iff (source : Source) (size : Int) (steady : source.Steady) (asks : 1 ≤ size)
    (block : List UInt8) :
    (findPreamble source size).found = .ok (some block) ↔ IsBlock source.rest block := by
  rw [(findPreamble_eq source size steady asks).1, isBlock_iff]
  by_cases opens : (styleOf source.rest).opening <+: source.rest
  · rw [if_pos opens, Except.ok.injEq, Option.map_eq_some_iff]
    constructor
    · rintro ⟨index, first, rfl⟩
      have bound := ((indexOf_some_iff _ _ _).mp first).1
      have width := List.length_take_of_le bound
      rw [width]
      exact ⟨opens, first, rfl⟩
    · rintro ⟨_, first, same⟩
      exact ⟨block.length, first, same.symm⟩
  · simp [opens]

/-- A search finds exactly the block of a file, and warns exactly of one that is never closed. The
pieces in which the file is read do not matter. -/
theorem preamble_is_first_closed_block (source : Source) (size : Int) (steady : source.Steady)
    (asks : 1 ≤ size) :
    (∀ block, (findPreamble source size).found = .ok (some block) ↔ IsBlock source.rest block) ∧
      ((¬ ∃ block, IsBlock source.rest block) → (findPreamble source size).found = .ok none) ∧
      ((findPreamble source size).warnings = [.unclosedBlock] ↔
        5 ≤ source.rest.length ∧ (styleOf source.rest).opening <+: source.rest ∧
          ¬ HasBlock source.rest) ∧
      ((findPreamble source size).warnings = [.unclosedBlock] ∨
        (findPreamble source size).warnings = []) ∧
      ∀ (other : Source) (pieces : Int), other.Steady → 1 ≤ pieces → other.rest = source.rest →
        (findPreamble other pieces).found = (findPreamble source size).found ∧
          (findPreamble other pieces).warnings = (findPreamble source size).warnings := by
  obtain ⟨found, warnings⟩ := findPreamble_eq source size steady asks
  have exact_block := found_block_iff source size steady asks
  refine ⟨exact_block, ?_, ?_, ?_, ?_⟩
  · intro no_block
    cases outcome : (findPreamble source size).found with
    | error error =>
        rw [found] at outcome
        cases outcome
    | ok result =>
        cases result with
        | none => rfl
        | some block => exact absurd ⟨block, (exact_block block).mp outcome⟩ no_block
  · rw [warnings, hasBlock_iff]
    constructor
    · intro warned
      split at warned
      · rename_i conditions
        exact ⟨conditions.1, conditions.2.1, fun has => has.2 conditions.2.2⟩
      · cases warned
    · rintro ⟨long, opens, unclosed⟩
      have unfound := Decidable.not_not.mp fun found => unclosed ⟨opens, found⟩
      exact if_pos ⟨long, opens, unfound⟩
  · rw [warnings]
    split
    · exact Or.inl rfl
    · exact Or.inr rfl
  · intro other pieces other_steady other_asks same
    obtain ⟨other_found, other_warnings⟩ := findPreamble_eq other pieces other_steady other_asks
    rw [other_found, other_warnings, found, warnings, same]
    exact ⟨rfl, rfl⟩

theorem block_in_small_pieces :
    let source : Source := {
      rest := [45, 45, 45, 10, 97, 10, 45, 45, 45, 10, 98], allowance := fun n => n % 2 + 1 }
    source.Steady ∧ (1 : Int) ≤ 2 ∧ (findPreamble source 2).found = .ok (some [97]) := by
  intro source
  have steady : source.Steady := ⟨rfl, fun n => Nat.le_add_left 1 (n % 2)⟩
  have block : IsBlock source.rest [97] := ⟨⟨[98], by decide⟩, by decide⟩
  exact ⟨steady, by decide,
    ((preamble_is_first_closed_block source 2 steady (by decide)).1 [97]).mpr block⟩

end DocFinder.FrontMatter
