import DocFinder.Proofs.FrontMatter.Block

namespace DocFinder.FrontMatter

/-- The bytes of a file in which every line feed has become another line ending. -/
def withLineEnd (ending data : List UInt8) : List UInt8 :=
  data.flatMap fun b => if b = 10 then ending else [b]

def firstBlock? (data : List UInt8) : Option (List UInt8) :=
  let behind := data.drop (styleOf data).opening.length
  if (styleOf data).opening <+: data then
    (indexOf? (styleOf data).closing behind).map behind.take
  else none

theorem found_firstBlock (source : Source) (size : Int) (steady : source.Steady) (asks : 1 ≤ size) :
    (findPreamble source size).found = .ok (firstBlock? source.rest) :=
  (findPreamble_eq source size steady asks).1

theorem withLineEnd_cons (ending rest : List UInt8) (b : UInt8) :
    withLineEnd ending (b :: rest) = (if b = 10 then ending else [b]) ++ withLineEnd ending rest :=
  List.flatMap_cons

theorem withLineEnd_append (ending first second : List UInt8) :
    withLineEnd ending (first ++ second) = withLineEnd ending first ++ withLineEnd ending second :=
  List.flatMap_append

theorem withLineEnd_take (ending data : List UInt8) (n : Nat) :
    (withLineEnd ending data).take (withLineEnd ending (data.take n)).length =
      withLineEnd ending (data.take n) := by
  calc
    _ = (withLineEnd ending (data.take n) ++ withLineEnd ending (data.drop n)).take
        (withLineEnd ending (data.take n)).length := by
      rw [← withLineEnd_append, List.take_append_drop]
    _ = withLineEnd ending (data.take n) := List.take_left

section

variable (more : List UInt8)

theorem withLineEnd_prefix_iff (first second : List UInt8) (plain : 13 ∉ first)
    (too : 13 ∉ second) :
    withLineEnd (13 :: more) first <+: withLineEnd (13 :: more) second ↔ first <+: second := by
  induction first generalizing second with
  | nil => simp [withLineEnd]
  | cons b first ih =>
      cases second with
      | nil => by_cases newline : b = 10 <;> simp [newline, withLineEnd]
      | cons c second =>
          have other_b : b ≠ 13 := fun same => plain (by simp [same])
          have other_c : c ≠ 13 := fun same => too (by simp [same])
          have rest := ih second (fun inside => plain (List.mem_cons_of_mem _ inside))
            (fun inside => too (List.mem_cons_of_mem _ inside))
          rw [withLineEnd_cons, withLineEnd_cons, List.cons_prefix_cons, ← rest]
          by_cases newline : b = 10
          · by_cases same : c = 10
            · rw [if_pos newline, if_pos same, List.prefix_append_right_inj, newline, same]
              simp
            · simp [newline, same, Ne.symm other_c, Ne.symm same]
          · by_cases same : c = 10
            · simp [newline, same, other_b]
            · simp [newline, same]

theorem plain_prefix_iff (front ahead data : List UInt8) (feedless : 10 ∉ front)
    (plain : 13 ∉ front) :
    front ++ ahead <+: withLineEnd (13 :: more) data ↔
      ∃ rest, data = front ++ rest ∧ ahead <+: withLineEnd (13 :: more) rest := by
  induction front generalizing data with
  | nil => simp
  | cons b front ih =>
      rw [List.mem_cons, not_or] at feedless plain
      have later (data : List UInt8) := ih data feedless.2 plain.2
      cases data with
      | nil => simp [withLineEnd]
      | cons c data =>
          by_cases newline : c = 10
          · simp [withLineEnd_cons, newline, Ne.symm plain.1, feedless.1]
          · rw [withLineEnd_cons, if_neg newline]
            simp only [List.cons_append, List.nil_append, List.cons_prefix_cons, later,
              List.cons.injEq]
            constructor
            · rintro ⟨same, rest, parts, present⟩
              exact ⟨rest, ⟨same.symm, parts⟩, present⟩
            · rintro ⟨rest, ⟨same, parts⟩, present⟩
              exact ⟨same.symm, rest, parts, present⟩

theorem lineEnd_ahead (b : UInt8) (data : List UInt8) (kind : b = 10 ∨ b = 13)
    (plain : 13 ∉ data) (ahead : [b] <+: withLineEnd (13 :: more) data) :
    b = 13 ∧ lf <+: data := by
  cases data with
  | nil => simp [withLineEnd] at ahead
  | cons c data =>
      have no_return : c ≠ 13 := fun same => plain (by simp [same])
      by_cases newline : c = 10
      · rw [withLineEnd_cons, if_pos newline, List.cons_append, List.cons_prefix_cons] at ahead
        exact ⟨ahead.1, by simp [lf, newline]⟩
      · rw [withLineEnd_cons, if_neg newline, List.cons_append, List.cons_prefix_cons] at ahead
        rcases kind with feed | carriage
        · exact absurd (ahead.1.symm.trans feed) newline
        · exact absurd (ahead.1.symm.trans carriage) no_return

theorem no_return_within (b : UInt8) (behind rest : List UInt8) (index : Nat) (alone : 13 ∉ more)
    (below : index + 1 < (if b = 10 then 13 :: more else [b]).length) :
    ¬ 13 :: behind <+: ((if b = 10 then 13 :: more else [b]) ++ rest).drop (index + 1) := by
  by_cases newline : b = 10
  · rw [if_pos newline, List.length_cons] at below
    have inside : index < more.length := Nat.lt_of_succ_lt_succ below
    rw [if_pos newline, List.cons_append, List.drop_succ_cons,
      List.drop_append_of_le_length (Nat.le_of_lt inside), List.drop_eq_getElem_cons inside,
      List.cons_append, List.cons_prefix_cons]
    intro present
    apply alone
    rw [present.1]
    exact List.getElem_mem inside
  · rw [if_neg newline, List.length_singleton] at below
    omega

/-- Closing lines stand at corresponding places: they begin with a carriage return, which nothing but
a line ending holds. -/
theorem indexOf_withLineEnd (needle hay : List UInt8) (alone : 13 ∉ more)
    (plain : 13 ∉ needle) (too : 13 ∉ hay) :
    indexOf? (withLineEnd (13 :: more) (10 :: needle)) (withLineEnd (13 :: more) hay) =
      (indexOf? (10 :: needle) hay).map fun index =>
        (withLineEnd (13 :: more) (hay.take index)).length := by
  let closing := withLineEnd (13 :: more) (10 :: needle)
  have whole : 13 ∉ (10 :: needle : List UInt8) := by simpa using plain
  induction hay with
  | nil => simp [indexOf_nil, withLineEnd]
  | cons b rest ih =>
      have later : 13 ∉ rest := fun inside => too (List.mem_cons_of_mem b inside)
      have alike := withLineEnd_prefix_iff more (10 :: needle) (b :: rest) whole too
      by_cases here : 10 :: needle <+: b :: rest
      · have first : indexOf? closing (withLineEnd (13 :: more) (b :: rest)) = some 0 :=
          (indexOf_some_iff _ _ _).mpr ⟨Nat.zero_le _, alike.mpr here, by simp⟩
        rw [first, indexOf_cons, if_pos here]
        rfl
      · let code : List UInt8 := if b = 10 then 13 :: more else [b]
        have absent : ∀ index < code.length,
            ¬ closing <+: (code ++ withLineEnd (13 :: more) rest).drop index := by
          intro index below
          cases index with
          | zero =>
              rw [List.drop_zero, ← withLineEnd_cons]
              exact fun present => here (alike.mp present)
          | succ index => exact no_return_within more b _ _ index alone below
        calc
          _ = indexOf? closing (code ++ withLineEnd (13 :: more) rest) := by
            rw [withLineEnd_cons _ rest]
          _ = (indexOf? closing (withLineEnd (13 :: more) rest)).map (code.length + ·) :=
            indexOf_skip closing code _ absent
          _ = ((indexOf? (10 :: needle) rest).map (· + 1)).map fun index =>
              (withLineEnd (13 :: more) ((b :: rest).take index)).length := by
            rw [ih later, Option.map_map, Option.map_map]
            congr 1
            funext index
            simp [withLineEnd_cons, code]
          _ = _ := by rw [indexOf_cons, if_neg here]

end

theorem not_prefix_of_absent (b : UInt8) (front data : List UInt8) (absent : b ∉ data)
    (inside : b ∈ front) : ¬ front <+: data :=
  fun present => absent (present.subset inside)

theorem feeds_replaced (data : List UInt8) : 10 ∉ withLineEnd cr data := by
  intro member
  obtain ⟨b, _, stands⟩ := List.mem_flatMap.mp member
  by_cases newline : b = 10
  · simp [newline, cr] at stands
  · simp [newline, Ne.symm newline] at stands

theorem styleOf_feeds (data : List UInt8) (plain : 13 ∉ data) :
    ((styleOf data).opening <+: data ↔ dashes ++ lf <+: data) ∧
      (dashes ++ lf <+: data → styleOf data = .ofLineEnd lf) := by
  have pair : ¬ [45, 45, 45, 13, 10] <+: data := not_prefix_of_absent 13 _ data plain (by decide)
  have carriage : ¬ [45, 45, 45, 13] <+: data := not_prefix_of_absent 13 _ data plain (by decide)
  have line : dashes ++ lf = [45, 45, 45, 10] := rfl
  rw [line, styleOf, if_neg pair]
  by_cases opens : [45, 45, 45, 10] <+: data
  · rw [if_pos opens]
    exact ⟨Iff.rfl, fun _ => rfl⟩
  · rw [if_neg opens]
    exact ⟨iff_of_false carriage opens, fun present => absurd present opens⟩

theorem styleOf_crlf (data : List UInt8) (plain : 13 ∉ data) :
    ((styleOf (withLineEnd crlf data)).opening <+: withLineEnd crlf data ↔ dashes ++ lf <+: data) ∧
      (dashes ++ lf <+: data → styleOf (withLineEnd crlf data) = .ofLineEnd crlf) := by
  let converted := withLineEnd crlf data
  have pair : [45, 45, 45, 13, 10] <+: converted ↔ dashes ++ lf <+: data :=
    withLineEnd_prefix_iff [10] (dashes ++ lf) data (by decide) plain
  have short (b : UInt8) (kind : b = 10 ∨ b = 13) (present : dashes ++ [b] <+: converted) :
      b = 13 ∧ dashes ++ lf <+: data := by
    obtain ⟨rest, parts, ahead⟩ :=
      (plain_prefix_iff [10] dashes [b] data (by decide) (by decide)).mp present
    have behind : 13 ∉ rest := by
      intro inside
      apply plain
      rw [parts]
      exact List.mem_append_right dashes inside
    obtain ⟨carriage, ends⟩ := lineEnd_ahead [10] b rest kind behind ahead
    rw [parts, List.prefix_append_right_inj]
    exact ⟨carriage, ends⟩
  have feed : ¬ [45, 45, 45, 10] <+: converted :=
    fun present => absurd (short 10 (Or.inl rfl) present).1 (by decide)
  have carriage (present : [45, 45, 45, 13] <+: converted) : dashes ++ lf <+: data :=
    (short 13 (Or.inr rfl) present).2
  change ((styleOf converted).opening <+: converted ↔ _) ∧ (_ → styleOf converted = _)
  by_cases opens : dashes ++ lf <+: data
  · rw [styleOf, if_pos (pair.mpr opens)]
    exact ⟨pair, fun _ => rfl⟩
  · rw [styleOf, if_neg (mt pair.mp opens), if_neg feed]
    exact ⟨iff_of_false (mt carriage opens) opens, fun present => absurd present opens⟩

theorem styleOf_cr (data : List UInt8) (plain : 13 ∉ data) :
    ((styleOf (withLineEnd cr data)).opening <+: withLineEnd cr data ↔ dashes ++ lf <+: data) ∧
      (dashes ++ lf <+: data → styleOf (withLineEnd cr data) = .ofLineEnd cr) := by
  have replaced := feeds_replaced data
  have pair : ¬ [45, 45, 45, 13, 10] <+: withLineEnd cr data :=
    not_prefix_of_absent 10 _ _ replaced (by decide)
  have feed : ¬ [45, 45, 45, 10] <+: withLineEnd cr data :=
    not_prefix_of_absent 10 _ _ replaced (by decide)
  rw [styleOf, if_neg pair, if_neg feed]
  exact ⟨withLineEnd_prefix_iff [] (dashes ++ lf) data (by decide) plain, fun _ => rfl⟩

theorem firstBlock_of_style (data : List UInt8) (ending : List UInt8) (opens : Prop) [Decidable opens]
    (opening : (styleOf data).opening <+: data ↔ opens)
    (style : opens → styleOf data = .ofLineEnd ending) :
    firstBlock? data =
      if opens then
        (indexOf? (ending ++ dashes ++ ending) (data.drop (dashes ++ ending).length)).map
          (data.drop (dashes ++ ending).length).take
      else none := by
  unfold firstBlock?
  by_cases begins : opens
  · rw [if_pos (opening.mpr begins), if_pos begins, style begins]
    rfl
  · rw [if_neg (mt opening.mp begins), if_neg begins]

theorem firstBlock_withLineEnd (ending data : List UInt8) (kind : ending = crlf ∨ ending = cr)
    (plain : 13 ∉ data) :
    firstBlock? (withLineEnd ending data) = (firstBlock? data).map (withLineEnd ending) := by
  obtain ⟨feeds_open, feeds_style⟩ := styleOf_feeds data plain
  have converted : ((styleOf (withLineEnd ending data)).opening <+: withLineEnd ending data ↔
        dashes ++ lf <+: data) ∧
      (dashes ++ lf <+: data → styleOf (withLineEnd ending data) = .ofLineEnd ending) := by
    rcases kind with rfl | rfl
    · exact styleOf_crlf data plain
    · exact styleOf_cr data plain
  obtain ⟨more, begins, alone⟩ : ∃ more, ending = 13 :: more ∧ 13 ∉ more := by
    rcases kind with rfl | rfl
    · exact ⟨[10], rfl, by decide⟩
    · exact ⟨[], rfl, by decide⟩
  rw [firstBlock_of_style data lf _ feeds_open feeds_style,
    firstBlock_of_style _ ending _ converted.1 converted.2]
  by_cases opens : dashes ++ lf <+: data
  · rw [if_pos opens, if_pos opens]
    obtain ⟨behind, rfl⟩ := opens
    have behind_plain : 13 ∉ behind := fun inside => plain (List.mem_append_right _ inside)
    have opened : withLineEnd ending (dashes ++ lf ++ behind) =
        dashes ++ ending ++ withLineEnd ending behind := by
      rw [withLineEnd_append]
      simp [withLineEnd, dashes, lf]
    have closed : ending ++ dashes ++ ending = withLineEnd ending (10 :: (dashes ++ lf)) := by
      simp [withLineEnd, dashes, lf]
    have places := indexOf_withLineEnd more (dashes ++ lf) behind alone (by decide) behind_plain
    rw [← begins] at places
    calc
      _ = (indexOf? (withLineEnd ending (10 :: (dashes ++ lf))) (withLineEnd ending behind)).map
          (withLineEnd ending behind).take := by
        rw [opened, List.drop_left, closed]
      _ = (indexOf? (10 :: (dashes ++ lf)) behind).map fun index =>
          withLineEnd ending (behind.take index) := by
        rw [places, Option.map_map]
        congr 1
        funext index
        exact withLineEnd_take ending behind index
      _ = _ := by
        rw [List.drop_left, Option.map_map]
        rfl
  · rw [if_neg opens, if_neg opens, Option.map_none]

/-- The three kinds of line endings are treated alike: a file without carriage returns has a block if
and only if it has one with its line feeds replaced, and the blocks are the same up to that. -/
theorem line_ends_alike (data : List UInt8) (plain : 13 ∉ data) :
    ∃ found : Option (List UInt8),
      (∀ (source : Source) (size : Int), source.Steady → 1 ≤ size → source.rest = data →
        (findPreamble source size).found = .ok found) ∧
      ∀ ending, ending = crlf ∨ ending = cr →
        ∀ (source : Source) (size : Int), source.Steady → 1 ≤ size →
          source.rest = withLineEnd ending data →
          (findPreamble source size).found = .ok (found.map (withLineEnd ending)) := by
  refine ⟨firstBlock? data, ?_, ?_⟩
  · intro source size steady asks same
    rw [found_firstBlock source size steady asks, same]
  · intro ending kind source size steady asks converted
    rw [found_firstBlock source size steady asks, converted,
      firstBlock_withLineEnd ending data kind plain]

theorem block_with_each_line_end :
    let data : List UInt8 := [45, 45, 45, 10, 97, 10, 10, 45, 45, 45, 10, 98]
    let file (bytes : List UInt8) : Source := { rest := bytes, allowance := fun n => n % 2 + 1 }
    13 ∉ data ∧
      (findPreamble (file data) 2).found = .ok (some [97, 10]) ∧
      (findPreamble (file (withLineEnd crlf data)) 2).found = .ok (some [97, 13, 10]) ∧
      (findPreamble (file (withLineEnd cr data)) 2).found = .ok (some [97, 13]) := by
  intro data file
  have plain : 13 ∉ data := by decide
  have steady (bytes : List UInt8) : (file bytes).Steady := ⟨rfl, fun n => Nat.le_add_left 1 (n % 2)⟩
  obtain ⟨found, here, elsewhere⟩ := line_ends_alike data plain
  have block : found = some [97, 10] := by
    have whole := here (file data) 2 (steady data) (by decide) rfl
    rw [found_firstBlock _ 2 (steady data) (by decide)] at whole
    exact (Except.ok.inj whole).symm
  subst block
  refine ⟨plain, ?_, ?_, ?_⟩
  · exact here (file data) 2 (steady data) (by decide) rfl
  · exact elsewhere crlf (Or.inl rfl) (file _) 2 (steady _) (by decide) rfl
  · exact elsewhere cr (Or.inr rfl) (file _) 2 (steady _) (by decide) rfl

end DocFinder.FrontMatter
