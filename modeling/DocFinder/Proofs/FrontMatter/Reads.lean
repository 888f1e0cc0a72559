import DocFinder.Proofs.FrontMatter.Block

/-! Where the reads of a search begin: never behind the block, so that neither what stands there nor a
fault there changes what is found. -/

namespace DocFinder.FrontMatter

def headReads (source : Source) (size : Nat) : List Nat :=
  if size = 0 then []
  else if source.fails then [source.position]
  else
    let chunk := source.chunk size
    if _h : chunk = [] then [source.position]
    else source.position :: headReads (source.after size) (size - chunk.length)
termination_by source.rest.length
decreasing_by exact Source.after_rest_length_lt ‹_›

def blockReads (closing : List UInt8) (size : Int) (taken : List UInt8) (source : Source) :
    List Nat :=
  if source.fails then [source.position]
  else
    let chunk := source.chunk size
    if _h : chunk = [] then [source.position]
    else
      match indexOf? closing ((taken.take (closing.length - 1)).reverse ++ chunk) with
      | some _ => [source.position]
      | none =>
        source.position :: blockReads closing size (chunk.reverse ++ taken) (source.after size)
termination_by source.rest.length
decreasing_by exact Source.after_rest_length_lt ‹_›

/-- The positions at which a search begins to read. A read that fails is the last one. -/
def readPositions (source : Source) (size : Int) : List Nat :=
  headReads source lookahead ++
    match readFully source lookahead with
    | .error _ => []
    | .ok (head, source) =>
      if head.length < lookahead then []
      else
        match delimiterOf? head with
        | none => []
        | some delimiter =>
          blockReads delimiter.closing size (head.drop delimiter.opening.length).reverse source

def blockEnd (data block : List UInt8) : Nat :=
  (styleOf data).opening.length + block.length + (styleOf data).closing.length

namespace Source

/-- The same source with a fault: reads that begin at a position or behind it fail. -/
def failingFrom (source : Source) (fault : Nat) : Source := { source with failsFrom := some fault }

theorem failingFrom_fails (source : Source) (fault : Nat) :
    (source.failingFrom fault).fails = decide (fault ≤ source.position) := rfl

theorem failingFrom_chunk (source : Source) (fault : Nat) (size : Int) :
    (source.failingFrom fault).chunk size = source.chunk size := rfl

theorem failingFrom_after (source : Source) (fault : Nat) (size : Int) :
    (source.failingFrom fault).after size = (source.after size).failingFrom fault := rfl

theorem after_position (source : Source) (size : Int) :
    (source.after size).position = source.position + (source.chunk size).length := rfl

theorem after_reads (source : Source) (size : Int) :
    (source.after size).reads = source.reads + 1 := rfl

theorem after_failure (source : Source) (size : Int) :
    (source.after size).failure = source.failure := rfl

theorem chunk_length_le_size (source : Source) (size : Int) (asks : 1 ≤ size) :
    ((source.chunk size).length : Int) ≤ size := by
  rw [chunk, List.length_take, request, if_neg (by omega)]
  omega

end Source

/-- A scan of a source that has a fault its reads do not meet. -/
def Scan.failingFrom (scan : Scan) (fault : Nat) : Scan :=
  { scan with source := scan.source.failingFrom fault }

section Head

theorem headReads_spec (source : Source) (size : Nat) (steady : source.Steady) :
    (∀ position ∈ headReads source size, position < source.position + size) ∧
      ∀ bytes last, readFully source size = .ok (bytes, last) →
        last.position = source.position + bytes.length ∧
          last.reads = source.reads + (headReads source size).length ∧
          last.failure = source.failure := by
  fun_induction headReads source size with
  | case1 source =>
      refine ⟨by simp, ?_⟩
      intro bytes last read
      rw [readFully] at read
      cases read
      exact ⟨rfl, rfl, rfl⟩
  | case2 source size _ fails =>
      rw [source.steady_not_fails steady] at fails
      cases fails
  | case3 source size nonzero sound chunk empty =>
      refine ⟨by simp; omega, ?_⟩
      intro bytes last read
      rw [readFully, if_neg nonzero, if_neg sound, dif_pos empty] at read
      cases read
      simp [Source.after_position, Source.after_reads, Source.after_failure, chunk, empty]
  | case4 source size nonzero sound chunk nonempty ih =>
      obtain ⟨within, ends⟩ := ih (source.steady_after size steady)
      have short : chunk.length ≤ size := source.chunk_length_le size
      rw [source.after_position] at within ends
      constructor
      · intro position member
        rcases List.mem_cons.mp member with rfl | later
        · omega
        · have bound := within position later
          change position < source.position + chunk.length + (size - chunk.length) at bound
          omega
      · intro bytes last read
        rw [readFully, if_neg nonzero, if_neg sound, dif_neg nonempty] at read
        cases more : readFully (source.after size) (size - chunk.length) with
        | error error =>
            simp only [chunk] at more
            rw [more] at read
            cases read
        | ok result =>
            obtain ⟨rest, final⟩ := result
            have counted := ends rest final more
            simp only [chunk] at more
            rw [more] at read
            cases read
            rw [counted.1, counted.2.1, counted.2.2, List.length_append, List.length_cons]
            refine ⟨?_, ?_, source.after_failure size⟩
            · omega
            · rw [source.after_reads]
              omega

theorem readFully_failing (source : Source) (size : Nat) (steady : source.Steady) (fault : Nat) :
    ((∃ position ∈ headReads source size, fault ≤ position) →
        ∃ last, readFully (source.failingFrom fault) size = .error (source.failure, last)) ∧
      ((∀ position ∈ headReads source size, position < fault) →
        readFully (source.failingFrom fault) size =
            (readFully source size).map (fun read => (read.1, read.2.failingFrom fault)) ∧
          headReads (source.failingFrom fault) size = headReads source size) ∧
      headReads (source.failingFrom fault) size <+: headReads source size := by
  fun_induction headReads source size with
  | case1 source =>
      rw [headReads, if_pos rfl, readFully, if_pos rfl, readFully, if_pos rfl]
      exact ⟨by simp, fun _ => ⟨rfl, rfl⟩, List.prefix_refl _⟩
  | case2 source size _ fails =>
      rw [source.steady_not_fails steady] at fails
      cases fails
  | case3 source size nonzero sound chunk empty =>
      have unread : (source.failingFrom fault).chunk size = [] := empty
      have once : headReads (source.failingFrom fault) size = [source.position] := by
        rw [headReads, if_neg nonzero, dif_pos unread, ite_self]
        rfl
      simp only [List.mem_singleton, exists_eq_left, forall_eq]
      refine ⟨?_, ?_, once ▸ List.prefix_refl _⟩
      · intro met
        rw [readFully, if_neg nonzero, source.failingFrom_fails, if_pos (decide_eq_true met)]
        exact ⟨_, rfl⟩
      · intro unmet
        refine ⟨?_, once⟩
        rw [readFully, if_neg nonzero, source.failingFrom_fails, if_neg (by simpa using unmet),
          dif_pos unread, readFully, if_neg nonzero, if_neg sound, dif_pos empty]
        rfl
  | case4 source size nonzero sound chunk nonempty ih =>
      obtain ⟨fails, goes_on, fewer⟩ := ih (source.steady_after size steady)
      have read : (source.failingFrom fault).chunk size ≠ [] := nonempty
      by_cases met : fault ≤ source.position
      · have failed : (source.failingFrom fault).fails = true := by
          rw [source.failingFrom_fails]
          exact decide_eq_true met
        refine ⟨?_, ?_, ?_⟩
        · intro _
          rw [readFully, if_neg nonzero, if_pos failed]
          exact ⟨_, rfl⟩
        · intro unmet
          have before := unmet source.position List.mem_cons_self
          omega
        · rw [headReads, if_neg nonzero, if_pos failed]
          exact List.prefix_append [source.position] _
      · have passed : (source.failingFrom fault).fails ≠ true := by
          rw [source.failingFrom_fails]
          simpa using met
        have reads : headReads (source.failingFrom fault) size = source.position ::
            headReads ((source.after size).failingFrom fault) (size - chunk.length) := by
          rw [headReads, if_neg nonzero, if_neg passed, dif_neg read]
          rfl
        rw [reads]
        refine ⟨?_, ?_, List.cons_prefix_cons.mpr ⟨rfl, fewer⟩⟩
        · rintro ⟨position, member, behind⟩
          have later : position ∈ headReads (source.after size) (size - chunk.length) := by
            rcases List.mem_cons.mp member with rfl | later
            · exact absurd behind met
            · exact later
          obtain ⟨last, failed⟩ := fails ⟨position, later, behind⟩
          rw [readFully, if_neg nonzero, if_neg passed, dif_neg read, source.failingFrom_after,
            source.failingFrom_chunk, failed]
          exact ⟨last, rfl⟩
        · intro unmet
          obtain ⟨rest, same⟩ := goes_on fun position member =>
            unmet position (List.mem_cons_of_mem _ member)
          refine ⟨?_, congrArg (source.position :: ·) same⟩
          rw [readFully, if_neg nonzero, if_neg passed, dif_neg read, source.failingFrom_after,
            source.failingFrom_chunk, rest]
          rw [readFully.eq_def source, if_neg nonzero, if_neg sound, dif_neg nonempty]
          cases readFully (source.after size) (size - chunk.length) <;> rfl

end Head

section Block

theorem indexOf_behind (needle front rest : List UInt8) (index : Nat)
    (absent : indexOf? needle front = none)
    (found : indexOf? needle (front ++ rest) = some index) :
    front.length < index + needle.length := by
  apply Nat.lt_of_not_le
  intro inside
  obtain ⟨_, present, _⟩ := (indexOf_some_iff _ _ _).mp found
  have outside := (indexOf_none_iff needle front).mp absent index (by omega)
  apply outside
  apply List.prefix_of_prefix_length_le present
  · rw [List.drop_append_of_le_length (by omega)]
    exact List.prefix_append _ _
  · rw [List.length_drop]
    omega

theorem indexOf_inside (needle hay : List UInt8) (index : Nat)
    (found : indexOf? needle hay = some index) : index + needle.length ≤ hay.length := by
  obtain ⟨bound, present, _⟩ := (indexOf_some_iff _ _ _).mp found
  have fits := present.length_le
  rw [List.length_drop] at fits
  omega

variable (closing : List UInt8) (size : Int) (taken : List UInt8) (source : Source)

section Step

variable (sound : ¬ source.fails) (nonempty : source.chunk size ≠ [])

include sound nonempty

theorem readBlock_last (index : Nat)
    (found : indexOf? closing ((taken.take (closing.length - 1)).reverse ++ source.chunk size) =
      some index) :
    readBlock closing size taken source =
        ⟨.ok (some (((source.chunk size).reverse ++ taken).reverse.take
          (taken.length - (taken.take (closing.length - 1)).reverse.length + index))), [],
          source.after size⟩ ∧
      blockReads closing size taken source = [source.position] := by
  rw [readBlock, blockReads, if_neg sound, if_neg sound, dif_neg nonempty, dif_neg nonempty]
  simp only [found, and_self]

theorem readBlock_more
    (unfound : indexOf? closing ((taken.take (closing.length - 1)).reverse ++ source.chunk size) =
      none) :
    readBlock closing size taken source =
        readBlock closing size ((source.chunk size).reverse ++ taken) (source.after size) ∧
      blockReads closing size taken source = source.position ::
        blockReads closing size ((source.chunk size).reverse ++ taken) (source.after size) := by
  rw [readBlock, blockReads, if_neg sound, if_neg sound, dif_neg nonempty, dif_neg nonempty]
  simp only [unfound, and_self]

end Step

/-- The search for a closing line begins no read behind it and ends with the read that reaches it. -/
theorem blockReads_spec (steady : source.Steady) (asks : 1 ≤ size)
    (absent : indexOf? closing taken.reverse = none) :
    (∀ index, indexOf? closing (taken.reverse ++ source.rest) = some index →
        (∀ position ∈ blockReads closing size taken source,
          position + taken.length < source.position + (index + closing.length)) ∧
        let last := (readBlock closing size taken source).source.position
        source.position + (index + closing.length) ≤ last + taken.length ∧
          (last + taken.length : Int) < source.position + (index + closing.length) + size) ∧
      (readBlock closing size taken source).source.reads =
        source.reads + (blockReads closing size taken source).length := by
  fun_induction readBlock closing size taken source with
  | case1 taken source fails =>
      rw [source.steady_not_fails steady] at fails
      cases fails
  | case2 taken source sound chunk empty =>
      have exhausted := (source.chunk_eq_nil_iff size steady asks).mp empty
      rw [blockReads, if_neg sound, dif_pos empty]
      refine ⟨?_, source.after_reads size⟩
      intro index found
      rw [exhausted, List.append_nil, absent] at found
      cases found
  | case3 taken source sound chunk nonempty tail all shift found =>
      have window := readBlock_window closing taken chunk absent
      simp only [found, Option.map_some, tail] at window
      rw [(readBlock_last closing size taken source sound nonempty shift found).2]
      refine ⟨?_, source.after_reads size⟩
      intro index first
      have joined := source.chunk_append_after size
      have whole := indexOf_stays _ _ (source.after size).rest _ window
      rw [List.append_assoc, joined, first, Option.some.injEq] at whole
      rw [← whole] at window
      have reached := indexOf_inside _ _ _ window
      have behind := indexOf_behind _ _ _ _ absent first
      have asked := source.chunk_length_le_size size asks
      have width : chunk.length = (source.chunk size).length := rfl
      rw [List.length_append, List.length_reverse] at reached
      rw [List.length_reverse] at behind
      rw [source.after_position]
      simp only [List.mem_singleton, forall_eq]
      refine ⟨?_, ?_, ?_⟩ <;> omega
  | case4 taken source sound chunk nonempty tail all unfound ih =>
      have window := readBlock_window closing taken chunk absent
      simp only [unfound, Option.map_none, tail] at window
      have still : indexOf? closing all.reverse = none := by simpa [all] using window
      obtain ⟨reaches, counted⟩ := ih (source.steady_after size steady) still
      have longer : all.length = chunk.length + taken.length := by simp [all]
      have width : chunk.length = (source.chunk size).length := rfl
      have same : all.reverse ++ (source.after size).rest = taken.reverse ++ source.rest := by
        rw [← source.chunk_append_after size]
        simp [all, chunk]
      rw [same, longer, source.after_position] at reaches
      rw [(readBlock_more closing size taken source sound nonempty unfound).2]
      constructor
      · intro index first
        obtain ⟨within, least, most⟩ := reaches index first
        have behind := indexOf_behind _ _ _ _ absent first
        rw [List.length_reverse] at behind
        push_cast at most
        refine ⟨?_, by omega, by omega⟩
        intro position member
        rcases List.mem_cons.mp member with rfl | later
        · omega
        · have bound := within position later
          omega
      · rw [counted, source.after_reads, List.length_cons]
        exact Nat.add_right_comm _ _ _

theorem readBlock_failing (steady : source.Steady) (fault : Nat) :
    ((∃ position ∈ blockReads closing size taken source, fault ≤ position) →
        (readBlock closing size taken (source.failingFrom fault)).found = .error source.failure) ∧
      ((∀ position ∈ blockReads closing size taken source, position < fault) →
        readBlock closing size taken (source.failingFrom fault) =
          (readBlock closing size taken source).failingFrom fault) ∧
      blockReads closing size taken (source.failingFrom fault) <+:
        blockReads closing size taken source := by
  have failed (source : Source) (met : fault ≤ source.position) :
      (source.failingFrom fault).fails = true := by
    rw [source.failingFrom_fails]
    exact decide_eq_true met
  have passed (source : Source) (unmet : ¬ fault ≤ source.position) :
      (source.failingFrom fault).fails ≠ true := by
    rw [source.failingFrom_fails]
    simpa using unmet
  fun_induction blockReads closing size taken source with
  | case1 taken source fails =>
      rw [source.steady_not_fails steady] at fails
      cases fails
  | case2 taken source sound chunk empty =>
      have unread : (source.failingFrom fault).chunk size = [] := empty
      simp only [List.mem_singleton, exists_eq_left, forall_eq]
      refine ⟨?_, ?_, ?_⟩
      · intro met
        rw [readBlock, if_pos (failed source met)]
        rfl
      · intro unmet
        rw [readBlock, if_neg (passed source (by omega)), dif_pos unread, readBlock, if_neg sound,
          dif_pos empty]
        rfl
      · rw [blockReads, dif_pos unread, ite_self]
        exact List.prefix_refl _
  | case3 taken source sound chunk nonempty index found =>
      have same := readBlock_last closing size taken source sound nonempty index found
      have read (passes : ¬ (source.failingFrom fault).fails) :=
        readBlock_last closing size taken (source.failingFrom fault) passes nonempty index found
      simp only [List.mem_singleton, exists_eq_left, forall_eq]
      by_cases met : fault ≤ source.position
      · refine ⟨?_, fun unmet => absurd met (by omega), ?_⟩
        · intro _
          rw [readBlock, if_pos (failed source met)]
          rfl
        · rw [blockReads, if_pos (failed source met)]
          exact List.prefix_refl _
      · refine ⟨fun behind => absurd behind met, ?_, ?_⟩
        · intro _
          rw [(read (passed source met)).1, same.1]
          rfl
        · rw [(read (passed source met)).2]
          exact List.prefix_refl _
  | case4 taken source sound chunk nonempty unfound ih =>
      have same := readBlock_more closing size taken source sound nonempty unfound
      have read (passes : ¬ (source.failingFrom fault).fails) :=
        readBlock_more closing size taken (source.failingFrom fault) passes nonempty unfound
      obtain ⟨fails, goes_on, fewer⟩ := ih (source.steady_after size steady)
      by_cases met : fault ≤ source.position
      · refine ⟨?_, ?_, ?_⟩
        · intro _
          rw [readBlock, if_pos (failed source met)]
          rfl
        · intro unmet
          have before := unmet source.position List.mem_cons_self
          omega
        · rw [blockReads, if_pos (failed source met)]
          exact List.prefix_append [source.position] _
      · obtain ⟨later_run, later_reads⟩ := read (passed source met)
        refine ⟨?_, ?_, ?_⟩
        · rintro ⟨position, member, behind⟩
          rw [later_run]
          apply fails
          rcases List.mem_cons.mp member with rfl | later
          · exact absurd behind met
          · exact ⟨position, later, behind⟩
        · intro unmet
          rw [later_run, same.1]
          exact goes_on fun position member => unmet position (List.mem_cons_of_mem _ member)
        · rw [later_reads]
          exact List.cons_prefix_cons.mpr ⟨rfl, fewer⟩

end Block

section Scan

variable (source : Source) (size : Int) (steady : source.Steady)

include steady

theorem findPreamble_failing (fault : Nat) :
    ((∃ position ∈ readPositions source size, fault ≤ position) →
        (findPreamble (source.failingFrom fault) size).found = .error source.failure) ∧
      ((∀ position ∈ readPositions source size, position < fault) →
        findPreamble (source.failingFrom fault) size =
          (findPreamble source size).failingFrom fault) ∧
      readPositions (source.failingFrom fault) size <+: readPositions source size := by
  obtain ⟨last, steady_last, _, head⟩ := readFully_eq source lookahead steady
  obtain ⟨head_fails, head_passes, head_fewer⟩ :=
    readFully_failing source lookahead steady fault
  have same_failure := ((headReads_spec source lookahead steady).2 _ _ head).2.2
  by_cases met : ∃ position ∈ headReads source lookahead, fault ≤ position
  · obtain ⟨stopped, failed⟩ := head_fails met
    refine ⟨?_, ?_, ?_⟩
    · intro _
      simp only [findPreamble, failed]
    · intro unmet
      obtain ⟨position, member, behind⟩ := met
      have before := unmet position (List.mem_append_left _ member)
      omega
    · simp only [readPositions, failed, List.append_nil]
      exact head_fewer.trans (List.prefix_append _ _)
  · have passes : ∀ position ∈ headReads source lookahead, position < fault := by
      intro position member
      exact Nat.lt_of_not_le fun behind => met ⟨position, member, behind⟩
    obtain ⟨passed, same⟩ := head_passes passes
    rw [head] at passed
    simp only [Except.map] at passed
    simp only [readPositions, findPreamble, head, passed, same]
    by_cases brief : (source.rest.take lookahead).length < lookahead
    · simp only [if_pos brief, List.append_nil]
      exact ⟨fun later => absurd later met, fun _ => rfl, List.prefix_refl _⟩
    · simp only [if_neg brief]
      cases opening : delimiterOf? (source.rest.take lookahead) with
      | none =>
          simp only [List.append_nil]
          exact ⟨fun later => absurd later met, fun _ => rfl, List.prefix_refl _⟩
      | some delimiter =>
          simp only
          let taken := ((source.rest.take lookahead).drop delimiter.opening.length).reverse
          obtain ⟨fails, goes_on, fewer⟩ :=
            readBlock_failing delimiter.closing size taken last steady_last fault
          refine ⟨?_, ?_, (List.prefix_append_right_inj _).mpr fewer⟩
          · rintro ⟨position, member, behind⟩
            rw [← same_failure]
            apply fails
            rcases List.mem_append.mp member with early | later
            · exact absurd ⟨position, early, behind⟩ met
            · exact ⟨position, later, behind⟩
          · intro unmet
            exact goes_on fun position member => unmet position (List.mem_append_right _ member)

theorem readPositions_unopened (unopened : ¬ (styleOf source.rest).opening <+: source.rest) :
    ∀ position ∈ readPositions source size, position < source.position + lookahead := by
  obtain ⟨last, _, _, head⟩ := readFully_eq source lookahead steady
  simp only [readPositions, head, delimiterOf_lookahead, if_neg unopened, ite_self,
    List.append_nil]
  exact (headReads_spec source lookahead steady).1

/-- A search in a file that opens a block, from the bytes of the block that the lookahead holds. -/
theorem findPreamble_course (long : lookahead ≤ source.rest.length)
    (opens : (styleOf source.rest).opening <+: source.rest) :
    ∃ taken last, last.Steady ∧ last.position = source.position + lookahead ∧
      last.reads = source.reads + (headReads source lookahead).length ∧
      taken.length + (styleOf source.rest).opening.length = lookahead ∧
      taken.reverse ++ last.rest = source.rest.drop (styleOf source.rest).opening.length ∧
      indexOf? (styleOf source.rest).closing taken.reverse = none ∧
      findPreamble source size = readBlock (styleOf source.rest).closing size taken last ∧
      readPositions source size = headReads source lookahead ++
        blockReads (styleOf source.rest).closing size taken last := by
  obtain ⟨last, steady_last, rest_last, head⟩ := readFully_eq source lookahead steady
  obtain ⟨position, reads, _⟩ := (headReads_spec source lookahead steady).2 _ _ head
  obtain ⟨narrow, wide, broad⟩ := style_lengths source.rest
  have width : (source.rest.take lookahead).length = lookahead := List.length_take_of_le long
  have full : ¬ (source.rest.take lookahead).length < lookahead := by omega
  let taken := ((source.rest.take lookahead).drop (styleOf source.rest).opening.length).reverse
  have left : taken.length + (styleOf source.rest).opening.length = lookahead := by
    simp only [taken, List.length_reverse, List.length_drop]
    omega
  refine ⟨taken, last, steady_last, by rw [position, width], reads, left, ?_, ?_, ?_, ?_⟩
  · simp only [taken, List.reverse_reverse, rest_last]
    rw [← List.drop_append_of_le_length (by omega), List.take_append_drop]
  · apply indexOf_none_of_short
    rw [List.length_reverse]
    unfold lookahead at left
    omega
  · simp only [findPreamble, head, if_neg full, delimiterOf_lookahead, if_pos opens, taken]
  · simp only [readPositions, head, if_neg full, delimiterOf_lookahead, if_pos opens, taken]

theorem readPositions_counted (asks : 1 ≤ size) :
    (findPreamble source size).source.reads =
      source.reads + (readPositions source size).length := by
  obtain ⟨last, _, _, head⟩ := readFully_eq source lookahead steady
  obtain ⟨_, reads, _⟩ := (headReads_spec source lookahead steady).2 _ _ head
  by_cases long : lookahead ≤ source.rest.length
  · by_cases opens : (styleOf source.rest).opening <+: source.rest
    · obtain ⟨taken, last, steady_last, _, reads, _, _, absent, scan, positions⟩ :=
        findPreamble_course source size steady long opens
      have counted := (blockReads_spec _ size taken last steady_last asks absent).2
      rw [scan, counted, positions, reads, List.length_append, Nat.add_assoc]
    · simp only [findPreamble, readPositions, head, delimiterOf_lookahead, if_neg opens, ite_self,
        List.append_nil, reads]
  · have brief : (source.rest.take lookahead).length < lookahead := by
      rw [List.length_take]
      omega
    simp only [findPreamble, readPositions, head, if_pos brief, List.append_nil, reads]

/-- A search that finds a block begins no read behind it, and its last read reaches its end. -/
theorem readPositions_opened (asks : 1 ≤ size) (block : List UInt8)
    (isBlock : IsBlock source.rest block) :
    (∀ position ∈ readPositions source size,
        position < source.position + blockEnd source.rest block) ∧
      source.position + blockEnd source.rest block ≤ (findPreamble source size).source.position ∧
      ((findPreamble source size).source.position : Int) <
        source.position + blockEnd source.rest block + size := by
  obtain ⟨opens, first, _⟩ := (isBlock_iff _ _).mp isBlock
  obtain ⟨narrow, wide, broad⟩ := style_lengths source.rest
  have inside := indexOf_inside _ _ _ first
  rw [List.length_drop] at inside
  have long : lookahead ≤ source.rest.length := by
    unfold lookahead
    omega
  obtain ⟨taken, last, steady_last, position_last, _, left, behind, absent, scan, positions⟩ :=
    findPreamble_course source size steady long opens
  rw [← behind] at first
  obtain ⟨within, least, most⟩ :=
    (blockReads_spec _ size taken last steady_last asks absent).1 block.length first
  rw [scan, positions]
  unfold blockEnd lookahead at *
  refine ⟨?_, by omega, by omega⟩
  intro position member
  rcases List.mem_append.mp member with early | later
  · have bound := (headReads_spec source 5 steady).1 position early
    omega
  · have bound := within position later
    omega

end Scan

theorem styleOf_take (data : List UInt8) (count : Nat) (enough : lookahead ≤ count) :
    styleOf (data.take count) = styleOf data := by
  have seen (opening : List UInt8) (short : opening.length ≤ lookahead) :
      opening <+: data.take count ↔ opening <+: data := by
    rw [List.prefix_take_iff]
    exact and_iff_left (by omega)
  unfold styleOf
  simp only [seen [45, 45, 45, 13, 10] (by decide), seen [45, 45, 45, 10] (by decide)]

theorem isBlock_behind (data other block : List UInt8) (isBlock : IsBlock data block)
    (same : data.take (blockEnd data block) <+: other) : IsBlock other block := by
  obtain ⟨⟨rest, whole⟩, earliest⟩ := isBlock
  obtain ⟨_, wide, broad⟩ := style_lengths data
  let body := (styleOf data).opening ++ block ++ (styleOf data).closing
  have width : body.length = blockEnd data block := by
    simp only [body, List.length_append, blockEnd]
  have front : data.take (blockEnd data block) = body := by
    calc
      data.take (blockEnd data block) = (body ++ rest).take body.length := by rw [width, ← whole]
      _ = body := List.take_left
  obtain ⟨more, rest_other⟩ := same
  have style : styleOf other = styleOf data := by
    have enough : lookahead ≤ blockEnd data block := by
      unfold lookahead blockEnd
      omega
    have shared : other.take (blockEnd data block) = data.take (blockEnd data block) := by
      rw [← rest_other, front, ← width, List.take_left]
    rw [← styleOf_take other _ enough, shared, styleOf_take data _ enough]
  rw [IsBlock, style]
  exact ⟨⟨more, by rw [← rest_other, front]⟩, earliest⟩

/-- A search begins no read behind the block, and none behind the lookahead where no block is opened.
What stands behind the block does not matter, and neither does a fault there; a fault in front of it
is met, or it changes nothing. -/
theorem reads_end_with_block (source : Source) (size : Int) (steady : source.Steady)
    (asks : 1 ≤ size) (start : source.position = 0) :
    let data := source.rest
    let scan := findPreamble source size
    let positions := readPositions source size
    scan.source.reads = source.reads + positions.length ∧
    (¬ (styleOf data).opening <+: data → ∀ position ∈ positions, position < 5) ∧
    (∀ block, IsBlock data block →
      (∀ position ∈ positions, position < blockEnd data block) ∧
      scan.found = .ok (some block) ∧
      blockEnd data block ≤ scan.source.position ∧
      (scan.source.position : Int) < blockEnd data block + size ∧
      ∀ (other : Source) (pieces : Int), other.Steady → 1 ≤ pieces →
        data.take (blockEnd data block) <+: other.rest →
        (findPreamble other pieces).found = .ok (some block)) ∧
    ∀ fault,
      let faulty := findPreamble (source.failingFrom fault) size
      readPositions (source.failingFrom fault) size <+: positions ∧
      (faulty.found = .error source.failure ↔ ∃ position ∈ positions, fault ≤ position) ∧
      (faulty.found = .error source.failure ∨ faulty = scan.failingFrom fault) ∧
      ((¬ (styleOf data).opening <+: data ∧ 5 ≤ fault) ∨
          (∃ block, IsBlock data block ∧ blockEnd data block ≤ fault) →
        faulty = scan.failingFrom fault) := by
  intro data scan positions
  have unopened (unopened : ¬ (styleOf data).opening <+: data) :
      ∀ position ∈ positions, position < 5 := by
    intro position member
    have bound := readPositions_unopened source size steady unopened position member
    rw [start, Nat.zero_add] at bound
    exact bound
  have opened (block : List UInt8) (isBlock : IsBlock data block) :=
    readPositions_opened source size steady asks block isBlock
  simp only [start, Nat.zero_add, Int.natCast_zero, Int.zero_add] at opened
  refine ⟨readPositions_counted source size steady asks, unopened, ?_, ?_⟩
  · intro block isBlock
    obtain ⟨within, least, most⟩ := opened block isBlock
    have found := (found_block_iff source size steady asks block).mpr isBlock
    refine ⟨within, found, least, most, ?_⟩
    intro other pieces other_steady other_asks same
    apply (found_block_iff other pieces other_steady other_asks block).mpr
    exact isBlock_behind data other.rest block isBlock same
  · intro fault faulty
    obtain ⟨fails, passes, fewer⟩ := findPreamble_failing source size steady fault
    have sound : scan.found ≠ .error source.failure := by
      rw [(findPreamble_eq source size steady asks).1]
      exact nofun
    have unmet (far : ¬ ∃ position ∈ positions, fault ≤ position) :
        faulty = scan.failingFrom fault :=
      passes fun position member => Nat.lt_of_not_le fun behind => far ⟨position, member, behind⟩
    refine ⟨fewer, ⟨?_, fails⟩, ?_, ?_⟩
    · intro failed
      apply Decidable.byContradiction
      intro far
      rw [unmet far] at failed
      exact sound failed
    · by_cases met : ∃ position ∈ positions, fault ≤ position
      · exact Or.inl (fails met)
      · exact Or.inr (unmet met)
    · intro irrelevant
      apply unmet
      rintro ⟨position, member, behind⟩
      rcases irrelevant with ⟨closed, far⟩ | ⟨block, isBlock, far⟩
      · have bound := unopened closed position member
        omega
      · have bound := (opened block isBlock).1 position member
        exact absurd (Nat.le_trans far behind) (Nat.not_le_of_lt bound)

theorem fault_behind_block :
    let source : Source := {
      rest := [45, 45, 45, 10, 97, 10, 45, 45, 45, 10, 98], allowance := fun n => n % 2 + 1 }
    source.Steady ∧ (1 : Int) ≤ 2 ∧ source.position = 0 ∧ IsBlock source.rest [97] ∧
      blockEnd source.rest [97] = 10 ∧
      (findPreamble (source.failingFrom 10) 2).found = .ok (some [97]) := by
  intro source
  have steady : source.Steady := ⟨rfl, fun n => Nat.le_add_left 1 (n % 2)⟩
  have block : IsBlock source.rest [97] := ⟨⟨[98], by decide⟩, by decide⟩
  obtain ⟨_, _, found, faults⟩ := reads_end_with_block source 2 steady (by decide) rfl
  have same := (faults 10).2.2.2 (Or.inr ⟨[97], block, by decide⟩)
  refine ⟨steady, by decide, rfl, block, by decide, ?_⟩
  rw [same]
  exact (found [97] block).2.1

end DocFinder.FrontMatter
