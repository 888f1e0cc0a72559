import DocFinder.Proofs.Pattern.Tokens

/-! Why a pattern does not compile: its syntax, which has a name for every fault, or one of four
kinds of text that it holds. How deep its groups are nested is never the reason. -/

namespace DocFinder.Pattern

section

variable {α : Type} {pattern text rest : List Char}

/-- Fuel that lasts for all that is left of a pattern. Each symbol is paid for three times: once for
a sequence, its branches and the group around them. -/
structure Lasts (pattern : List Char) (fuel : Nat) : Prop where
  branches : ∀ {text rest : List Char} (whole verbose : Bool) (done : List (List Expr)),
    3 * rest.length + 2 ≤ fuel → Keeps pattern text rest (branches whole fuel verbose done)
  sequence : ∀ {text rest : List Char} (leading verbose : Bool) (pieces : List Piece),
    3 * rest.length + 1 ≤ fuel → Keeps pattern text rest (sequence leading fuel verbose pieces)
  alternative : ∀ {text rest : List Char} (verbose : Bool),
    3 * rest.length + 3 ≤ fuel → Keeps pattern text rest (alternative fuel verbose)

namespace Lasts

variable {fuel : Nat} (lasts : Lasts pattern fuel)

include lasts

theorem branches_succ (whole verbose : Bool) (done : List (List Expr))
    (enough : 3 * rest.length + 2 ≤ fuel + 1) :
    Keeps pattern text rest (Pattern.branches whole (fuel + 1) verbose done) := by
  unfold Pattern.branches
  refine (lasts.sequence _ verbose [] (by omega)).bind fun items left fewer => ?_
  refine (accept_reads '|').bind fun barred behind after bar => ?_
  split
  · rename_i further
    rw [if_pos further] at bar
    obtain ⟨_, rfl⟩ := bar
    rw [List.length_cons] at fewer
    refine Reads.get fun reading _ => Keeps.shorter ?_ (Nat.le_succ _)
    exact lasts.branches _ _ _ (by omega)
  · rename_i last
    rw [if_neg last] at bar
    exact Reads.pure _ (Nat.le_of_eq (congrArg List.length bar.2))

theorem group (start : Nat) (verbose : Bool) {next : List Expr → Reader α}
    (enough : 3 * rest.length + 3 ≤ fuel)
    (reads : ∀ items left, left.length ≤ rest.length → Keeps pattern [] left (next items)) :
    Keeps pattern text rest (do
      let items ← Pattern.alternative fuel verbose
      close start
      next items) := by
  refine (lasts.alternative verbose enough).bind fun items left _ => ?_
  exact (close_keeps start).bind fun _ left _ => reads items left (by omega)

theorem lookBehind (start : Nat) (verbose : Bool) {next : List Expr → Reader α}
    (enough : 3 * rest.length + 3 ≤ fuel)
    (reads : ∀ items left, left.length ≤ rest.length → Keeps pattern [] left (next items)) :
    Keeps pattern text rest (do
      let outer := (← get).behindFrom
      modify fun reading => { reading with
        behindFrom := some (outer.getD reading.groups) }
      let items ← Pattern.alternative fuel verbose
      modify fun reading => { reading with behindFrom := outer }
      close start
      next items) := by
  have marks (change : Reading → Option Nat) (text left : List Char) :
      Keeps pattern text left
        (modify fun reading => { reading with behindFrom := change reading }) :=
    Reads.modify (Nat.le_refl _) (fun _ => rfl) fun _ => rfl
  refine Reads.get fun reading _ => ?_
  refine Keeps.bind (marks _ text rest) fun _ left _ => ?_
  refine (lasts.alternative verbose (by omega)).bind fun items left _ => ?_
  refine (marks (fun _ => reading.behindFrom) [] left).bind fun _ left _ => ?_
  exact (close_keeps start).bind fun _ left _ => reads items left (by omega)

theorem conditional (start : Nat) (verbose : Bool) {next : List Expr → List Expr → Reader α}
    (enough : 3 * rest.length + 3 ≤ fuel)
    (reads : ∀ yes no left, left.length ≤ rest.length → Keeps pattern [] left (next yes no)) :
    Keeps pattern text rest (do
      let yes ← Pattern.sequence false fuel verbose []
      let no ←
        if ← Reader.accept '|' then
          let no ← Pattern.sequence false fuel verbose []
          if ← Reader.peekIs '|' then Reader.fail .thirdConditionalBranch
          pure no
        else pure []
      close start
      next yes no) := by
  refine Keeps.bind (lasts.sequence false verbose [] (by omega)) fun yes middle _ => ?_
  have ended (no : List Expr) (left : List Char) (fewer : left.length ≤ rest.length) :
      Keeps pattern [] left (do
        close start
        next yes no) :=
    (close_keeps start).bind fun _ behind _ => reads yes no behind (by omega)
  refine (accept_keeps '|').bind fun barred left _ => ?_
  split
  · refine (lasts.sequence false verbose [] (by omega)).bind fun no left _ => ?_
    refine peekIs_reads '|' (Keeps.check _ _ (by simp) fun _ => ?_)
    exact (Keeps.pure no).bind fun no left _ => ended no left (by omega)
  · exact (Keeps.pure []).bind fun no left _ => ended no left (by omega)

theorem sequence_succ (leading verbose : Bool) (pieces : List Piece)
    (enough : 3 * rest.length + 1 ≤ fuel + 1) :
    Keeps pattern text rest (Pattern.sequence leading (fuel + 1) verbose pieces) := by
  unfold Pattern.sequence
  refine peek_reads ?_
  split
  · exact Keeps.pure _
  · exact Keeps.pure _
  · exact Keeps.pure _
  · rename_i symbol _ _ first
    refine Reads.here fun start => ?_
    refine Reads.anywhere (take_reads first fun left parts => ?_)
    have size := congrArg List.length parts
    have taken := text_nonempty symbol
    rw [List.length_append] at size
    refine Keeps.shorter ?_ (by omega)
    -- The symbol that was taken pays for the rest of the sequence and for the body of a group.
    have keeps (pieces : List Piece) (verbose : Bool) (after : List Char)
        (fewer : after.length ≤ left.length) :
        Keeps pattern [] after (Pattern.sequence leading fuel verbose pieces) :=
      lasts.sequence leading verbose pieces (by omega)
    have counted (least : Nat) (most : Option Nat) (after : List Char)
        (fewer : after.length ≤ left.length) :
        Keeps pattern [] after (do
          Pattern.sequence leading fuel verbose (← quantify (start + 1) least most pieces)) :=
      (quantify_keeps _ _ _ _).bind fun more later _ => keeps more verbose later (by omega)
    have still := Nat.le_refl left.length
    cases symbol with
    | escaped c => exact (escape_keeps c).bind fun e after fewer => keeps _ _ after fewer
    | plain c =>
        dsimp only
        split
        · exact Reads.anywhere (keeps _ _ left still)
        · split
          · refine Reads.get fun reading _ => ?_
            exact (skipLine_keeps _).bind fun _ after fewer => keeps _ _ after fewer
          · split
            · exact bracket_keeps.bind fun one after fewer => keeps _ _ after fewer
            · exact Reads.anywhere (counted 0 (some 1) left still)
            · exact Reads.anywhere (counted 0 none left still)
            · exact Reads.anywhere (counted 1 none left still)
            · refine (braces_keeps _).bind fun count? after fewer => ?_
              split
              · exact keeps _ _ after fewer
              · exact counted _ _ after fewer
            · exact Reads.anywhere (keeps _ _ left still)
            · exact Reads.anywhere (keeps _ _ left still)
            · exact Reads.anywhere (keeps _ _ left still)
            · refine (opening_keeps start).bind fun opening after fewer => ?_
              have body : 3 * after.length + 3 ≤ fuel := by
                change rest.length = 1 + left.length at size
                omega
              cases opening with
              | wholeFlags =>
                  dsimp only
                  split
                  · refine Reads.here fun position => ?_
                    refine Keeps.bind (Keeps.fail _ _ (by simp)) fun _ later _ => ?_
                    exact Reads.get fun reading _ => keeps _ _ later (by omega)
                  · exact Reads.get fun reading _ => keeps _ _ after fewer
              | comment => exact keeps _ _ after fewer
              | reference e => exact keeps _ _ after fewer
              | capture name =>
                  refine (openGroup_keeps name).bind fun group inside _ => ?_
                  refine lasts.group start verbose (by omega) fun items later _ => ?_
                  refine (closeGroup_keeps _ _).bind fun _ behind _ => ?_
                  exact keeps _ _ behind (by omega)
              | plain =>
                  refine lasts.group start verbose body fun items later _ => ?_
                  exact keeps _ _ later (by omega)
              | flagged on off =>
                  refine lasts.group start _ body fun items later _ => ?_
                  exact keeps _ _ later (by omega)
              | atomic =>
                  refine lasts.group start verbose body fun items later _ => ?_
                  exact keeps _ _ later (by omega)
              | ahead negated =>
                  refine lasts.group start verbose body fun items later _ => ?_
                  exact keeps _ _ later (by omega)
              | behind negated =>
                  refine lasts.lookBehind start verbose body fun items later _ => ?_
                  exact keeps _ _ later (by omega)
              | condition group =>
                  refine lasts.conditional start verbose body fun yes no later _ => ?_
                  exact keeps _ _ later (by omega)
            · exact Reads.anywhere (keeps _ _ left still)

theorem succ : Lasts pattern (fuel + 1) where
  branches := lasts.branches_succ
  sequence := lasts.sequence_succ
  alternative verbose enough := by
    unfold Pattern.alternative
    exact (lasts.branches false verbose [] (by omega)).bind fun _ _ _ => Keeps.pure _

end Lasts

theorem lasts (pattern : List Char) (fuel : Nat) : Lasts pattern fuel := by
  induction fuel with
  | zero =>
      constructor
      · intro _ _ _ _ _ enough
        exact absurd enough (Nat.not_succ_le_zero _)
      · intro _ _ _ _ _ enough
        exact absurd enough (Nat.not_succ_le_zero _)
      · intro _ _ _ enough
        exact absurd enough (Nat.not_succ_le_zero _)
  | succ fuel ih => exact ih.succ

theorem dangling_shallow (reading : Reading) (fault : Fault)
    (found : danglingCondition? reading = some fault) : fault.cause ≠ .tooDeep := by
  obtain ⟨condition, _, rfl⟩ := Option.map_eq_some_iff.mp found
  simp

theorem whole_reads (letters : List Char) :
    Reads letters [] [] (whole letters) fun _ _ _ => True := by
  have all : Keeps letters [] letters (branches true (3 * letters.length + 3) false []) :=
    (lasts letters _).branches true false [] (Nat.le_succ _)
  have beginning : ([] ++ letters) <:+ letters := List.suffix_refl letters
  unfold whole
  refine (settle_reads 0 [] letters beginning).bind fun _ text rest settled => ?_
  obtain ⟨rfl, rfl⟩ := settled
  refine Reads.bind all fun items text left _ => ?_
  refine Reads.get fun reading here => ?_
  refine Reads.check (fun both => ?_) fun _ => ?_
  · rw [Bool.and_eq_true] at both
    exact Reads.throw _ ⟨here.asked.ascii both.1, here.asked.unicode both.2⟩
  · refine peek_reads (Reads.check (fun _ => Reads.fail _ _ (by simp)) fun _ => ?_)
    split
    · rename_i fault found
      have explained : Explains rest (.fault fault) := dangling_shallow reading fault found
      exact Reads.stop (Reads.throw _ explained)
    · exact Reads.pure _ trivial

theorem obstacle_shallow (template : Bool) (expr : Expr) (cause : Cause)
    (found : expr.obstacle? template = some cause) : cause ≠ .tooDeep := by
  induction expr with
  | empty | single | anchor | again => cases found
  | seq first second first_ih second_ih
  | either first second first_ih second_ih
  | ifMatched group first second first_ih second_ih =>
      rcases Option.or_eq_some_iff.mp found with first | ⟨_, second⟩
      · exact first_ih first
      · exact second_ih second
  | capture _ body ih | flagged _ _ body ih | atomic body ih | ahead _ body ih => exact ih found
  | behind negated body ih =>
      unfold Expr.obstacle? at found
      split at found
      · cases found
        simp
      · split at found
        · cases found
          simp
        · exact ih found
  | times greed least most body ih =>
      unfold Expr.obstacle? at found
      split at found
      · cases found
        simp
      · exact ih found

/-- A pattern that does not compile holds what explains this. -/
theorem compile_explained (pattern : String) (reason : CompileError)
    (fails : Regex.compile pattern = .error reason) : Explains pattern.toList reason := by
  have start : At pattern.toList [] [] ⟨0, [], {}, [], #[none], none, []⟩ :=
    ⟨rfl, List.nil_suffix, (by simp), (by simp)⟩
  have outcome := whole_reads pattern.toList _ start
  unfold Regex.compile at fails
  cases ran : (whole pattern.toList).run ⟨0, [], {}, [], #[none], none, []⟩ with
  | error cause =>
      rw [ran] at outcome fails
      cases fails
      exact outcome
  | ok result =>
      rw [ran] at fails
      simp only [bind, Except.bind] at fails
      split at fails
      · rename_i cause found
        cases fails
        exact obstacle_shallow _ _ cause found
      · cases fails

end

end DocFinder.Pattern
