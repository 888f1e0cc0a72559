import DocFinder.Path.Way
import DocFinder.Proofs.Attempts

namespace DocFinder

namespace Path

theorem nameOf_unencodable_iff (piece : List Sign) :
    nameOf piece = .error .unencodable ↔ ∃ sign ∈ piece, sign.bytes? = none := by
  have encoded := mapM_isSome_iff Sign.bytes? piece
  unfold nameOf
  cases read : piece.mapM Sign.bytes? with
  | none =>
      rw [read] at encoded
      simpa using encoded
  | some bytes =>
      rw [read] at encoded
      have none_stops : ¬ ∃ sign ∈ piece, sign.bytes? = none := by
        simpa [Option.isSome_iff_ne_none] using encoded
      refine iff_of_false ?_ none_stops
      dsimp only
      split
      · exact nofun
      · cases Text.Utf8.decode bytes.flatten <;> exact nofun

section

variable (piece : List Sign) (rest : List (List Sign))

theorem namesOf_named (name : String) (named : nameOf piece = .ok name) :
    namesOf (piece :: rest) = (name :: (namesOf rest).1, (namesOf rest).2) := by
  rw [namesOf, named]

theorem namesOf_stopped (obstacle : Obstacle) (stopped : nameOf piece = .error obstacle) :
    namesOf (piece :: rest) = ([], some obstacle) := by
  rw [namesOf, stopped]

end

theorem namesOf_stop_iff (pieces : List (List Sign)) (names : List String) (obstacle : Obstacle) :
    namesOf pieces = (names, some obstacle) ↔
      ∃ before piece after, pieces = before ++ piece :: after ∧
        List.Forall₂ (fun piece name => nameOf piece = .ok name) before names ∧
          nameOf piece = .error obstacle := by
  constructor
  · intro stopped
    induction pieces generalizing names with
    | nil => cases stopped
    | cons first rest ih =>
        cases named : nameOf first with
        | error cause =>
            rw [namesOf_stopped first rest cause named] at stopped
            cases stopped
            exact ⟨[], first, rest, rfl, .nil, named⟩
        | ok name =>
            rw [namesOf_named first rest name named, Prod.mk.injEq] at stopped
            obtain ⟨rfl, reason⟩ := stopped
            obtain ⟨before, piece, after, rfl, each, refused⟩ := ih _ (Prod.ext rfl reason)
            exact ⟨first :: before, piece, after, rfl, .cons named each, refused⟩
  · rintro ⟨before, piece, after, rfl, each, refused⟩
    induction each with
    | nil => exact namesOf_stopped piece after obstacle refused
    | cons named _ ih =>
        rw [List.cons_append, namesOf_named _ _ _ named, ih]

end Path

end DocFinder
