import DocFinder.Proofs.FileTree.Canonical

namespace DocFinder

namespace FileTree

section

variable {tree : FileTree}

theorem Askable.entryNamed (askable : tree.Askable) (path : Path) (target : String)
    (named : tree.entryNamed path = .ok (.link target)) : hasNul target = false := by
  simp only [FileTree.entryNamed] at named
  split at named
  · cases named
  · rename_i place _
    split at named
    · rename_i entry present
      obtain rfl : entry = .link target := Except.ok.inj named
      have below : place ≠ [] := by
        rintro rfl
        cases present
      exact askable.targets place target (tree.entry_mem place _ below present)
    · cases named

theorem followName_nul_iff (follow : Met → Path → String → Except CanonicalFault Followed)
    (quiet : ∀ met path target, hasNul target = false → follow met path target ≠ .error .nulInPath)
    (askable : tree.Askable) (met : Met) (path : Path) (name : String) :
    tree.followNames true follow met path [name] = .error .nulInPath ↔ hasNul name = true := by
  constructor
  · intro failed
    rw [followNames] at failed
    split at failed
    · cases failed
    · split at failed
      · cases failed
      · split at failed
        · assumption
        · exfalso
          dsimp only at failed
          cases named : tree.entryNamed (path.child name) with
          | error fault =>
              rw [named] at failed
              cases failed
          | ok entry =>
              rw [named] at failed
              cases entry with
              | file bytes => cases failed
              | directory => cases failed
              | link written =>
                  dsimp only at failed
                  have plain := askable.entryNamed _ written named
                  cases known : met.lookup (path.child name) with
                  | some result =>
                      rw [known] at failed
                      cases result <;> cases failed
                  | none =>
                      rw [known] at failed
                      dsimp only at failed
                      cases through : follow ((path.child name, none) :: met) path written with
                      | error fault =>
                          rw [through] at failed
                          obtain rfl : fault = .nulInPath := Except.error.inj failed
                          exact quiet _ _ _ plain through
                      | ok last =>
                          obtain ⟨last, complete, met⟩ := last
                          rw [through] at failed
                          cases complete <;> cases failed
  · intro nul
    have step : IsStep name := by
      constructor
      · rintro rfl
        cases nul
      · rintro rfl
        cases nul
    rw [followNames, if_neg step.1, if_neg step.2, nul, if_pos rfl]

theorem followNames_nul_iff (follow : Met → Path → String → Except CanonicalFault Followed)
    (quiet : ∀ met path target, hasNul target = false → follow met path target ≠ .error .nulInPath)
    (askable : tree.Askable) (met : Met) (path : Path) (way : List String) :
    tree.followNames true follow met path way = .error .nulInPath ↔
      ∃ before name after, way = before ++ name :: after ∧ hasNul name = true ∧
        ∃ last, tree.followNames true follow met path before = .ok last ∧ last.complete = true := by
  constructor
  · intro failed
    induction way generalizing met path with
    | nil => cases failed
    | cons name rest ih =>
        rw [← List.singleton_append, followNames_append] at failed
        cases one : tree.followNames true follow met path [name] with
        | error fault =>
            rw [one] at failed
            obtain rfl : fault = .nulInPath := Except.error.inj failed
            exact ⟨[], name, rest, rfl,
              (tree.followName_nul_iff follow quiet askable met path name).mp one, _, rfl, rfl⟩
        | ok last =>
            rw [one] at failed
            dsimp only at failed
            cases complete : last.complete with
            | false =>
                rw [complete, if_neg Bool.false_ne_true] at failed
                cases failed
            | true =>
                rw [complete, if_pos rfl] at failed
                obtain ⟨before, other, after, rfl, nul, final, through, done⟩ :=
                  ih last.met last.path failed
                refine ⟨name :: before, other, after, rfl, nul, final, ?_, done⟩
                rw [← List.singleton_append, followNames_append, one]
                simp only [complete, if_true]
                exact through
  · rintro ⟨before, name, after, rfl, nul, last, through, complete⟩
    have one := (tree.followName_nul_iff follow quiet askable last.met last.path name).mpr nul
    rw [followNames_append, through]
    simp only [complete, if_true]
    rw [← List.singleton_append, followNames_append, one]

end

theorem mem_of_piece (text piece : List Char) (member : piece ∈ splitSlashes text) (c : Char)
    (inside : c ∈ piece) : c ∈ text := by
  induction text generalizing piece with
  | nil =>
      obtain rfl : piece = [] := List.mem_singleton.mp member
      cases inside
  | cons first rest ih =>
      rw [splitSlashes] at member
      split at member
      · rcases List.mem_cons.mp member with rfl | member
        · cases inside
        · exact List.mem_cons_of_mem first (ih piece member inside)
      · cases pieces : splitSlashes rest with
        | nil =>
            rw [pieces] at member
            obtain rfl : piece = [first] := List.mem_singleton.mp member
            rw [List.mem_singleton.mp inside]
            exact List.mem_cons_self
        | cons head tail =>
            rw [pieces] at member ih
            rcases List.mem_cons.mp member with rfl | member
            · rcases List.mem_cons.mp inside with rfl | inside
              · exact List.mem_cons_self
              · exact List.mem_cons_of_mem first (ih head List.mem_cons_self inside)
            · exact List.mem_cons_of_mem first (ih piece (List.mem_cons_of_mem head member) inside)

theorem targetNames_plain (target : String) (plain : hasNul target = false) (name : String)
    (member : name ∈ targetNames target) : hasNul name = false := by
  have letters : ∀ c ∈ target.toList, c ≠ '\x00' := by
    intro c inside same
    rw [hasNul, ← same, List.contains_iff_mem.mpr inside] at plain
    cases plain
  rw [targetNames] at member
  rcases List.mem_append.mp member with named | dot
  · obtain ⟨piece, own, rfl⟩ := List.mem_map.mp named
    have pieces := mem_of_piece target.toList piece (List.mem_of_mem_filter own)
    rw [hasNul, String.toList_ofList, Bool.eq_false_iff]
    intro nul
    exact letters _ (pieces _ (List.contains_iff_mem.mp nul)) rfl
  · split at dot
    · rw [List.mem_singleton.mp dot]
      rfl
    · cases dot

section

variable {tree : FileTree}

theorem followLink_plain (askable : tree.Askable) (depth : Nat) (met : Met) (path : Path)
    (target : String) (plain : hasNul target = false) :
    tree.followLink true depth met path target ≠ .error .nulInPath := by
  -- Following a target is following its names, and the links among them less deep.
  induction depth generalizing met path target with
  | zero => exact nofun
  | succ depth ih =>
      intro failed
      rw [followLink, tree.followNames_nul_iff _ ih askable] at failed
      obtain ⟨before, name, after, parts, nul, _⟩ := failed
      have named : name ∈ targetNames target := by
        rw [parts]
        simp
      rw [targetNames_plain target plain name named] at nul
      cases nul

/-- A path that can be followed up to a name with a NUL. -/
def ReachesNul (tree : FileTree) (path : Path) : Prop :=
  ∃ before name after, path.parts = before ++ name :: after ∧ hasNul name = true ∧
    ∃ found, tree.canonical true ⟨path.anchor, before⟩ = .ok found

theorem canonical_nul_iff (askable : tree.Askable) (path : Path) (rooted : path.isAbsolute = true) :
    tree.canonical true path = .error .nulInPath ↔ tree.ReachesNul path := by
  have rooted_before (before : List String) : Path.isAbsolute ⟨path.anchor, before⟩ = true := rooted
  have failed : tree.canonical true path = .error .nulInPath ↔
      tree.followNames true (tree.followAll true) [] .root path.parts = .error .nulInPath := by
    rw [canonical_strict_eq path rooted]
    cases tree.followNames true (tree.followAll true) [] .root path.parts <;> simp [Except.map]
  rw [failed, tree.followNames_nul_iff (tree.followAll true) (tree.followLink_plain askable _)
    askable]
  constructor
  · rintro ⟨before, name, after, parts, nul, last, through, _⟩
    refine ⟨before, name, after, parts, nul, tree.absolute last.path, ?_⟩
    rw [canonical_strict_eq _ (rooted_before before), through]
    rfl
  · rintro ⟨before, name, after, parts, nul, found, canonical⟩
    rw [canonical_strict_eq _ (rooted_before before)] at canonical
    cases through : tree.followNames true (tree.followAll true) [] .root before with
    | error fault =>
        rw [through] at canonical
        cases canonical
    | ok last =>
        have ends := tree.followNames_real _ (tree.followLink_real _) [] nofun .root before last
          ⟨[], rfl, .root⟩ through
        exact ⟨before, name, after, parts, nul, last, through, ends.complete⟩

end

end FileTree

end DocFinder
