import DocFinder.FileTree.Canonical
import DocFinder.Proofs.FileTree.Resolution
import Mathlib.Data.List.Perm.Subperm

/-! The canonical form of an absolute path. Where a path leads to a place, that place is its form;
what the strict form finds is always a place without links on the way. -/

namespace DocFinder

theorem withoutDots_steps (names : List String) (steps : ∀ name ∈ names, IsStep name) :
    withoutDots names = names := by
  have kept (done : List String) : names.foldl (fun done name =>
      if name = "." then done else if name = ".." then done.dropLast else done ++ [name]) done =
        done ++ names := by
    induction names generalizing done with
    | nil => exact (List.append_nil done).symm
    | cons name rest ih =>
        have step := steps name List.mem_cons_self
        rw [List.foldl_cons, if_neg step.1, if_neg step.2,
          ih (fun other member => steps other (List.mem_cons_of_mem name member)),
          List.append_assoc, List.singleton_append]
  exact kept []

namespace FileTree

/-- Neither the name of an entry nor the target of a link has a NUL. -/
structure Askable (tree : FileTree) : Prop where
  names : ∀ place entry, (place, entry) ∈ tree.entries → ∀ name ∈ place, hasNul name = false
  targets : ∀ place target, (place, .link target) ∈ tree.entries → hasNul target = false

section

variable {tree : FileTree}

theorem Askable.name (askable : tree.Askable) (place : Place) (name : String) (entry : Entry)
    (present : tree.entry? (place ++ [name]) = some entry) : hasNul name = false :=
  askable.names _ entry (tree.entry_mem _ entry (by simp) present) name (by simp)

theorem Askable.moves (askable : tree.Askable) {place next : Place} {name : String}
    (moves : tree.Moves place name next) : hasNul name = false := by
  cases moves with
  | stay dot =>
      rw [dot]
      rfl
  | rise dots =>
      rw [dots]
      rfl
  | enter _ present _ => exact askable.name place name _ present

theorem up_real (place : Place) (real : tree.Real place) :
    Path.up ⟨.root, place⟩ = ⟨.root, place.dropLast⟩ := by
  cases real with
  | root => rfl
  | child _ _ step _ _ =>
      simp only [Path.up, List.getLast?_concat]
      split
      · rename_i last
        cases last
      · rename_i last
        exact absurd (Option.some.inj last) step.2
      · rfl

theorem absolute_real (place : Place) (real : tree.Real place) :
    tree.absolute ⟨.root, place⟩ = ⟨.root, place⟩ := by
  have start : tree.startOf ⟨.root, place⟩ = [] := rfl
  rw [absolute, start, List.nil_append, withoutDots_steps place real.step]

structure LinkLeads (tree : FileTree) (place target : Place) (links : Nat) : Prop where
  leads : ∃ directory name written, place = directory ++ [name] ∧
    tree.entry? (directory ++ [name]) = some (.link written) ∧
    tree.Leads (linkStart directory written) (targetNames written) target links

theorem LinkLeads.unique {place target other : Place} {links others : Nat}
    (leads : tree.LinkLeads place target links) (again : tree.LinkLeads place other others) :
    target = other ∧ links = others := by
  obtain ⟨directory, name, written, rfl, linked, leads⟩ := leads
  obtain ⟨directory_again, name_again, written_again, same, linked_again, again⟩ := again
  obtain ⟨rfl, last⟩ := List.append_inj' same rfl
  cases last
  rw [linked] at linked_again
  cases linked_again
  exact leads.unique again

theorem LinkLeads.entry_mem {place target : Place} {links : Nat}
    (leads : tree.LinkLeads place target links) : place ∈ tree.entries.map (·.1) := by
  obtain ⟨directory, name, written, rfl, linked, _⟩ := leads
  exact List.mem_map.mpr ⟨_, tree.entry_mem _ _ (by simp) linked, rfl⟩

/-- The links that are being followed. Each needs at least as many links behind it as are still to be
followed, so that none of them is met again. -/
structure Pending (tree : FileTree) (pending : List Place) (left : Nat) : Prop where
  distinct : pending.Nodup
  leads : ∀ place ∈ pending, ∃ target links, tree.LinkLeads place target links ∧ left ≤ links

/-- What is known about links is where they lead, and nothing is open but what is being followed. -/
structure Knows (tree : FileTree) (met : Met) (pending : List Place) : Prop where
  known : ∀ path found, met.lookup path = some (some found) →
    ∃ place target links, path = ⟨.root, place⟩ ∧ found = ⟨.root, target⟩ ∧
      tree.LinkLeads place target links
  unfinished : ∀ path, met.lookup path = some none → ∃ place ∈ pending, path = ⟨.root, place⟩

theorem Pending.mono {pending : List Place} {left fewer : Nat} (links : tree.Pending pending left)
    (less : fewer ≤ left) : tree.Pending pending fewer := by
  refine ⟨links.distinct, fun place member => ?_⟩
  obtain ⟨target, behind, leads, enough⟩ := links.leads place member
  exact ⟨target, behind, leads, Nat.le_trans less enough⟩

theorem Pending.length_le {pending : List Place} {left : Nat} (links : tree.Pending pending left) :
    pending.length ≤ tree.entries.length := by
  have inside : pending ⊆ tree.entries.map (·.1) := by
    intro place member
    obtain ⟨_, _, leads, _⟩ := links.leads place member
    exact leads.entry_mem
  have short := (links.distinct.subperm inside).length_le
  rwa [List.length_map] at short

/-- A link with fewer links behind it than are left is not one of those that are being followed. -/
theorem Pending.fresh {pending : List Place} {left links : Nat} {place target : Place}
    (followed : tree.Pending pending left) (leads : tree.LinkLeads place target links)
    (fewer : links < left) : place ∉ pending := by
  intro member
  obtain ⟨_, behind, again, enough⟩ := followed.leads place member
  obtain ⟨_, rfl⟩ := leads.unique again
  omega

theorem Pending.cons {pending : List Place} {left links : Nat} {place target : Place}
    (followed : tree.Pending pending left) (leads : tree.LinkLeads place target links)
    (fewer : links < left) : tree.Pending (place :: pending) links := by
  refine ⟨List.nodup_cons.mpr ⟨followed.fresh leads fewer, followed.distinct⟩, ?_⟩
  intro other member
  rcases List.mem_cons.mp member with rfl | member
  · exact ⟨target, links, leads, Nat.le_refl links⟩
  · exact (followed.mono (Nat.le_of_lt fewer)).leads other member

theorem Knows.cons_open {met : Met} {pending : List Place} (knows : tree.Knows met pending)
    (place : Place) : tree.Knows ((⟨.root, place⟩, none) :: met) (place :: pending) := by
  constructor
  · intro path found known
    rw [List.lookup_cons] at known
    split at known
    · cases known
    · exact knows.known path found known
  · intro path unfinished
    rw [List.lookup_cons] at unfinished
    split at unfinished
    · rename_i same
      exact ⟨place, List.mem_cons_self, eq_of_beq same⟩
    · obtain ⟨other, member, same⟩ := knows.unfinished path unfinished
      exact ⟨other, List.mem_cons_of_mem place member, same⟩

theorem Knows.cons_known {met : Met} {pending : List Place} {place target : Place} {links : Nat}
    (knows : tree.Knows met (place :: pending)) (leads : tree.LinkLeads place target links) :
    tree.Knows ((⟨.root, place⟩, some ⟨.root, target⟩) :: met) pending := by
  constructor
  · intro path found known
    rw [List.lookup_cons] at known
    split at known
    · rename_i same
      cases known
      exact ⟨place, target, links, eq_of_beq same, rfl, leads⟩
    · exact knows.known path found known
  · intro path unfinished
    rw [List.lookup_cons] at unfinished
    split at unfinished
    · cases unfinished
    · rename_i other_path
      obtain ⟨other, member, rfl⟩ := knows.unfinished path unfinished
      rcases List.mem_cons.mp member with rfl | member
      · rw [beq_self_eq_true] at other_path
        cases other_path
      · exact ⟨other, member, rfl⟩

section Following

variable (strict : Bool) (follow : Met → Path → String → Except CanonicalFault Followed) (met : Met)
  (place : Place) (name : String) (rest : List String) (real : tree.Real place)
  (plain : hasNul name = false) (inside : tree.isDirectoryAt place = true)

include real plain inside

theorem followNames_moves (next : Place) (moves : tree.Moves place name next) :
    tree.followNames strict follow met ⟨.root, place⟩ (name :: rest) =
      tree.followNames strict follow met ⟨.root, next⟩ rest := by
  rw [followNames]
  cases moves with
  | stay dot => rw [if_pos dot]
  | rise dots =>
      subst name
      rw [if_neg (by decide), if_pos rfl, up_real place real]
  | @enter entry step present solid =>
      have named := (tree.entryNamed_child_iff place name entry real step).mpr ⟨inside, present⟩
      rw [if_neg step.1, if_neg step.2, plain]
      simp only [Bool.false_eq_true, if_false, Path.child, named]

theorem followNames_link (written : String) (step : IsStep name)
    (linked : tree.entry? (place ++ [name]) = some (.link written)) :
    let next : Path := ⟨.root, place ++ [name]⟩
    (∀ known, met.lookup next = some (some known) →
      tree.followNames strict follow met ⟨.root, place⟩ (name :: rest) =
        tree.followNames strict follow met known rest) ∧
    (met.lookup next = some none → strict = true →
      tree.followNames strict follow met ⟨.root, place⟩ (name :: rest) = .error .linkLoop) ∧
    (met.lookup next = none →
      (∀ fault, follow ((next, none) :: met) ⟨.root, place⟩ written = .error fault →
        tree.followNames strict follow met ⟨.root, place⟩ (name :: rest) = .error fault) ∧
      ∀ last, follow ((next, none) :: met) ⟨.root, place⟩ written = .ok last →
        last.complete = true →
        tree.followNames strict follow met ⟨.root, place⟩ (name :: rest) =
          tree.followNames strict follow ((next, some last.path) :: last.met) last.path rest) := by
  intro next
  have named : tree.entryNamed next = .ok (.link written) :=
    (tree.entryNamed_child_iff place name _ real step).mpr ⟨inside, linked⟩
  have child : Path.child ⟨.root, place⟩ name = next := rfl
  rw [followNames, if_neg step.1, if_neg step.2, plain]
  simp only [Bool.false_eq_true, if_false, child, named]
  refine ⟨?_, ?_, ?_⟩
  · intro known met_before
    simp only [met_before]
  · intro being_followed strictly
    simp only [being_followed, strictly, if_true]
  · intro fresh
    simp only [fresh]
    refine ⟨?_, ?_⟩
    · intro fault failed
      simp only [failed]
    · rintro ⟨last, _, met⟩ through rfl
      simp only [through]

end Following

/-- A way that leads to a place is followed to that place. The depth is enough for all links, since
none is followed within itself. -/
theorem followNames_of_leads (strict : Bool) (askable : tree.Askable) {place target : Place}
    {way : List String} {links : Nat} (leads : tree.Leads place way target links) (depth : Nat)
    (met : Met) (pending : List Place) (real : tree.Real place)
    (followed : tree.Pending pending links) (knows : tree.Knows met pending)
    (deep : tree.entries.length < depth + pending.length) :
    ∃ met', tree.followNames strict (tree.followLink strict depth) met ⟨.root, place⟩ way =
        .ok ⟨⟨.root, target⟩, true, met'⟩ ∧ tree.Knows met' pending := by
  -- A link that is being followed has at least as many links behind it as are left. A link that is
  -- met has fewer, so that it is another one; this bounds the depth by the number of entries.
  induction leads generalizing depth met pending with
  | arrived place => exact ⟨met, rfl, knows⟩
  | step inside moves _ ih =>
      rw [followNames_moves strict _ met _ _ _ real (askable.moves moves) inside _ moves]
      exact ih depth met pending (real.moves inside moves) followed knows deep
  | @link place middle target name written rest inner links inside step linked behind further
      inner_ih ih =>
      have own : tree.LinkLeads (place ++ [name]) middle inner :=
        ⟨place, name, written, rfl, linked, behind⟩
      have fewer : inner < inner + links + 1 := by omega
      have real_middle : tree.Real middle := behind.real (real.linkStart written)
      have followed_on : tree.Pending pending links := followed.mono (by omega)
      have plain := askable.name place name _ linked
      obtain ⟨met_before, _, fresh⟩ :=
        followNames_link strict (tree.followLink strict depth) met place name rest real plain inside
          written step linked
      cases known : met.lookup ⟨.root, place ++ [name]⟩ with
      | some result =>
          cases result with
          | some found =>
              obtain ⟨other, reached, count, same, rfl, leads⟩ := knows.known _ _ known
              cases same
              obtain ⟨rfl, rfl⟩ := leads.unique own
              rw [met_before _ known]
              exact ih depth met pending real_middle followed_on knows deep
          | none =>
              obtain ⟨other, member, same⟩ := knows.unfinished _ known
              cases same
              exact absurd member (followed.fresh own fewer)
      | none =>
          have within := followed.cons own fewer
          have room := within.length_le
          rw [List.length_cons] at room
          obtain ⟨left, rfl⟩ : ∃ left, depth = left + 1 :=
            Nat.exists_eq_succ_of_ne_zero (by omega)
          have deep_inner : tree.entries.length < left + ((place ++ [name]) :: pending).length := by
            rw [List.length_cons]
            omega
          obtain ⟨met_inner, through, knows_inner⟩ := inner_ih left _ _ (real.linkStart written)
            within (knows.cons_open (place ++ [name])) deep_inner
          have start : (if isRooted written then Path.root else ⟨.root, place⟩) =
              ⟨.root, linkStart place written⟩ := by
            rw [linkStart]
            split <;> rfl
          rw [← start] at through
          rw [(fresh known).2 _ through rfl]
          exact ih (left + 1) _ pending real_middle followed_on (knows_inner.cons_known own) deep

def followAll (tree : FileTree) (strict : Bool) :
    Met → Path → String → Except CanonicalFault Followed :=
  tree.followLink strict (2 * (tree.entries.length + 1))

theorem canonical_eq (strict : Bool) (path : Path) (rooted : path.isAbsolute = true) :
    tree.canonical strict path =
      match tree.followNames strict (tree.followAll strict) [] .root path.parts with
      | .error fault => .error fault
      | .ok followed =>
        let result := tree.absolute followed.path
        if !strict && tree.lookup result matches .error .tooManyLinks then .error .linkLoop
        else .ok result := by
  rw [canonical, if_pos rooted]
  simp only [followAll]
  cases tree.followNames strict (tree.followLink strict (2 * (tree.entries.length + 1))) [] .root
    path.parts <;> rfl

theorem canonical_strict_eq (path : Path) (rooted : path.isAbsolute = true) :
    tree.canonical true path =
      (tree.followNames true (tree.followAll true) [] .root path.parts).map
        fun followed => tree.absolute followed.path := by
  rw [canonical_eq true path rooted]
  cases tree.followNames true (tree.followAll true) [] .root path.parts <;> rfl

/-- The canonical form of an absolute path that leads somewhere is the place that it leads to. -/
theorem canonical_of_lookup (strict : Bool) (path : Path) (place : Place) (askable : tree.Askable)
    (rooted : path.isAbsolute = true) (found : tree.lookup path = .ok place) :
    tree.canonical strict path = .ok ⟨.root, place⟩ ∧ tree.Real place := by
  rw [lookup, startOf, if_pos rooted] at found
  obtain ⟨links, leads⟩ := tree.leads_of_locate linkLimit [] place path.parts found
  have real : tree.Real place := leads.real .root
  obtain ⟨met, through, _⟩ := tree.followNames_of_leads strict askable leads
    (2 * (tree.entries.length + 1)) [] [] .root ⟨List.nodup_nil, nofun⟩ ⟨nofun, nofun⟩
    (by rw [List.length_nil]; omega)
  change tree.followNames strict (tree.followAll strict) [] .root path.parts = _ at through
  refine ⟨?_, real⟩
  rw [canonical_eq strict path rooted, through]
  simp only [absolute_real place real, tree.lookup_real place real, Bool.and_false,
    Bool.false_eq_true, if_false]

def IsReal (tree : FileTree) (path : Path) : Prop := ∃ place, path = ⟨.root, place⟩ ∧ tree.Real place

def MetReal (tree : FileTree) (met : Met) : Prop :=
  ∀ path found, met.lookup path = some (some found) → tree.IsReal found

theorem MetReal.cons {met : Met} (reals : tree.MetReal met) (path : Path) (result : Option Path)
    (real : ∀ found, result = some found → tree.IsReal found) :
    tree.MetReal ((path, result) :: met) := by
  intro other found known
  rw [List.lookup_cons] at known
  split at known
  · exact real found (Option.some.inj known)
  · exact reals other found known

structure EndsReal (tree : FileTree) (followed : Followed) : Prop where
  complete : followed.complete = true
  real : tree.IsReal followed.path
  met : tree.MetReal followed.met

/-- A way is followed in two parts, unless the first one stops at a link that leads to itself. -/
theorem followNames_append (strict : Bool)
    (follow : Met → Path → String → Except CanonicalFault Followed) (met : Met) (path : Path)
    (first second : List String) :
    tree.followNames strict follow met path (first ++ second) =
      match tree.followNames strict follow met path first with
      | .error fault => .error fault
      | .ok last =>
        if last.complete then tree.followNames strict follow last.met last.path second
        else .ok ⟨last.path.below second, false, last.met⟩ := by
  induction first generalizing met path with
  | nil => rfl
  | cons name rest ih =>
      rw [List.cons_append, followNames, followNames]
      split
      · exact ih met path
      · split
        · exact ih met path.up
        · split
          · rfl
          · dsimp only
            cases tree.entryNamed (path.child name) with
            | error fault =>
                cases strict with
                | true => rfl
                | false => exact ih met (path.child name)
            | ok entry =>
                cases entry with
                | file bytes => exact ih met (path.child name)
                | directory => exact ih met (path.child name)
                | link written =>
                    dsimp only
                    cases met.lookup (path.child name) with
                    | some result =>
                        cases result with
                        | some known => exact ih met known
                        | none =>
                            cases strict with
                            | true => rfl
                            | false => simp [Path.below]
                    | none =>
                        dsimp only
                        cases follow ((path.child name, none) :: met) path written with
                        | error fault => rfl
                        | ok last =>
                            obtain ⟨last, complete, met⟩ := last
                            cases complete with
                            | true => exact ih _ last
                            | false => simp [Path.below]

section Sound

variable (follow : Met → Path → String → Except CanonicalFault Followed)
  (sound : ∀ met path target followed, tree.MetReal met → tree.IsReal path →
    follow met path target = .ok followed → tree.EndsReal followed)
  (met : Met) (reals : tree.MetReal met)

include sound reals

theorem linkName_real (place : Place) (name written : String) (followed : Followed)
    (real : tree.Real place) (plain : hasNul name = false)
    (inside : tree.isDirectoryAt place = true) (step : IsStep name)
    (linked : tree.entry? (place ++ [name]) = some (.link written))
    (ends : tree.followNames true follow met ⟨.root, place⟩ [name] = .ok followed) :
    tree.EndsReal followed := by
  obtain ⟨met_before, being_followed, fresh⟩ :=
    followNames_link true follow met place name [] real plain inside written step linked
  cases known : met.lookup ⟨.root, place ++ [name]⟩ with
  | some result =>
      cases result with
      | none =>
          rw [being_followed known rfl] at ends
          cases ends
      | some found =>
          rw [met_before found known] at ends
          cases ends
          exact ⟨rfl, reals _ found known, reals⟩
  | none =>
      obtain ⟨fails, goes_on⟩ := fresh known
      cases through : follow ((⟨.root, place ++ [name]⟩, none) :: met) ⟨.root, place⟩ written with
      | error fault =>
          rw [fails fault through] at ends
          cases ends
      | ok last =>
          have last_real : tree.EndsReal last :=
            sound _ _ _ _ (reals.cons _ none nofun) ⟨place, rfl, real⟩ through
          rw [goes_on last through last_real.complete] at ends
          cases ends
          refine ⟨rfl, last_real.real, last_real.met.cons _ _ ?_⟩
          intro found same
          cases same
          exact last_real.real

theorem followName_real (path : Path) (name : String) (followed : Followed)
    (real : tree.IsReal path)
    (ends : tree.followNames true follow met path [name] = .ok followed) :
    tree.EndsReal followed := by
  obtain ⟨place, rfl, real⟩ := real
  have stays (place : Place) (real : tree.Real place)
      (ends : tree.followNames true follow met ⟨.root, place⟩ [] = .ok followed) :
      tree.EndsReal followed := by
    cases ends
    exact ⟨rfl, ⟨place, rfl, real⟩, reals⟩
  have whole := ends
  rw [followNames] at ends
  by_cases dot : name = "."
  · rw [if_pos dot] at ends
    exact stays place real ends
  · rw [if_neg dot] at ends
    by_cases dots : name = ".."
    · rw [if_pos dots, up_real place real] at ends
      exact stays _ real.dropLast ends
    · rw [if_neg dots] at ends
      have step : IsStep name := ⟨dot, dots⟩
      cases plain : hasNul name with
      | true =>
          rw [plain, if_pos rfl] at ends
          cases ends
      | false =>
          rw [plain, if_neg Bool.false_ne_true] at ends
          simp only [Path.child] at ends
          cases named : tree.entryNamed ⟨.root, place ++ [name]⟩ with
          | error fault =>
              rw [named] at ends
              cases ends
          | ok entry =>
              obtain ⟨inside, present⟩ :=
                (tree.entryNamed_child_iff place name entry real step).mp named
              have below (solid : ∀ target, entry ≠ .link target) : tree.Real (place ++ [name]) :=
                .child real inside step present solid
              simp only [named] at ends
              cases entry with
              | file bytes => exact stays _ (below nofun) ends
              | directory => exact stays _ (below nofun) ends
              | link written =>
                  exact tree.linkName_real follow sound met reals place name written followed real
                    plain inside step present whole

theorem followNames_real (path : Path) (way : List String) (followed : Followed)
    (real : tree.IsReal path)
    (ends : tree.followNames true follow met path way = .ok followed) : tree.EndsReal followed := by
  induction way generalizing met path with
  | nil =>
      cases ends
      exact ⟨rfl, real, reals⟩
  | cons name rest ih =>
      rw [← List.singleton_append, followNames_append] at ends
      cases one : tree.followNames true follow met path [name] with
      | error fault =>
          rw [one] at ends
          cases ends
      | ok last =>
          obtain ⟨complete, last_real, last_met⟩ :=
            tree.followName_real follow sound met reals path name last real one
          simp only [one, complete, if_true] at ends
          exact ih last.met last_met last.path last_real ends

end Sound

theorem followLink_real (depth : Nat) (met : Met) (path : Path) (target : String)
    (followed : Followed) (reals : tree.MetReal met) (real : tree.IsReal path)
    (ends : tree.followLink true depth met path target = .ok followed) : tree.EndsReal followed := by
  induction depth generalizing met path target followed with
  | zero => cases ends
  | succ depth ih =>
      refine tree.followNames_real _ ih met reals _ (targetNames target) followed ?_ ends
      split
      · exact ⟨[], rfl, .root⟩
      · exact real

theorem canonical_real (path found : Path) (rooted : path.isAbsolute = true)
    (canonical : tree.canonical true path = .ok found) : tree.IsReal found := by
  rw [canonical_strict_eq path rooted] at canonical
  cases followed : tree.followNames true (tree.followAll true) [] .root path.parts with
  | error fault =>
      rw [followed] at canonical
      cases canonical
  | ok last =>
      rw [followed] at canonical
      obtain ⟨_, ⟨place, same, real⟩, _⟩ :=
        tree.followNames_real _ (tree.followLink_real _) [] nofun .root path.parts last
          ⟨[], rfl, .root⟩ followed
      rw [← Except.ok.inj canonical]
      change tree.IsReal (tree.absolute last.path)
      rw [same, absolute_real place real]
      exact ⟨place, rfl, real⟩

end

end FileTree

end DocFinder
