import DocFinder.Proofs.FileTree.Children

/-! Where ways lead to through links, told without a bound on the links. Every link on the way is
followed on its own, and what it leads to takes its place. -/

namespace DocFinder.FileTree

/-- One step from a place over a name that is no link there. -/
inductive Moves (tree : FileTree) (place : Place) (name : String) : Place → Prop
  | stay (dot : name = ".") : Moves tree place name place
  | rise (dots : name = "..") : Moves tree place name place.dropLast
  | enter {entry : Entry} (step : IsStep name) (present : tree.entry? (place ++ [name]) = some entry)
    (solid : ∀ target, entry ≠ .link target) : Moves tree place name (place ++ [name])

/-- A place that is reached through directories alone: no name on the way to it is a link, stays where
it is or goes up. -/
inductive Real (tree : FileTree) : Place → Prop
  | root : Real tree []
  | child {place : Place} {name : String} {entry : Entry} (above : Real tree place)
    (inside : tree.isDirectoryAt place = true) (step : IsStep name)
    (present : tree.entry? (place ++ [name]) = some entry)
    (solid : ∀ target, entry ≠ .link target) : Real tree (place ++ [name])

def linkStart (directory : Place) (target : String) : Place :=
  if isRooted target then [] else directory

inductive Leads (tree : FileTree) : Place → List String → Place → Nat → Prop
  | arrived (place : Place) : Leads tree place [] place 0
  | step {place next target : Place} {name : String} {rest : List String} {links : Nat}
    (inside : tree.isDirectoryAt place = true) (moves : tree.Moves place name next)
    (further : Leads tree next rest target links) : Leads tree place (name :: rest) target links
  | link {place middle target : Place} {name written : String} {rest : List String}
    {inner links : Nat} (inside : tree.isDirectoryAt place = true) (step : IsStep name)
    (present : tree.entry? (place ++ [name]) = some (.link written))
    (followed : Leads tree (linkStart place written) (targetNames written) middle inner)
    (further : Leads tree middle rest target links) :
    Leads tree place (name :: rest) target (inner + links + 1)

section

variable {tree : FileTree}

theorem Moves.unique {place next other : Place} {name : String} (moves : tree.Moves place name next)
    (again : tree.Moves place name other) : next = other := by
  cases moves with
  | stay dot =>
      cases again with
      | stay => rfl
      | rise dots => exact absurd (dot.symm.trans dots) (by decide)
      | enter step => exact absurd dot step.1
  | rise dots =>
      cases again with
      | stay dot => exact absurd (dot.symm.trans dots) (by decide)
      | rise => rfl
      | enter step => exact absurd dots step.2
  | enter step =>
      cases again with
      | stay dot => exact absurd dot step.1
      | rise dots => exact absurd dots step.2
      | enter => rfl

theorem Moves.no_link {place next : Place} {name written : String}
    (moves : tree.Moves place name next) (step : IsStep name)
    (linked : tree.entry? (place ++ [name]) = some (.link written)) : False := by
  cases moves with
  | stay dot => exact step.1 dot
  | rise dots => exact step.2 dots
  | enter _ present solid =>
      rw [present] at linked
      exact solid written (Option.some.inj linked)

theorem Real.dropLast {place : Place} (real : tree.Real place) : tree.Real place.dropLast := by
  cases real with
  | root => exact .root
  | child above _ _ _ _ =>
      rw [List.dropLast_concat]
      exact above

theorem Real.step {place : Place} (real : tree.Real place) : ∀ name ∈ place, IsStep name := by
  induction real with
  | root => exact nofun
  | child _ _ step _ _ ih =>
      intro name member
      rcases List.mem_append.mp member with earlier | last
      · exact ih name earlier
      · rw [List.mem_singleton.mp last]
        exact step

theorem Real.moves {place next : Place} {name : String} (real : tree.Real place)
    (inside : tree.isDirectoryAt place = true) (moves : tree.Moves place name next) :
    tree.Real next := by
  cases moves with
  | stay _ => exact real
  | rise _ => exact real.dropLast
  | enter step present solid => exact .child real inside step present solid

theorem Real.linkStart {place : Place} (real : tree.Real place) (target : String) :
    tree.Real (linkStart place target) := by
  rw [FileTree.linkStart]
  split
  · exact .root
  · exact real

theorem Leads.real {place target : Place} {way : List String} {links : Nat}
    (leads : tree.Leads place way target links) (real : tree.Real place) : tree.Real target := by
  induction leads with
  | arrived place => exact real
  | step inside moves _ ih => exact ih (real.moves inside moves)
  | link _ _ _ _ _ inner_ih ih => exact ih (inner_ih (real.linkStart _))

theorem Leads.unique {place target other : Place} {way : List String} {links others : Nat}
    (leads : tree.Leads place way target links) (again : tree.Leads place way other others) :
    target = other ∧ links = others := by
  induction leads generalizing other others with
  | arrived place =>
      cases again
      exact ⟨rfl, rfl⟩
  | step _ moves _ ih =>
      cases again with
      | step _ moves_again further =>
          obtain rfl := moves.unique moves_again
          exact ih further
      | link _ step linked _ _ => exact (moves.no_link step linked).elim
  | link _ step present _ _ inner_ih ih =>
      cases again with
      | step _ moves _ => exact (moves.no_link step present).elim
      | link _ _ linked followed further =>
          rw [present] at linked
          cases linked
          obtain ⟨rfl, rfl⟩ := inner_ih followed
          obtain ⟨rfl, rfl⟩ := ih further
          exact ⟨rfl, rfl⟩

/-- A way is gone in two parts. -/
theorem Leads.split {place target : Place} {first second : List String} {links : Nat}
    (leads : tree.Leads place (first ++ second) target links) :
    ∃ middle before after, tree.Leads place first middle before ∧
      tree.Leads middle second target after ∧ links = before + after := by
  generalize joined : first ++ second = way at leads
  induction leads generalizing first with
  | arrived place =>
      obtain ⟨rfl, rfl⟩ := List.append_eq_nil_iff.mp joined
      exact ⟨place, 0, 0, .arrived place, .arrived place, rfl⟩
  | @step place _ _ _ _ links inside moves further ih =>
      cases first with
      | nil =>
          cases joined
          exact ⟨place, 0, links, .arrived place, .step inside moves further, (Nat.zero_add _).symm⟩
      | cons name first =>
          cases joined
          obtain ⟨middle, before, after, front, back, sum⟩ := ih rfl
          exact ⟨middle, before, after, .step inside moves front, back, sum⟩
  | @link place _ _ _ _ _ inner _ inside step present followed further _ ih =>
      cases first with
      | nil =>
          cases joined
          exact ⟨place, 0, _, .arrived place, .link inside step present followed further,
            (Nat.zero_add _).symm⟩
      | cons name first =>
          cases joined
          obtain ⟨middle, before, after, front, back, sum⟩ := ih rfl
          refine ⟨middle, inner + before + 1, after, .link inside step present followed front, back,
            ?_⟩
          omega

theorem descend_cons (follow : Bool) (place : Place) (name : String) (rest : List String) :
    (tree.isDirectoryAt place = false →
      tree.descend follow place (name :: rest) = .fault .notDirectory) ∧
    (tree.isDirectoryAt place = true →
      (∀ next, tree.Moves place name next →
        tree.descend follow place (name :: rest) = tree.descend follow next rest) ∧
      (IsStep name →
        (tree.entry? (place ++ [name]) = none →
          tree.descend follow place (name :: rest) = .fault .missing) ∧
        ∀ written, tree.entry? (place ++ [name]) = some (.link written) →
          tree.descend follow place (name :: rest) =
            if rest.isEmpty && !follow then .arrived (place ++ [name])
            else .link place written rest)) := by
  rw [descend]
  constructor
  · intro outside
    rw [outside]
    rfl
  · intro inside
    rw [inside]
    simp only [Bool.not_true, Bool.false_eq_true, if_false]
    refine ⟨?_, ?_⟩
    · intro next moves
      cases moves with
      | stay dot => rw [if_pos dot]
      | rise dots =>
          subst name
          rfl
      | @enter entry step present solid =>
          rw [if_neg step.1, if_neg step.2, present]
          cases entry with
          | file bytes => rfl
          | directory => rfl
          | link target => exact absurd rfl (solid target)
    · intro step
      rw [if_neg step.1, if_neg step.2]
      refine ⟨?_, ?_⟩
      · intro absent
        rw [absent]
      · intro written linked
        rw [linked]

theorem name_kind (place : Place) (name : String) :
    (∃ next, tree.Moves place name next) ∨
      IsStep name ∧ (tree.entry? (place ++ [name]) = none ∨
        ∃ written, tree.entry? (place ++ [name]) = some (.link written)) := by
  by_cases dot : name = "."
  · exact Or.inl ⟨_, .stay dot⟩
  · by_cases dots : name = ".."
    · exact Or.inl ⟨_, .rise dots⟩
    · have step : IsStep name := ⟨dot, dots⟩
      cases present : tree.entry? (place ++ [name]) with
      | none => exact Or.inr ⟨step, Or.inl rfl⟩
      | some entry =>
          cases entry with
          | file bytes => exact Or.inl ⟨_, .enter step present nofun⟩
          | directory => exact Or.inl ⟨_, .enter step present nofun⟩
          | link written => exact Or.inr ⟨step, Or.inr ⟨written, rfl⟩⟩

theorem leads_of_descend (place target : Place) (way : List String) :
    (tree.descend true place way = .arrived target → tree.Leads place way target 0) ∧
      ∀ directory written rest links, tree.descend true place way = .link directory written rest →
        tree.Leads (linkStart directory written) (targetNames written ++ rest) target links →
        tree.Leads place way target (links + 1) := by
  induction way generalizing place with
  | nil =>
      constructor
      · intro arrived
        cases arrived
        exact .arrived _
      · intro directory written rest links stopped
        cases stopped
  | cons name rest ih =>
      obtain ⟨outside, goes_on⟩ := tree.descend_cons true place name rest
      cases inside : tree.isDirectoryAt place with
      | false =>
          rw [outside inside]
          exact ⟨nofun, nofun⟩
      | true =>
          obtain ⟨moved, stopped⟩ := goes_on inside
          rcases tree.name_kind place name with ⟨next, moves⟩ | ⟨step, absent | ⟨written, linked⟩⟩
          · obtain ⟨arrives, links_on⟩ := ih next
            rw [moved next moves]
            exact ⟨fun arrived => .step inside moves (arrives arrived),
              fun directory written more links stop further =>
                .step inside moves (links_on directory written more links stop further)⟩
          · rw [(stopped step).1 absent]
            exact ⟨nofun, nofun⟩
          · rw [(stopped step).2 written linked, Bool.not_true, Bool.and_false,
              if_neg Bool.false_ne_true]
            refine ⟨nofun, ?_⟩
            intro directory other more links stop further
            cases stop
            obtain ⟨middle, inner, after, followed, later, rfl⟩ := further.split
            exact .link inside step linked followed later

theorem leads_of_locate (bound : Nat) (place target : Place) (way : List String)
    (found : tree.locate true bound place way = .ok target) :
    ∃ links, tree.Leads place way target links := by
  induction bound generalizing place way with
  | zero =>
      unfold locate at found
      obtain ⟨arrives, _⟩ := tree.leads_of_descend place target way
      cases stop : tree.descend true place way with
      | arrived reached =>
          rw [stop] at found
          cases found
          exact ⟨0, arrives stop⟩
      | fault fault =>
          rw [stop] at found
          cases found
      | link directory written rest =>
          rw [stop] at found
          cases found
  | succ bound ih =>
      unfold locate at found
      obtain ⟨arrives, links_on⟩ := tree.leads_of_descend place target way
      cases stop : tree.descend true place way with
      | arrived reached =>
          rw [stop] at found
          cases found
          exact ⟨0, arrives stop⟩
      | fault fault =>
          rw [stop] at found
          cases found
      | link directory written rest =>
          rw [stop] at found
          obtain ⟨links, further⟩ := ih _ _ found
          exact ⟨links + 1, links_on directory written rest links stop further⟩

theorem descend_real (follow : Bool) (place : Place) (more : List String) (real : tree.Real place) :
    tree.descend follow [] (place ++ more) = tree.descend follow place more := by
  induction real generalizing more with
  | root => rfl
  | @child place name _ _ inside step present solid ih =>
      rw [List.append_assoc, ih, List.singleton_append]
      exact ((tree.descend_cons follow place name more).2 inside).1 _ (.enter step present solid)

theorem lookup_real (place : Place) (real : tree.Real place) :
    tree.lookup ⟨.root, place⟩ = .ok place := by
  have down := tree.descend_real true place [] real
  rw [List.append_nil] at down
  change tree.locate true linkLimit [] place = .ok place
  rw [locate, down]
  rfl

theorem entryNamed_child_iff (place : Place) (name : String) (entry : Entry)
    (real : tree.Real place) (step : IsStep name) :
    tree.entryNamed ⟨.root, place ++ [name]⟩ = .ok entry ↔
      tree.isDirectoryAt place = true ∧ tree.entry? (place ++ [name]) = some entry := by
  have start : tree.startOf ⟨.root, place ++ [name]⟩ = [] := rfl
  simp only [entryNamed, start]
  rw [locate, tree.descend_real false place [name] real]
  obtain ⟨outside, goes_on⟩ := tree.descend_cons false place name []
  cases inside : tree.isDirectoryAt place with
  | false =>
      rw [outside inside]
      simp
  | true =>
      obtain ⟨moved, stopped⟩ := goes_on inside
      cases present : tree.entry? (place ++ [name]) with
      | none =>
          rw [(stopped step).1 present]
          simp
      | some found =>
          have arrives : tree.descend false place [name] = .arrived (place ++ [name]) := by
            cases found with
            | link written => exact (stopped step).2 written present
            | _ =>
                refine moved _ (.enter step present ?_)
                intro target same
                cases same
          rw [arrives]
          simp [present]

end

end DocFinder.FileTree
