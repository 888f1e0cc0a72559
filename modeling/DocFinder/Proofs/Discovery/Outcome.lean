import DocFinder.Discovery
import DocFinder.Proofs.FileTree.Unaskable
import DocFinder.Proofs.Path.Way

/-! What comes of the search for a document root: a directory without links on the way to it and the
file patterns of its configuration, or a reason why there is none. Only three faults of a
configuration are told in no reason. -/

namespace DocFinder

namespace Configuration

/-- The value of a configuration file cannot be made, though the file can be read. -/
structure Inconvertible (tree : FileTree) (path : Path) (fault : Yaml.Fault) : Prop where
  text : ∃ bytes text, tree.content path = .ok bytes ∧ Text.Utf8.decode bytes = .ok text ∧
    Yaml.load schema (withLineFeeds text) = .error fault
  wellFormed : fault ≠ .malformed

theorem isPresent_of_content (tree : FileTree) (path : Path) (bytes : List UInt8)
    (content : tree.content path = .ok bytes) : tree.isPresent path = true := by
  unfold FileTree.content at content
  unfold FileTree.isPresent
  cases looked : tree.lookup path with
  | ok place => rfl
  | error fault =>
      rw [looked] at content
      cases content

theorem mapError_breakdown (result : Except ConfigurationError Configuration) (breakdown : Breakdown) :
    result.mapError ConfigurationFailure.error ≠ .error (.breakdown breakdown) := by
  cases result <;> simp [Except.mapError]

theorem ofBytes_breakdown_iff (path : Path) (bytes : List UInt8) (breakdown : Breakdown) :
    ofBytes path bytes = .error (.breakdown breakdown) ↔
      ∃ fault text, breakdown = .unconvertible fault ∧ fault ≠ .malformed ∧
        Text.Utf8.decode bytes = .ok text ∧
        Yaml.load schema (withLineFeeds text) = .error fault := by
  unfold ofBytes
  cases decoded : Text.Utf8.decode bytes with
  | error fault => simp
  | ok text =>
      dsimp only
      cases loaded : Yaml.load schema (withLineFeeds text) with
      | ok value => simp [mapError_breakdown, loaded]
      | error fault => cases fault <;> simp [loaded, eq_comm]

theorem load_breakdown_iff (tree : FileTree) (path : Path) (breakdown : Breakdown) :
    load tree path = .error (.breakdown breakdown) ↔
      ∃ fault, breakdown = .unconvertible fault ∧ Inconvertible tree path fault := by
  constructor
  · intro broken
    unfold load at broken
    split at broken
    · cases broken
    · cases content : tree.content path with
      | error fault =>
          rw [content] at broken
          cases broken
      | ok bytes =>
          rw [content] at broken
          obtain ⟨fault, text, same, wellFormed, decoded, loaded⟩ :=
            (ofBytes_breakdown_iff path bytes breakdown).mp broken
          exact ⟨fault, same, ⟨bytes, text, content, decoded, loaded⟩, wellFormed⟩
  · rintro ⟨fault, same, ⟨bytes, text, content, decoded, loaded⟩, wellFormed⟩
    unfold load
    simp only [isPresent_of_content tree path bytes content, content, Bool.not_true,
      Bool.false_eq_true, if_false]
    exact (ofBytes_breakdown_iff path bytes breakdown).mpr
      ⟨fault, text, same, wellFormed, decoded, loaded⟩

end Configuration

theorem FileTree.isDirectory_iff (tree : FileTree) (path : Path) :
    tree.isDirectory path = true ↔ ∃ place, tree.directoryAt? path = some place := by
  unfold FileTree.isDirectory FileTree.directoryAt?
  cases tree.lookup path with
  | error fault => simp
  | ok place => cases inside : tree.isDirectoryAt place <;> simp [inside]

namespace Discovery

section

variable (tree : FileTree)

/-- The search goes up from a path, so that it never leaves the root that the path starts at. -/
theorem base_anchor (start : Path) : (base tree start).anchor = start.anchor := by
  unfold base
  cases found : start.withAncestors.find? fun directory =>
      tree.isDirectory (directory.child configurationDirectory) with
  | none => rfl
  | some directory =>
      obtain ⟨up, _, same⟩ := List.mem_map.mp (List.mem_of_find?_eq_some found)
      rw [Option.getD_some, ← same]

theorem join_absolute (base path : Path) (rooted : base.isAbsolute = true) :
    (base.join path).isAbsolute = true := by
  unfold Path.join
  split
  · assumption
  · exact rooted

theorem start_directory (askable : tree.Askable) (path : Path) (place : Place)
    (rooted : path.isAbsolute = true) (found : tree.lookup path = .ok place) :
    start tree path = .ok ⟨.root, place⟩ := by
  have home : tree.expandHome path = .ok path := by
    obtain ⟨anchor, parts⟩ := path
    cases anchor with
    | relative => cases rooted
    | root => rfl
    | doubleRoot => rfl
  have canonical := (tree.canonical_of_lookup false path place askable rooted found).1
  simp only [start, home, canonical, bind, Except.bind]
  rfl

theorem discover_from (askable : tree.Askable) (path : Path) (place : Place)
    (rooted : path.isAbsolute = true) (found : tree.lookup path = .ok place) :
    tree.discover (some path) = fromBase tree (base tree ⟨.root, place⟩) := by
  rw [FileTree.discover, Option.getD_some, start_directory tree askable path place rooted found]

variable (base : Path)

/-- A way to a component without bytes, which can be followed up to there. -/
def ReachesHalf (root : Written) : Prop :=
  ∃ text before names piece after found, root = .torn text ∧
    Path.piecesOf text = before ++ piece :: after ∧
    List.Forall₂ (fun piece name => Path.nameOf piece = .ok name) before names ∧
    (∃ sign ∈ piece, sign.bytes? = none) ∧
    tree.canonical true (base.join ⟨Path.anchorOfTorn text, names⟩) = .ok found

theorem reachesHalf_iff (root : Written) :
    ReachesHalf tree base root ↔ (Path.wayOf root).obstacle = some .unencodable ∧
      ∃ found, tree.canonical true (base.join (Path.wayOf root).path) = .ok found := by
  constructor
  · rintro ⟨text, before, names, piece, after, found, rfl, parts, each, half, canonical⟩
    have way : Path.wayOf (.torn text) = ⟨⟨Path.anchorOfTorn text, names⟩, some .unencodable⟩ := by
      have refused := (Path.nameOf_unencodable_iff piece).mpr half
      have stops := (Path.namesOf_stop_iff _ _ _).mpr ⟨before, piece, after, parts, each, refused⟩
      simp only [Path.wayOf, stops]
    rw [way]
    exact ⟨rfl, found, canonical⟩
  · rintro ⟨obstacle, found, canonical⟩
    cases root with
    | whole text => cases obstacle
    | torn text =>
        have stops : Path.namesOf (Path.piecesOf text) =
            ((Path.wayOf (.torn text)).path.parts, some .unencodable) := Prod.ext rfl obstacle
        obtain ⟨before, piece, after, parts, each, refused⟩ := (Path.namesOf_stop_iff _ _ _).mp stops
        have half := (Path.nameOf_unencodable_iff piece).mp refused
        exact ⟨text, before, _, piece, after, found, rfl, parts, each, half, canonical⟩

variable (rooted : base.isAbsolute = true) (configuration : Configuration)

include rooted

theorem rootOf_ok (root : DocumentRoot)
    (found : rootOf tree base configuration = .ok root) :
    ∃ target, root = ⟨⟨.root, target⟩, configuration.files⟩ ∧ tree.Real target ∧
      tree.isDirectoryAt target = true := by
  have rooted_candidate : (candidate base configuration).isAbsolute = true :=
    join_absolute base _ rooted
  simp only [rootOf] at found
  cases canonical : tree.canonical true (candidate base configuration) with
  | error fault =>
      rw [canonical] at found
      cases fault <;> cases found
  | ok path =>
      obtain ⟨target, rfl, real⟩ := tree.canonical_real _ path rooted_candidate canonical
      rw [canonical] at found
      cases stopped : (Path.wayOf configuration.root).obstacle with
      | some obstacle =>
          rw [stopped] at found
          cases obstacle <;> cases found
      | none =>
          rw [stopped] at found
          simp only [FileTree.isDirectory, tree.lookup_real target real] at found
          cases inside : tree.isDirectoryAt target with
          | false =>
              rw [inside] at found
              cases found
          | true =>
              rw [inside] at found
              cases found
              exact ⟨target, rfl, real, inside⟩

theorem rootOf_directory (askable : tree.Askable) (target : Place)
    (free : (Path.wayOf configuration.root).obstacle = none)
    (leads : tree.directoryAt? (candidate base configuration) = some target) :
    rootOf tree base configuration = .ok ⟨⟨.root, target⟩, configuration.files⟩ := by
  have rooted_candidate : (candidate base configuration).isAbsolute = true :=
    join_absolute base _ rooted
  obtain ⟨looked, inside⟩ := (tree.directoryAt_iff _ _).mp leads
  obtain ⟨canonical, real⟩ :=
    tree.canonical_of_lookup true _ target askable rooted_candidate looked
  simp only [rootOf, canonical, free, FileTree.isDirectory, tree.lookup_real target real, inside,
    if_true]

theorem rootOf_breakdown_iff (askable : tree.Askable) (breakdown : Breakdown) :
    rootOf tree base configuration = .error (.breakdown breakdown) ↔
      breakdown = .nulInPath ∧ tree.ReachesNul (candidate base configuration) ∨
        breakdown = .halfInPath ∧ ReachesHalf tree base configuration.root := by
  have rooted_candidate : (candidate base configuration).isAbsolute = true :=
    join_absolute base _ rooted
  rw [← tree.canonical_nul_iff askable _ rooted_candidate, reachesHalf_iff]
  change _ ↔ _ ∨ _ ∧ _ ∧ ∃ found, tree.canonical true (candidate base configuration) = .ok found
  simp only [rootOf]
  cases canonical : tree.canonical true (candidate base configuration) with
  | error fault => cases fault <;> simp [eq_comm]
  | ok path =>
      cases (Path.wayOf configuration.root).obstacle with
      | some obstacle => cases obstacle <;> simp [eq_comm]
      | none =>
          dsimp only
          cases tree.isDirectory path <;> simp

end

end Discovery

theorem defaultFiles_compile : ∃ spec, FileSpec.ofLines defaultFiles = .ok spec := by
  have compiles : (FileSpec.ofLines defaultFiles).isOk = true := by decide +kernel
  cases compiled : FileSpec.ofLines defaultFiles with
  | error error =>
      rw [compiled] at compiles
      cases compiles
  | ok spec => exact ⟨spec, rfl⟩

/-- The search from a directory ends in a directory without links on the way to it, with the file
patterns of the configuration, or in a reason why there is none. It ends in the directory that the
configured root leads to whenever there is one. Three faults of a configuration are told in no
reason: a value that cannot be made, and a root that reaches a name with a NUL or with half of a
surrogate pair that stands for no byte. Patterns are not looked at; those that are used without a
configuration compile. -/
theorem discovery_from_directory (tree : FileTree) (askable : tree.Askable) (start : Path)
    (rooted : start.isAbsolute = true) (directory : tree.isDirectory start = true) :
    ∃ place, tree.directoryAt? start = some place ∧
      let base := Discovery.base tree ⟨.root, place⟩
      let file := Discovery.configurationPath base
      let candidate := Discovery.candidate base
      let outcome := tree.discover (some start)
      (∀ root, outcome = .ok root → ∃ configuration target,
        Configuration.load tree file = .ok configuration ∧
          root = ⟨⟨.root, target⟩, configuration.files⟩ ∧ tree.Real target ∧
          tree.isDirectoryAt target = true) ∧
      (∀ configuration target, Configuration.load tree file = .ok configuration →
        (Path.wayOf configuration.root).obstacle = none →
        tree.directoryAt? (candidate configuration) = some target →
        outcome = .ok ⟨⟨.root, target⟩, configuration.files⟩) ∧
      (∀ breakdown, outcome = .error (.breakdown breakdown) ↔
        (∃ fault, breakdown = .unconvertible fault ∧
          Configuration.Inconvertible tree file fault) ∨
        (breakdown = .nulInPath ∧ ∃ configuration,
          Configuration.load tree file = .ok configuration ∧
            tree.ReachesNul (candidate configuration)) ∨
        breakdown = .halfInPath ∧ ∃ configuration,
          Configuration.load tree file = .ok configuration ∧
            Discovery.ReachesHalf tree base configuration.root) ∧
      ∀ root, outcome = .ok root → root.files = defaultFiles →
        ∃ spec, FileSpec.ofLines root.files = .ok spec := by
  obtain ⟨place, found⟩ := (tree.isDirectory_iff start).mp directory
  refine ⟨place, found, ?_⟩
  intro base file candidate outcome
  have looked := ((tree.directoryAt_iff start place).mp found).1
  have rooted_base : base.isAbsolute = true := by
    rw [Path.isAbsolute, Discovery.base_anchor]
    rfl
  have course : outcome = Discovery.fromBase tree base :=
    Discovery.discover_from tree askable start place rooted looked
  have configured (configuration : Configuration)
      (loaded : Configuration.load tree file = .ok configuration) :
      outcome = Discovery.rootOf tree base configuration := by
    rw [course, Discovery.fromBase, loaded]
    rfl
  have unconfigured (failure : ConfigurationFailure)
      (failed : Configuration.load tree file = .error failure) : outcome = .error failure := by
    rw [course, Discovery.fromBase, failed]
    rfl
  refine ⟨?_, ?_, ?_, ?_⟩
  · intro root ends
    cases loaded : Configuration.load tree file with
    | error failure =>
        rw [unconfigured failure loaded] at ends
        cases ends
    | ok configuration =>
        rw [configured configuration loaded] at ends
        obtain ⟨target, same, real, inside⟩ :=
          Discovery.rootOf_ok tree base rooted_base configuration root ends
        exact ⟨configuration, target, rfl, same, real, inside⟩
  · intro configuration target loaded free leads
    rw [configured configuration loaded]
    exact Discovery.rootOf_directory tree base rooted_base configuration askable target free leads
  · intro breakdown
    rw [← Configuration.load_breakdown_iff]
    cases loaded : Configuration.load tree file with
    | error failure =>
        rw [unconfigured failure loaded]
        simp
    | ok configuration =>
        rw [configured configuration loaded,
          Discovery.rootOf_breakdown_iff tree base rooted_base configuration askable breakdown]
        simp [candidate]
  · intro root ends usual
    rw [usual]
    exact defaultFiles_compile

def treeConfigured (bytes : List UInt8) : FileTree where
  entries := [(["w"], .directory), (["w", ".veisku"], .directory),
    (["w", ".veisku", "config.yaml"], .file bytes), (["w", "d"], .directory),
    (["w", "l"], .link "d")]

theorem link_configured :
    let tree := treeConfigured [114, 111, 111, 116, 58, 32, 108, 10]
    let start : Path := ⟨.root, ["w", "l"]⟩
    tree.Askable ∧ start.isAbsolute = true ∧ tree.isDirectory start = true ∧
      tree.discover (some start) = .ok ⟨⟨.root, ["w", "d"]⟩, defaultFiles⟩ ∧
      ∃ target, Path.mk .root ["w", "d"] = ⟨.root, target⟩ ∧ tree.Real target := by
  intro tree start
  have askable : tree.Askable := by
    have names : ∀ row ∈ tree.entries, ∀ name ∈ row.1, hasNul name = false := by decide
    have targets : ∀ row ∈ tree.entries, ∀ target, row.2 = .link target → hasNul target = false := by
      intro row member target linked
      simp only [tree, treeConfigured, List.mem_cons, List.not_mem_nil, or_false] at member
      rcases member with rfl | rfl | rfl | rfl | rfl <;> cases linked
      rfl
    exact ⟨fun place entry member => names (place, entry) member,
      fun place target member => targets (place, .link target) member target rfl⟩
  have directory : tree.isDirectory start = true := by decide +kernel
  obtain ⟨place, found, usable, complete, _⟩ :=
    discovery_from_directory tree askable start rfl directory
  have here : tree.directoryAt? start = some ["w", "d"] := by decide +kernel
  obtain rfl : ["w", "d"] = place := Option.some.inj (here.symm.trans found)
  have outcome := complete ⟨"l", defaultFiles⟩ ["w", "d"] (by decide +kernel) rfl (by decide +kernel)
  obtain ⟨_, target, _, same, real, _⟩ := usable _ outcome
  exact ⟨askable, rfl, directory, outcome, target, congrArg DocumentRoot.path same, real⟩

theorem configurations_not_refused :
    let start : Path := ⟨.root, ["w"]⟩
    (treeConfigured [114, 111, 111, 116, 58, 32, 48, 98, 95, 10]).discover (some start) =
        .error (.breakdown (.unconvertible .malformedNumber)) ∧
      (treeConfigured [114, 111, 111, 116, 58, 32, 34, 97, 92, 48, 98, 34, 10]).discover (some start) =
        .error (.breakdown .nulInPath) ∧
      (treeConfigured [114, 111, 111, 116, 58, 32, 34, 92, 117, 100, 56, 48, 48, 34, 10]).discover
        (some start) = .error (.breakdown .halfInPath) ∧
      (treeConfigured [102, 105, 108, 101, 115, 58, 32, 91, 34, 33, 34, 93, 10]).discover
        (some start) = .ok ⟨⟨.root, ["w"]⟩, ["!"]⟩ ∧
      FileSpec.ofLines ["!"] = .error (.invalid "!") := by
  refine ⟨?_, ?_, ?_, ?_, ?_⟩
  · decide +kernel
  · decide +kernel
  · decide +kernel
  · decide +kernel
  · decide +kernel

end DocFinder
