import DocFinder.Proofs.Discovery.Nearest

namespace DocFinder

namespace Configuration

def ofReached (path : Path) :
    Option (Place × Option Entry) → Except ConfigurationFailure Configuration
  | none => .ok {}
  | some (_, some (.file bytes)) => ofBytes path bytes
  | some (_, some .directory) =>
    .error (.error (.unreadable path (LookupFault.isDirectory.about path.text)))
  | some _ => .error (.error (.unreadable path (LookupFault.missing.about path.text)))

theorem load_eq (tree : FileTree) (path : Path) :
    load tree path = ofReached path (tree.reached? path) := by
  unfold load FileTree.isPresent FileTree.content FileTree.reached?
  cases tree.lookup path with
  | error fault => rfl
  | ok place =>
      dsimp only
      rcases tree.entry? place with _ | bytes | _ | target <;> rfl

theorem ofValue_ok_congr (path other : Path) (value : Value) (configuration : Configuration)
    (read : ofValue path value = .ok configuration) : ofValue other value = .ok configuration := by
  unfold ofValue at read ⊢
  split
  · rwa [if_pos ‹_›] at read
  · rw [if_neg ‹_›] at read
    cases value with
    | map entries => exact read
    | _ => cases read

theorem ofBytes_ok_iff (path : Path) (bytes : List UInt8) (configuration : Configuration) :
    ofBytes path bytes = .ok configuration ↔
      ∃ text value, Text.Utf8.decode bytes = .ok text ∧
        Yaml.load schema (withLineFeeds text) = .ok value ∧
        ofValue path value = .ok configuration := by
  unfold ofBytes
  cases decoded : Text.Utf8.decode bytes with
  | error fault => simp
  | ok text =>
      dsimp only
      cases loaded : Yaml.load schema (withLineFeeds text) with
      | error fault => cases fault <;> simp [loaded]
      | ok value => cases read : ofValue path value <;> simp [loaded, read, Except.mapError]

/-- The path of a configuration is seen in its errors only. -/
theorem ofReached_ok_congr (path other : Path) (found : Option (Place × Option Entry))
    (configuration : Configuration) (read : ofReached path found = .ok configuration) :
    ofReached other found = .ok configuration := by
  rcases found with _ | ⟨place, _ | bytes | _ | target⟩
  · exact read
  · cases read
  · obtain ⟨text, value, decoded, loaded, described⟩ := (ofBytes_ok_iff path bytes _).mp read
    exact (ofBytes_ok_iff other bytes _).mpr
      ⟨text, value, decoded, loaded, ofValue_ok_congr path other value configuration described⟩
  · cases read
  · cases read

end Configuration

/-- Two paths resolve in two trees to the same place, which is a directory in both or in neither. If
they do not, a NUL is the reason for both or for neither. -/
structure FileTree.ResolvesAlike (tree other : FileTree) (path path' : Path) : Prop where
  place : ∀ target, tree.canonical true path = .ok target ↔ other.canonical true path' = .ok target
  directory : ∀ target, tree.canonical true path = .ok target →
    other.isDirectory target = tree.isDirectory target
  nul : tree.canonical true path = .error .nulInPath ↔
    other.canonical true path' = .error .nulInPath

namespace Discovery

/-- The configuration files of two directories are the same file with the same content or are both
missing, and the root that they name resolves alike. -/
structure ConfiguredAlike (tree other : FileTree) (base base' : Path) : Prop where
  file : other.reached? (configurationPath base') = tree.reached? (configurationPath base)
  root : ∀ configuration, Configuration.load tree (configurationPath base) = .ok configuration →
    tree.ResolvesAlike other (candidate base configuration) (candidate base' configuration)

/-- The configuration of a directory can be read, and the root that it names leads to a place. A
component behind it is none, or it cannot be asked for. -/
def RootResolves (tree : FileTree) (base : Path) : Prop :=
  ∃ configuration target,
    Configuration.load tree (configurationPath base) = .ok configuration ∧
      tree.canonical true (candidate base configuration) = .ok target ∧
        (Path.wayOf configuration.root).obstacle ≠ some .foreign

theorem fromBase_loaded (tree : FileTree) (base : Path) (configuration : Configuration)
    (loaded : Configuration.load tree (configurationPath base) = .ok configuration) :
    fromBase tree base = rootOf tree base configuration := by
  rw [fromBase, loaded]
  rfl

theorem fromBase_resolved (tree : FileTree) (base target : Path) (configuration : Configuration)
    (loaded : Configuration.load tree (configurationPath base) = .ok configuration)
    (resolved : tree.canonical true (candidate base configuration) = .ok target)
    (known : (Path.wayOf configuration.root).obstacle ≠ some .foreign) :
    fromBase tree base =
      if (Path.wayOf configuration.root).obstacle = some .unencodable then
        .error (.breakdown .halfInPath)
      else if tree.isDirectory target then .ok ⟨target, configuration.files⟩
      else .error (.error (.rootNotDirectory target)) := by
  simp only [fromBase_loaded tree base configuration loaded, rootOf, resolved]
  cases stopped : (Path.wayOf configuration.root).obstacle with
  | none => simp
  | some obstacle =>
      cases obstacle with
      | foreign => exact absurd stopped known
      | unencodable => simp

/-- Directories that are configured alike give the same, if the configured root leads to a place. -/
theorem ConfiguredAlike.fromBase_of_resolves {tree other : FileTree} {base base' : Path}
    (alike : ConfiguredAlike tree other base base') (resolves : RootResolves tree base) :
    fromBase other base' = fromBase tree base := by
  obtain ⟨configuration, target, loaded, resolved, known⟩ := resolves
  have loaded_other : Configuration.load other (configurationPath base') = .ok configuration := by
    rw [Configuration.load_eq] at loaded ⊢
    rw [alike.file]
    exact Configuration.ofReached_ok_congr _ _ _ configuration loaded
  have root := alike.root configuration loaded
  have resolved_other := (root.place target).mp resolved
  rw [fromBase_resolved tree base target configuration loaded resolved known,
    fromBase_resolved other base' target configuration loaded_other resolved_other known,
    root.directory target resolved]

/-- A directory that is configured alike in two trees gives the same document root or the same error
in both. -/
theorem ConfiguredAlike.fromBase_eq {tree other : FileTree} {base : Path}
    (alike : ConfiguredAlike tree other base base) : fromBase other base = fromBase tree base := by
  have loads : Configuration.load other (configurationPath base) =
      Configuration.load tree (configurationPath base) := by
    rw [Configuration.load_eq, Configuration.load_eq, alike.file]
  cases loaded : Configuration.load tree (configurationPath base) with
  | error failure =>
      rw [fromBase, fromBase, loads, loaded]
      rfl
  | ok configuration =>
      have root := alike.root configuration loaded
      rw [fromBase_loaded tree base configuration loaded,
        fromBase_loaded other base configuration (loads.trans loaded), rootOf, rootOf]
      cases canonical : tree.canonical true (candidate base configuration) with
      | ok target =>
          have again := (root.place target).mp canonical
          simp only [again, root.directory target canonical]
      | error fault =>
          -- Of the reasons why the root leads nowhere, only a NUL is told apart.
          cases again : other.canonical true (candidate base configuration) with
          | ok target =>
              rw [(root.place target).mpr again] at canonical
              cases canonical
          | error cause =>
              have nul := root.nul
              rw [canonical, again] at nul
              cases fault <;> cases cause <;> simp at nul ⊢

end Discovery

/-- The search starts from a canonical path and goes by the nearest directory at or above it that
holds a configuration directory. Searches with the same nearest directory end alike. So do searches
in two trees in which the nearest directories are configured alike, if the configured root leads to
a place or the directory is the same one; else an error may name the directory. What stands in
configuration directories that are farther away or off the way to the start is not asked for. Where
nothing that is asked for changes, the nearest directory stays the same, unless a link in the place
of a configuration directory begins or ceases to lead to a directory. -/
theorem discovery_told_by_nearest (tree : FileTree) (path : Option Path) (start : Path)
    (starts : Discovery.StartsAt tree path start) :
    let base := Discovery.base tree start
    (∀ directory, Discovery.Nearest tree start directory ↔ directory = base) ∧
    (∀ path' start', Discovery.StartsAt tree path' start' → Discovery.Nearest tree start' base →
      tree.discover path' = tree.discover path) ∧
    (∀ other path' start' base', Discovery.StartsAt other path' start' →
      Discovery.Nearest other start' base' → Discovery.ConfiguredAlike tree other base base' →
      Discovery.RootResolves tree base ∨ base' = base →
      other.discover path' = tree.discover path) ∧
    (∀ place, Discovery.Elsewhere tree start place → ¬ Discovery.Asked tree start place) ∧
    ∀ other, Discovery.StartsAt other path start →
      (∀ place, other.entry? place ≠ tree.entry? place → ¬ Discovery.Asked tree start place) →
      (∀ holder, Discovery.Searched tree start holder →
        tree.Crosses (holder.child configurationDirectory) →
        (other.Holds holder ↔ tree.Holds holder)) →
      Discovery.Nearest other start base ∧
        (Discovery.ConfiguredAlike tree other base base →
          other.discover path = tree.discover path) := by
  intro base
  obtain ⟨rooted, steps⟩ := starts.goes_down
  have nearest : Discovery.Nearest tree start base := Discovery.base_nearest tree start
  have outcome : tree.discover path = Discovery.fromBase tree base := starts.discover_eq
  have outcome_other (other : FileTree) (path' : Option Path) (start' base' : Path)
      (starts' : Discovery.StartsAt other path' start')
      (nearest' : Discovery.Nearest other start' base') :
      other.discover path' = Discovery.fromBase other base' := by
    rw [starts'.discover_eq, (Discovery.nearest_iff base').mp nearest']
  refine ⟨Discovery.nearest_iff, ?_, ?_, fun place => Discovery.Elsewhere.unasked rooted, ?_⟩
  · intro path' start' starts' nearest'
    rw [outcome, outcome_other tree path' start' base starts' nearest']
  · intro other path' start' base' starts' nearest' alike settled
    rw [outcome, outcome_other other path' start' base' starts' nearest']
    rcases settled with resolves | rfl
    · exact alike.fromBase_of_resolves resolves
    · exact alike.fromBase_eq
  · intro other starts' unasked links
    have kept (place : Place) (asked : Discovery.Asked tree start place) :
        other.entry? place = tree.entry? place :=
      not_imp_not.mp (unasked place) asked
    have nearest' : Discovery.Nearest other start base := by
      refine nearest.of_alike fun holder searched => ?_
      by_cases crosses : tree.Crosses (holder.child configurationDirectory)
      · exact links holder searched crosses
      · exact Discovery.holds_congr rooted steps kept holder searched crosses
    refine ⟨nearest', fun alike => ?_⟩
    rw [outcome, outcome_other other path start base starts' nearest']
    exact alike.fromBase_eq

/-- A directory with a configuration and another one in it, whose configuration directory is a link.
Below that one there is only a file by the name of a configuration directory. -/
def treeNested (far : List UInt8) (more : List (Place × Entry)) : FileTree where
  entries := [(["w"], .directory), (["w", ".veisku"], .directory),
    (["w", ".veisku", "config.yaml"], .file far), (["w", "c"], .directory),
    (["w", "c", "config.yaml"], .file [114, 111, 111, 116, 58, 32, 100, 10]),
    (["w", "n"], .directory), (["w", "n", ".veisku"], .link "../c"), (["w", "n", "d"], .directory),
    (["w", "n", "d", ".veisku"], .file []), (["w", "l"], .link "n/d")] ++ more

theorem farther_configurations_changed :
    let tree := treeNested [114, 111, 111, 116, 58, 32, 99, 10] []
    let other := treeNested [91] [(["w", "c", ".veisku"], .directory)]
    let path : Option Path := some ⟨.root, ["w", "l"]⟩
    let start : Path := ⟨.root, ["w", "n", "d"]⟩
    let base : Path := ⟨.root, ["w", "n"]⟩
    Discovery.StartsAt tree path start ∧ Discovery.StartsAt other path start ∧
      Discovery.base tree start = base ∧
      Discovery.StartsAt tree (some base) base ∧ Discovery.Nearest tree base base ∧
      (∀ place, other.entry? place ≠ tree.entry? place → ¬ Discovery.Asked tree start place) ∧
      (∀ holder, Discovery.Searched tree start holder → (other.Holds holder ↔ tree.Holds holder)) ∧
      Discovery.ConfiguredAlike tree other base base ∧ Discovery.Nearest other start base ∧
      tree.discover (some base) = tree.discover path ∧ other.discover path = tree.discover path ∧
      tree.discover path = .ok ⟨start, defaultFiles⟩ := by
  intro tree other path start base
  have starts : Discovery.StartsAt tree path start := by
    unfold Discovery.StartsAt
    decide +kernel
  have starts_other : Discovery.StartsAt other path start := by
    unfold Discovery.StartsAt
    decide +kernel
  have starts_base : Discovery.StartsAt tree (some base) base := by
    unfold Discovery.StartsAt
    decide +kernel
  have found : Discovery.base tree start = base := by decide +kernel
  have found_base : Discovery.base tree base = base := by decide +kernel
  obtain ⟨_, same_nearest, _, unasked, unchanged⟩ :=
    discovery_told_by_nearest tree path start starts
  rw [found] at same_nearest unchanged
  have nearest_base : Discovery.Nearest tree base base :=
    (Discovery.nearest_iff base).mpr found_base.symm
  have held (holder : Path) (above : holder.AtOrAbove start) :
      other.Holds holder ↔ tree.Holds holder := by
    have alike : ∀ holder ∈ start.withAncestors,
        other.isDirectory (holder.child configurationDirectory) =
          tree.isDirectory (holder.child configurationDirectory) := by decide +kernel
    unfold FileTree.Holds
    rw [alike holder ((start.mem_withAncestors_iff holder).mpr above)]
  have changes (place : Place) (changed : other.entry? place ≠ tree.entry? place) :
      ¬ Discovery.Asked tree start place := by
    have spot : place = ["w", ".veisku", "config.yaml"] ∨ place = ["w", "c", ".veisku"] := by
      by_contra apart
      rw [not_or] at apart
      refine changed ?_
      have far := beq_eq_false_iff_ne.mpr apart.1
      have off := beq_eq_false_iff_ne.mpr apart.2
      simp [FileTree.entry?, other, tree, treeNested, List.lookup_cons, far, off]
    apply unasked
    rcases spot with rfl | rfl
    · have holds : tree.Holds base := by
        unfold FileTree.Holds
        decide +kernel
      refine ⟨⟨["w"], ["config.yaml"], rfl, by decide, fun searched => ?_⟩, by decide⟩
      exact searched.nearer base ⟨rfl, by decide⟩ ⟨rfl, by decide⟩ (by decide) holds
    · refine ⟨⟨["w", "c"], [], rfl, by decide, fun searched => ?_⟩, by decide⟩
      exact absurd searched.above.parts (by decide)
  have alike : Discovery.ConfiguredAlike tree other base base := by
    refine ⟨by decide +kernel, fun configuration loaded => ?_⟩
    have read : Configuration.load tree (Discovery.configurationPath base) =
        .ok ⟨"d", defaultFiles⟩ := by decide +kernel
    obtain rfl := Except.ok.inj (read.symm.trans loaded)
    have resolved : tree.canonical true (Discovery.candidate base ⟨"d", defaultFiles⟩) =
        .ok start := by decide +kernel
    have resolved_other : other.canonical true (Discovery.candidate base ⟨"d", defaultFiles⟩) =
        .ok start := by
      decide +kernel
    refine ⟨fun target => by rw [resolved, resolved_other], ?_, by rw [resolved, resolved_other]⟩
    intro target leads
    obtain rfl := Except.ok.inj (resolved.symm.trans leads)
    decide +kernel
  obtain ⟨stays, same⟩ := unchanged other starts_other changes
    fun holder searched _ => held holder searched.above
  exact ⟨starts, starts_other, found, starts_base, nearest_base, changes,
    fun holder searched => held holder searched.above, alike, stays,
    same_nearest _ _ starts_base nearest_base, same alike, by decide +kernel⟩

end DocFinder
