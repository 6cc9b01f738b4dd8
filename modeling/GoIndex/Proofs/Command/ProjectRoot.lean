import GoIndex.Proofs.Command.Run

/-!
# The project of a run

A run looks for the root of its project twice. For the settings file it goes by the default marker,
for the index by the marker that the settings name, which is not known before they are loaded. Each
time the root is the directory that the run is about, or its parent when only the parent holds the
marker (`Node.Climbs`). So the two are the same directory exactly when both markers lead to the
parent or neither does (`World.root_eq_settingsDirectory_iff`), and a project with a marker of its
own may be indexed without its settings (`World.settings_read_beside_root`).
-/

namespace GoIndex

open Data Text

/-! ### Going up to the parent -/

/-- A marker leads from a path up to its parent: the parent holds it, and the path does not. -/
def Node.Climbs (tree : Node) (path : Path) (marker : String) : Prop :=
  tree.holds path marker = .absent ∧ tree.holds path.parent marker = .present

instance (tree : Node) (path : Path) (marker : String) : Decidable (tree.Climbs path marker) :=
  inferInstanceAs (Decidable (_ ∧ _))

namespace Node

variable {tree : Node} {directory : Path} {text marker : String}

theorem parent_ne_of_climbs {path : Path} (h : tree.Climbs path marker) : path.parent ≠ path := by
  intro heq
  obtain ⟨habsent, hpresent⟩ := h
  rw [heq, habsent] at hpresent
  cases hpresent

/-- The root of a project is the path that a text means, or its parent where the marker leads up. -/
theorem eq_of_projectRoot_eq_ok {root : Path}
    (h : tree.projectRoot directory text marker = .ok root) :
    root = if tree.Climbs (Path.resolve directory text) marker then
      (Path.resolve directory text).parent else Path.resolve directory text := by
  simp only [projectRoot] at h
  split at h
  · cases h
  · split at h <;> simp_all [Climbs]

/-- Two markers give one root when both of them lead up or neither does. -/
theorem projectRoot_eq_iff {marker' : String} {root root' : Path}
    (h : tree.projectRoot directory text marker = .ok root)
    (h' : tree.projectRoot directory text marker' = .ok root') :
    root = root' ↔ (tree.Climbs (Path.resolve directory text) marker ↔
      tree.Climbs (Path.resolve directory text) marker') := by
  rw [eq_of_projectRoot_eq_ok h, eq_of_projectRoot_eq_ok h']
  -- where only one of the two leads up, the parent is another directory than the path
  by_cases hup : tree.Climbs (Path.resolve directory text) marker <;>
    by_cases hup' : tree.Climbs (Path.resolve directory text) marker'
  · simp [hup, hup']
  · simp [hup, hup', parent_ne_of_climbs hup]
  · simp [hup, hup', (parent_ne_of_climbs hup').symm]
  · simp [hup, hup']

end Node

theorem Index.projectRoot_of_openAt {tree : Node} {directory : Path} {text : String}
    {settings : ScanSettings} {index : Index}
    (h : Index.openAt tree directory text settings = .ok index) :
    tree.projectRoot directory text settings.rootMarker.fileName = .ok index.root := by
  simp only [Index.openAt] at h
  split at h
  · next root hroot =>
    obtain rfl := Except.ok.inj h
    exact hroot
  · cases h

namespace Command.World

variable {world : World} {start : String}

/-- The marker by which the settings of a project are found. -/
def defaultMarker : String :=
  ({} : ScanSettings).rootMarker.fileName

theorem projectRoot_of_settingsDirectory {directory : Path}
    (h : world.settingsDirectory start = .ok directory) :
    world.tree.projectRoot world.directory start defaultMarker = .ok directory := by
  change (world.tree.projectRoot world.directory start defaultMarker).mapError Fault.unusable =
    .ok directory at h
  cases hroot : world.tree.projectRoot world.directory start defaultMarker with
  | error fault =>
    rw [hroot] at h
    cases h
  | ok root =>
    rw [hroot] at h
    exact congrArg _ (Except.ok.inj h)

/-- **The settings of a run are read in the root of its index** exactly when the marker in these
settings leads up to the parent of where the run starts just as the default marker does. -/
theorem root_eq_settingsDirectory_iff {line : List String} {arguments : Arguments}
    {settings : Settings} {index : Index}
    (h : world.Reaches line arguments start settings index) :
    ∃ directory, world.settingsDirectory start = .ok directory ∧
      world.platform.load world.userSettings (world.tree.at? (directory ++ settingsFile)) =
        .ok settings ∧
      world.run line =
        .of (execute world.platform.digitLimit arguments settings.search index world.tree) ∧
      (index.root = directory ↔
        (world.tree.Climbs (Path.resolve world.directory start)
            settings.scan.rootMarker.fileName ↔
          world.tree.Climbs (Path.resolve world.directory start) defaultMarker)) := by
  obtain ⟨directory, hdirectory, hload⟩ := bind_eq_ok_iff.mp h.loaded
  refine ⟨directory, hdirectory, hload, h.run_eq, ?_⟩
  exact Node.projectRoot_eq_iff (Index.projectRoot_of_openAt h.opened)
    (projectRoot_of_settingsDirectory hdirectory)

/-! ### A marker of the user's own -/

/-- The settings of a user who marks projects by a file `W`. -/
def ownMarker : Settings := { scan := { rootMarker := .ofString "W" } }

/-- The settings file of that user. -/
def ownText : String := "scan:\n  root_marker: W\n"

/-- A project of that user, with settings of its own and a directory in it. -/
def markedAbove : World where
  tree := .directory [
    (".goscope", .directory [
      ("config.yaml", .file (.readable "search:\n  default_limit: 1\n".toUTF8.data.toList))]),
    ("W", .file (.readable [])),
    ("sub", .directory [])]
  directory := []
  userSettings := some (.file (.readable ownText.toUTF8.data.toList))

theorem settingsDirectory_markedAbove : markedAbove.settingsDirectory "sub" = .ok ["sub"] := by
  rfl

theorem settings_markedAbove : markedAbove.settings "sub" = .ok ownMarker :=
  toOption_eq_some_iff.mp (by decide +kernel)

theorem markedAbove_reaches :
    markedAbove.Reaches ["stats", "--dir", "sub"]
      { command := "stats", options := [("dir", "sub")] } "sub" ownMarker
      { root := [], settings := ownMarker.scan } where
  notHelp := by decide
  parsed := by rfl
  found := ⟨.of [] none, rfl, by decide +kernel⟩
  loaded := settings_markedAbove
  opened := by rfl

theorem root_eq_settingsDirectory_iff_of_markedAbove :
    ∃ directory, markedAbove.settingsDirectory "sub" = .ok directory ∧
      Settings.load markedAbove.userSettings (markedAbove.tree.at? (directory ++ settingsFile)) =
        .ok ownMarker ∧
      markedAbove.run ["stats", "--dir", "sub"] =
        .of (execute (some maxDigits) { command := "stats", options := [("dir", "sub")] }
          ownMarker.search { root := [], settings := ownMarker.scan } markedAbove.tree) ∧
      ([] = directory ↔ (markedAbove.tree.Climbs ["sub"] "W" ↔
        markedAbove.tree.Climbs ["sub"] defaultMarker)) :=
  root_eq_settingsDirectory_iff markedAbove_reaches

/-- Where only the user's own marker leads up, the settings of the project are not read: they stand
in the root of the index, and the settings file is looked for in the directory below. -/
theorem settings_read_beside_root :
    markedAbove.Reaches ["stats", "--dir", "sub"]
        { command := "stats", options := [("dir", "sub")] } "sub" ownMarker
        { root := [], settings := ownMarker.scan } ∧
      markedAbove.settingsDirectory "sub" = .ok ["sub"] ∧
      (markedAbove.tree.at? (["sub"] ++ settingsFile)).isNone ∧
      (markedAbove.tree.at? ([] ++ settingsFile)).isSome :=
  ⟨markedAbove_reaches, settingsDirectory_markedAbove, rfl, rfl⟩

end Command.World

end GoIndex
