import AutomationIndex.Proofs.Project.Configurations
import AutomationIndex.Proofs.Scan.Agreement

/-! The files that loading a project opens: it comes to the same while these hold the same. -/

namespace AutomationIndex

variable {place : Place} {disk other : Disk}

namespace Configuration

/-- The files that loading a configuration from its directory opens: its package and, where that
loads, the package of its controller. -/
def opened (disk : Disk) (root projectRoot : Location) : List Location :=
  (root / packageName) ::
    match (disk.load Role.configuration.kind (root / packageName)
      ConfigurationPackage.read).found? with
    | some package => [package.cpuDirectory projectRoot / cpuPackageName]
    | none => []

/-- Whether loading a configuration opens the file at a place. -/
def opens (disk : Disk) (place : Place) (root projectRoot : Location) : Bool :=
  (opened disk root projectRoot).any (disk.reaches place)

/-- The same loads open the file that differs. -/
theorem opens_eq (same : Disk.SameBut place disk other) (root projectRoot : Location) :
    opens other place root projectRoot = opens disk place root projectRoot := by
  have asked : other.reaches place = disk.reaches place := funext (same.reaches_eq place)
  cases reached : disk.reaches place (root / packageName) with
  -- The package itself differs, and so it is opened on both disks.
  | true => simp only [opens, opened, List.any_cons, asked, reached, Bool.true_or]
  | false => simp only [opens, opened, asked, same.load_eq reached]

/-- A configuration loads in the same way, if that does not open the file that differs. -/
theorem load_eq (same : Disk.SameBut place disk other) {root projectRoot : Location}
    (passed : opens disk place root projectRoot = false) (description : Option String) :
    load other root projectRoot description = load disk root projectRoot description := by
  simp only [opens, opened, List.any_cons, Bool.or_eq_false_iff] at passed
  obtain ⟨first, second⟩ := passed
  unfold load
  rw [same.load_eq first]
  apply Logged.bind_congr
  intro package loaded
  cases package with
  | none => rfl
  | some package =>
    -- The controller is looked for where this package says.
    rw [Logged.found?_of_ok loaded] at second
    simp only [List.any_cons, List.any_nil, Bool.or_false] at second
    simp only [same.load_eq second]

end Configuration

namespace Project

/-- The settings files that are opened until one of them names a configuration. -/
def openedSettings (disk : Disk) : List Location → List Location
  | [] => []
  | file :: files =>
    file ::
      match (disk.load "user settings" file UserSettings.read).found?.bind (·.active) with
      | some _ => []
      | none => openedSettings disk files

/-- The files that loading a project opens after its descriptor. -/
def openedBelow (disk : Disk) (d : Descriptor) : List Location :=
  (d.physical / physicalPackageName) ::
    ((configurationRoots disk d).toOption.getD []).flatMap
      (fun root => Configuration.opened disk root d.root) ++
    openedSettings disk
      (settingsOrder ((Scan.findFiles disk {} d.root "*.set").toOption.getD []))

/-- The files that loading a project opens. -/
def opened (disk : Disk) (file : Location) : List Location :=
  file ::
    match (disk.load "project" file Descriptor.read).found? with
    | some d => openedBelow disk d
    | none => []

/-- Whether loading a project opens the file at a place. -/
def opens (disk : Disk) (place : Place) (file : Location) : Bool :=
  (opened disk file).any (disk.reaches place)

/-- The active configuration is the same, if finding it does not open the file that differs. -/
theorem loadActiveName_eq (same : Disk.SameBut place disk other) {files : List Location}
    (passed : ∀ l ∈ openedSettings disk files, disk.reaches place l = false) :
    loadActiveName other files = loadActiveName disk files := by
  induction files with
  | nil => rfl
  | cons file rest ih =>
    obtain ⟨first, later⟩ := List.forall_mem_cons.mp passed
    unfold loadActiveName
    rw [same.load_eq first]
    apply Logged.bind_congr
    intro settings loaded
    rw [Logged.found?_of_ok loaded] at later
    -- The search ends at the first file that names a configuration.
    cases named : settings.bind (·.active) with
    | some name => rfl
    | none =>
      simp only [named] at later
      exact ih later

/-- The same searches for an active configuration open the file that differs. -/
theorem openedSettings_any_eq (same : Disk.SameBut place disk other) (files : List Location) :
    (openedSettings other files).any (disk.reaches place) =
      (openedSettings disk files).any (disk.reaches place) := by
  -- As long as no file differs, the search goes on in the same way on both disks.
  induction files with
  | nil => rfl
  | cons file rest ih =>
    cases reached : disk.reaches place file with
    | true => simp only [openedSettings, List.any_cons, reached, Bool.true_or]
    | false =>
      simp only [openedSettings, List.any_cons, reached, Bool.false_or, same.load_eq reached]
      split
      · rfl
      · exact ih

section

variable (same : Disk.SameBut place disk other) (another : place.getLast? ≠ some ".gitignore")

include same another

/-- The directories of configurations are the same. -/
theorem configurationRoots_eq {d : Descriptor} (style : d.physical.style = .posix) :
    configurationRoots other d = configurationRoots disk d := by
  simp only [configurationRoots, same.findFiles_eq {} style another]

/-- The configurations are the same, if loading them does not open the file that differs. -/
theorem loadConfigurations_eq {d : Descriptor} (style : d.physical.style = .posix)
    (listed : disk.reaches place (d.physical / physicalPackageName) = false)
    (passed : ∀ roots, configurationRoots disk d = .ok roots → ∀ root ∈ roots,
      Configuration.opens disk place root d.root = false) :
    loadConfigurations other d = loadConfigurations disk d := by
  unfold loadConfigurations
  -- The list of configurations and their directories are the same, and so are the loads of each.
  rw [same.load_eq listed, configurationRoots_eq same another style]
  apply Logged.bind_congr
  intro physical _
  apply Logged.bind_congr
  intro roots searched
  apply Logged.collect_congr
  intro root member
  rw [Configuration.load_eq same (passed roots searched root (inOrder_subset member))]

/-- The same loads of projects open the file that differs. -/
theorem opens_eq {file : Location} (style : file.style = .posix) :
    opens other place file = opens disk place file := by
  have asked : other.reaches place = disk.reaches place := funext (same.reaches_eq place)
  cases reached : disk.reaches place file with
  | true => simp only [opens, opened, List.any_cons, asked, reached, Bool.true_or]
  | false =>
    simp only [opens, opened, List.any_cons, asked, reached, Bool.false_or, same.load_eq reached]
    split
    · rename_i d loaded
      have read := Logged.found?_eq_some_iff.mp loaded
      have rooted := descriptor_style read style
      have physical := Descriptor.physical_style rooted
      -- Each part of the load opens the same files.
      have each : ∀ root, (Configuration.opened other root d.root).any (disk.reaches place) =
          (Configuration.opened disk root d.root).any (disk.reaches place) := by
        intro root
        have equal := Configuration.opens_eq same root d.root
        simpa only [Configuration.opens, asked] using equal
      simp only [openedBelow, List.any_append, List.any_cons, List.any_flatMap, each,
        configurationRoots_eq same another physical, same.findFiles_eq {} rooted another,
        openedSettings_any_eq same]
    · rfl

/-- A project loads in the same way, if that does not open the file that differs. -/
theorem load_eq {file : Location} (style : file.style = .posix)
    (passed : opens disk place file = false) : load other file = load disk file := by
  simp only [opens, opened, List.any_cons, Bool.or_eq_false_iff] at passed
  obtain ⟨first, below⟩ := passed
  unfold load
  rw [same.load_eq first]
  apply Logged.bind_congr
  intro descriptor loaded
  cases descriptor with
  | none => rfl
  | some d =>
    have read : (disk.load "project" file Descriptor.read).result = .ok (some d) := by
      simpa only [Logged.mapFault_result, mapError_ok_iff] using loaded
    rw [Logged.found?_of_ok read] at below
    -- The descriptor stands for the file, and so it is written in the same style.
    have rooted := descriptor_style read style
    have physical := Descriptor.physical_style rooted
    simp only [openedBelow, List.any_append, List.any_cons, Bool.or_eq_false_iff] at below
    -- None of the files below is the one that differs.
    obtain ⟨⟨listed, configured⟩, named⟩ := below
    have each : ∀ roots, configurationRoots disk d = .ok roots → ∀ root ∈ roots,
        Configuration.opens disk place root d.root = false := by
      intro roots searched root member
      simp only [searched, Except.toOption, Option.getD_some, List.any_flatMap,
        List.any_eq_false] at configured
      simpa [Configuration.opens] using configured root member
    dsimp only
    rw [loadConfigurations_eq same another physical listed each,
      same.findFiles_eq {} rooted another]
    apply Logged.bind_congr
    intro configurations _
    apply Logged.bind_congr
    intro files searched
    have searched : Scan.findFiles disk {} d.root "*.set" = .ok files := searched
    simp only [searched, Except.toOption, Option.getD_some, List.any_eq_false,
      Bool.not_eq_true] at named
    rw [loadActiveName_eq same named]

end

end Project

end AutomationIndex
