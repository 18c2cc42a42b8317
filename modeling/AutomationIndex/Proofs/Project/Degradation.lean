import AutomationIndex.Proofs.Project.Completion
import AutomationIndex.Proofs.Project.Kinds
import AutomationIndex.Proofs.Project.Opened

/-! What replacing one file changes of a project: only what files of its kind tell. -/

namespace AutomationIndex

variable {place : Place} {disk other : Disk} {kind : FileKind}

namespace Configuration

variable {root projectRoot : Location} {description : Option String}

/-- A configuration less its description. -/
def undescribed (c : Configuration) : Configuration :=
  { c with description := none }

/-- Whether a configuration was read from the file at a place. -/
def isReadFrom (disk : Disk) (place : Place) (c : Configuration) : Bool :=
  disk.reaches place c.package.file || disk.reaches place c.cpu.file

/-- A configuration was read from the file at a place exactly if loading it opens that file. -/
theorem isReadFrom_of_load {c : Configuration}
    (loaded : (load disk root projectRoot description).result = .ok (some c)) :
    c.isReadFrom disk place = opens disk place root projectRoot := by
  -- The packages of a configuration that loads tell which files they were read from.
  obtain ⟨package, cpu, read, reached, rfl⟩ := Project.configuration_some_iff.mp loaded
  obtain ⟨_, _, packaged⟩ := Disk.load_some_iff.mp read
  obtain ⟨_, _, controlled⟩ := Disk.load_some_iff.mp reached
  simp only [isReadFrom, opens, opened, Logged.found?_of_ok read, List.any_cons, List.any_nil,
    Bool.or_false, (ConfigurationPackage.read_file packaged).1, CpuPackage.read_file controlled]

/-- The description of a configuration does not decide whether it loads, or with what else. -/
theorem load_undescribed (first second : Option String) :
    (load disk root projectRoot first).found?.map undescribed =
      (load disk root projectRoot second).found?.map undescribed := by
  -- What loads with one description loads with any other one.
  have described : ∀ description again c,
      (load disk root projectRoot description).found?.map undescribed = some c →
        (load disk root projectRoot again).found?.map undescribed = some c := by
    intro description again c member
    obtain ⟨loaded, found, rfl⟩ := Option.map_eq_some_iff.mp member
    obtain ⟨package, cpu, read, reached, rfl⟩ :=
      Project.configuration_some_iff.mp (Logged.found?_eq_some_iff.mp found)
    refine Option.map_eq_some_iff.mpr ⟨⟨root.name, root, package, cpu, again⟩, ?_, rfl⟩
    exact Logged.found?_eq_some_iff.mpr
      (Project.configuration_some_iff.mpr ⟨package, cpu, read, reached, rfl⟩)
  ext c
  exact ⟨described first second c, described second first c⟩

/-- What loads without the file that differs is the same. -/
theorem load_unread_eq (same : Disk.SameBut place disk other) :
    (load other root projectRoot description).found?.filter (fun c => !c.isReadFrom disk place) =
      (load disk root projectRoot description).found?.filter
        fun c => !c.isReadFrom disk place := by
  -- Either loading passes the file on both disks, or it opens the file on both.
  cases opened : opens disk place root projectRoot with
  | false => rw [load_eq same opened]
  | true =>
    -- On either disk, a configuration that loads was read from the file.
    have read : ∀ c, (load disk root projectRoot description).found? = some c →
        c.isReadFrom disk place = true := by
      intro c found
      rw [isReadFrom_of_load (Logged.found?_eq_some_iff.mp found), opened]
    have again : ∀ c, (load other root projectRoot description).found? = some c →
        c.isReadFrom disk place = true := by
      intro c found
      -- The same locations lead to the file on both disks.
      have held : c.isReadFrom other place = true := by
        rw [isReadFrom_of_load (Logged.found?_eq_some_iff.mp found), opens_eq same, opened]
      simpa only [isReadFrom, same.reaches_eq] using held
    rw [Option.filter_eq_none_iff.mpr, Option.filter_eq_none_iff.mpr]
    · simpa using read
    · simpa using again

/-- Loading a configuration opens its two packages, and so no file of another kind. -/
theorem passes_of_kind (same : Disk.SameBut place disk other) (role : kind.isAt place = true)
    (notPackage : kind ≠ .configuration) (notCpu : kind ≠ .cpu) (rootStyle : root.style = .posix)
    (projectStyle : projectRoot.style = .posix) : opens disk place root projectRoot = false := by
  -- The first file is beside the others of the configuration, the second one where that says.
  have package : disk.reaches place (root / packageName) = false := by
    rw [Location.join_segment rootStyle (by decide)]
    exact FileKind.passes same role root (by decide) notPackage
  simp only [opens, opened, List.any_cons, package, Bool.false_or]
  split
  · rename_i p loaded
    have directory := cpuDirectory_style rootStyle projectStyle (Logged.found?_eq_some_iff.mp loaded)
    rw [List.any_cons, List.any_nil, Bool.or_false, Location.join_segment directory (by decide)]
    exact FileKind.passes same role _ (by decide) notCpu
  · rfl

end Configuration

namespace Project

/-- What replacing a file of a kind leaves as it is in a project: the descriptor and the active name
depend on a file of one kind each, configurations on the files that they are read from, and their
order and descriptions on their list. -/
structure KeptBut (disk : Disk) (place : Place) (kind : FileKind) (p q : Project) : Prop where
  descriptor_eq : kind ≠ .project → q.descriptor = p.descriptor
  activeName_eq : kind ≠ .settings → q.activeName = p.activeName
  configurations_eq : kind = .project ∨ kind = .settings → q.configurations = p.configurations
  unread_eq : kind = .configuration ∨ kind = .cpu →
    (q.configurations.filter fun c => !c.isReadFrom disk place) =
      p.configurations.filter fun c => !c.isReadFrom disk place
  undescribed_perm : kind = .physical →
    (q.configurations.map (·.undescribed)).Perm (p.configurations.map (·.undescribed))

/-- Whether projects can be described at a location. -/
structure IsSource (file : Location) : Prop where
  style_eq : file.style = .posix
  lacksNul : file.LacksNul
  named : ∃ (directory : Location) (name : String),
    file = directory.below [name] ∧ FileKind.project.names name = true

/-- The searched settings files are the only ones that are opened. -/
theorem openedSettings_subset (disk : Disk) (files : List Location) :
    openedSettings disk files ⊆ files := by
  induction files with
  | nil => exact List.Subset.refl _
  | cons file rest ih =>
    -- The search ends at the first file that names a configuration.
    unfold openedSettings
    split
    · exact List.cons_subset_cons file (List.nil_subset rest)
    · exact List.cons_subset_cons file ih

/-- Descriptors of one file have the same configurations. -/
theorem loadConfigurations_congr {d e : Descriptor} (file : d.file = e.file) :
    loadConfigurations disk d = loadConfigurations disk e := by
  -- Only the directory of the descriptor counts, not what it says.
  have root : d.root = e.root := congrArg Location.parent file
  simp only [loadConfigurations, configurationRoots, Descriptor.physical, root]

/-- What loads from a location without the file at a place: all that loads, unless that opens the
file. -/
theorem found_untouched (disk : Disk) (place : Place) (file : Location) :
    ((load disk file).found?.filter fun p => !opens disk place p.descriptor.file) =
      if opens disk place file then none else (load disk file).found? := by
  -- A loaded project keeps its file, so asking about the file is asking about the project.
  cases found : (load disk file).found? with
  | none => simp
  | some p =>
    have asked : p.descriptor.file = file := load_file (Logged.found?_eq_some_iff.mp found)
    rw [Option.filter_some, asked]
    cases opens disk place file <;> rfl

section

variable (same : Disk.SameBut place disk other) (role : kind.isAt place = true)

include same role

section

variable {d : Descriptor} (style : d.root.style = .posix)

/-- Only settings files are opened to find the active configuration. -/
theorem settings_pass (differ : kind ≠ .settings) {files : List Location}
    (searched : Scan.findFiles disk {} d.root "*.set" = .ok files) :
    ∀ l ∈ openedSettings disk (settingsOrder files), disk.reaches place l = false := by
  intro l opened
  obtain ⟨_, name, rfl, fitting⟩ :=
    settingsFiles_found searched l (openedSettings_subset disk _ opened)
  -- A file of another kind does not have the name of a settings file.
  have settings : FileKind.settings.names name = true := fitting
  exact FileKind.passes same role d.root settings differ

/-- Only settings files tell the active configuration. -/
theorem loadActiveName_kept (differ : kind ≠ .settings) {files : List Location}
    (searched : Scan.findFiles disk {} d.root "*.set" = .ok files) :
    loadActiveName other (settingsOrder files) = loadActiveName disk (settingsOrder files) :=
  loadActiveName_eq same (settings_pass same role differ searched)

include style

/-- The list of configurations is read from the file of its kind only. -/
theorem physical_passes (differ : kind ≠ .physical) :
    disk.reaches place (d.physical / physicalPackageName) = false := by
  rw [Location.join_segment (Descriptor.physical_style style) (by decide)]
  exact FileKind.passes same role d.physical (by decide) differ

/-- Only packages tell the configurations. -/
theorem loadConfigurations_kept (foreign : kind = .project ∨ kind = .settings) :
    loadConfigurations other d = loadConfigurations disk d := by
  -- A descriptor or a settings file is none of the packages.
  have apart : kind ≠ .physical ∧ kind ≠ .configuration ∧ kind ≠ .cpu := by
    rcases foreign with rfl | rfl <;> decide
  refine loadConfigurations_eq same (FileKind.not_ignoreFile role) (Descriptor.physical_style style)
    (physical_passes same role style apart.1) ?_
  intro roots listed root member
  exact Configuration.passes_of_kind same role apart.2.1 apart.2.2
    (configurationRoots_style style listed root member) style

variable {configurations again : List Configuration}
  (first : (loadConfigurations disk d).result = .ok configurations)
  (second : (loadConfigurations other d).result = .ok again)

include first second

/-- Configurations that are not read from a package are the same whatever it holds. -/
theorem configurations_unread (package : kind = .configuration ∨ kind = .cpu) :
    (again.filter fun c => !c.isReadFrom disk place) =
      configurations.filter fun c => !c.isReadFrom disk place := by
  obtain ⟨physical, roots, listed, searched, _, rfl⟩ := loadConfigurations_ok_iff.mp first
  obtain ⟨twin, others, relisted, researched, _, rfl⟩ := loadConfigurations_ok_iff.mp second
  have apart : kind ≠ .physical := by
    rcases package with rfl | rfl <;> decide
  -- Both disks have the same list and the same directories, hence the same order.
  rw [same.load_eq (physical_passes same role style apart), listed] at relisted
  rw [configurationRoots_eq same (FileKind.not_ignoreFile role) (Descriptor.physical_style style),
    searched] at researched
  cases relisted
  cases researched
  rw [List.filter_filterMap, List.filter_filterMap]
  apply List.filterMap_congr
  intro root _
  exact Configuration.load_unread_eq same

/-- The list of configurations decides their order and their descriptions, and nothing else. -/
theorem configurations_undescribed (wellNamed : disk.isWellNamed = true) (list : kind = .physical) :
    (again.map (·.undescribed)).Perm (configurations.map (·.undescribed)) := by
  obtain ⟨physical, roots, listed, searched, _, rfl⟩ := loadConfigurations_ok_iff.mp first
  obtain ⟨twin, others, relisted, researched, _, rfl⟩ := loadConfigurations_ok_iff.mp second
  rw [configurationRoots_eq same (FileKind.not_ignoreFile role) (Descriptor.physical_style style),
    searched] at researched
  cases researched
  have ordered : ∀ declared : Option PhysicalPackage,
      (inOrder (declaredNames declared) roots).Perm roots := fun declared =>
    inOrder_perm (declaredNames_nodup declared) (configurationRoots_distinct wellNamed searched)
  -- Less its description, each directory loads the same on both disks, wherever it stands.
  have loads : ∀ description, ∀ root ∈ roots,
      (Configuration.load other root d.root description).found?.map (·.undescribed) =
        (Configuration.load disk root d.root none).found?.map (·.undescribed) := by
    intro description root member
    have passed : Configuration.opens disk place root d.root = false := by
      apply Configuration.passes_of_kind same role ?_ ?_ _ style
      · rw [list]
        decide
      · rw [list]
        decide
      · exact configurationRoots_style style searched root member
    rw [Configuration.load_eq same passed]
    exact Configuration.load_undescribed _ _
  have reloaded : ∀ root ∈ inOrder (declaredNames twin) roots,
      (Configuration.load other root d.root
          (twin.bind (·.description? root.name))).found?.map (·.undescribed) =
        (Configuration.load disk root d.root none).found?.map (·.undescribed) :=
    fun root member => loads _ root (inOrder_subset member)
  have loaded : ∀ root ∈ inOrder (declaredNames physical) roots,
      (Configuration.load disk root d.root
          (physical.bind (·.description? root.name))).found?.map (·.undescribed) =
        (Configuration.load disk root d.root none).found?.map (·.undescribed) :=
    fun root _ => Configuration.load_undescribed _ none
  rw [List.map_filterMap, List.map_filterMap, List.filterMap_congr reloaded, List.filterMap_congr loaded]
  exact ((ordered twin).trans (ordered physical).symm).filterMap _

end

variable {file : Location} (source : IsSource file)

include source

/-- Descriptors are read from files of their kind only. -/
theorem descriptor_kept (differ : kind ≠ .project) :
    other.load "project" file Descriptor.read = disk.load "project" file Descriptor.read := by
  -- The name is that of a descriptor, which the replaced file is not.
  obtain ⟨directory, name, rfl, named⟩ := source.named
  exact same.load_eq (FileKind.passes same role directory named differ) _ _

/-- Loading a project opens no other descriptor than its own. -/
theorem passes_of_project (project : kind = .project) (passed : disk.reaches place file = false) :
    opens disk place file = false := by
  subst project
  simp only [opens, opened, List.any_cons, passed, Bool.false_or]
  split
  · rename_i d loaded
    have style := descriptor_style (Logged.found?_eq_some_iff.mp loaded) source.style_eq
    -- After the descriptor, none of the files that are opened is one.
    have listed := physical_passes same role style (by decide)
    have configured : (((configurationRoots disk d).toOption.getD []).flatMap fun root =>
        Configuration.opened disk root d.root).any (disk.reaches place) = false := by
      cases searched : configurationRoots disk d with
      | error fault => rfl
      | ok roots =>
        simp only [Except.toOption, Option.getD_some, List.any_flatMap, List.any_eq_false]
        intro root member
        rw [Bool.not_eq_true]
        exact Configuration.passes_of_kind same role (by decide) (by decide)
          (configurationRoots_style style searched root member) style
    have named : (openedSettings disk (settingsOrder
        ((Scan.findFiles disk {} d.root "*.set").toOption.getD []))).any (disk.reaches place) =
          false := by
      cases searched : Scan.findFiles disk {} d.root "*.set" with
      | error fault => rfl
      | ok files =>
        simp only [Except.toOption, Option.getD_some, List.any_eq_false, Bool.not_eq_true]
        exact settings_pass same role (by decide) searched
    simp only [openedBelow, List.any_append, List.any_cons, listed, configured, named, Bool.or_false]
  · rfl

/-- Two projects that are loaded from one location differ in what a file of the kind tells. -/
theorem keptBut_of_load (wellNamed : disk.isWellNamed = true) {p q : Project}
    (first : (load disk file).result = .ok (some p))
    (second : (load other file).result = .ok (some q)) : KeptBut disk place kind p q := by
  obtain ⟨read, configured, files, searched, named⟩ := load_some_iff.mp first
  obtain ⟨reread, reconfigured, refound, researched, renamed⟩ := load_some_iff.mp second
  -- Both descriptors are those of one file, and the searches begin beside it.
  have one : q.descriptor.file = p.descriptor.file :=
    (descriptor_file reread).trans (descriptor_file read).symm
  have root : q.descriptor.root = p.descriptor.root := congrArg Location.parent one
  have style := descriptor_style read source.style_eq
  -- What was found on the other disk is what is found on this one.
  rw [loadConfigurations_congr one] at reconfigured
  rw [root, same.findFiles_eq {} style (FileKind.not_ignoreFile role), searched] at researched
  cases researched
  refine ⟨?_, ?_, ?_, ?_, ?_⟩
  · intro differ
    rw [descriptor_kept same role source differ, read] at reread
    exact (Option.some.inj (Except.ok.inj reread)).symm
  · intro differ
    rw [loadActiveName_kept same role differ searched, named] at renamed
    exact (Except.ok.inj renamed).symm
  · intro foreign
    rw [loadConfigurations_kept same role style foreign, configured] at reconfigured
    exact (Except.ok.inj reconfigured).symm
  · exact configurations_unread same role style configured reconfigured
  · exact configurations_undescribed same role style configured reconfigured wellNamed

/-- What loads from a location without the file that differs is the same. -/
theorem load_untouched_eq :
    ((load other file).found?.filter fun p => !opens other place p.descriptor.file) =
      (load disk file).found?.filter fun p => !opens disk place p.descriptor.file := by
  -- A file that is not opened is loaded alike on both disks, and an opened one is filtered out.
  have ignored := FileKind.not_ignoreFile role
  rw [found_untouched, found_untouched, opens_eq same ignored source.style_eq]
  cases opened : opens disk place file with
  | false => rw [load_eq same ignored source.style_eq opened]
  | true => rfl

/-- Where a project loads from one disk, loading comes to an answer on the other one. -/
theorem load_completes_of_some (wellNamed : other.isWellNamed = true) {p : Project}
    (first : (load disk file).result = .ok (some p)) :
    ∃ answer, (load other file).result = .ok answer := by
  -- Both searches begin at the same directory, and find the same on both disks.
  apply (load_completes_iff wellNamed source.style_eq source.lacksNul).mpr
  intro d reread
  obtain ⟨read, configured, files, searched, _⟩ := load_some_iff.mp first
  obtain ⟨_, roots, _, listed, _⟩ := loadConfigurations_ok_iff.mp configured
  have one : d.file = p.descriptor.file := (descriptor_file reread).trans (descriptor_file read).symm
  have root : d.root = p.descriptor.root := congrArg Location.parent one
  have style := descriptor_style read source.style_eq
  have ignored := FileKind.not_ignoreFile role
  have physical : d.physical = p.descriptor.physical := by
    rw [Descriptor.physical, Descriptor.physical, root]
  constructor
  · refine ⟨roots, ?_⟩
    rw [configurationRoots, physical, ← configurationRoots,
      configurationRoots_eq same ignored (Descriptor.physical_style style), listed]
  · exact ⟨files, by rw [root, same.findFiles_eq {} style ignored, searched]⟩

/-- Replacing a file that is no descriptor keeps projects but for what a file of its kind tells. -/
theorem load_kept (differ : kind ≠ .project) (wellNamed : disk.isWellNamed = true)
    (again : other.isWellNamed = true) {answer : Option Project}
    (first : (load disk file).result = .ok answer) : ∃ reloaded,
      (load other file).result = .ok reloaded ∧
        Option.Rel (KeptBut disk place kind) answer reloaded := by
  -- The descriptor decides whether there is a project, and it is the same on both disks.
  have absent : (load other file).result = .ok none ↔ (load disk file).result = .ok none := by
    rw [load_none_iff, load_none_iff, descriptor_kept same role source differ]
  cases answer with
  | none => exact ⟨none, absent.mpr first, Option.Rel.none⟩
  | some p =>
    -- Where there is a project on one disk, there is one on the other too.
    obtain ⟨reloaded, second⟩ := load_completes_of_some same role source again first
    cases reloaded with
    | none =>
      rw [absent.mp second] at first
      cases first
    | some q => exact ⟨some q, second, Option.Rel.some
        (keptBut_of_load same role source wellNamed first second)⟩

end

end Project

end AutomationIndex
