import AutomationIndex.Project.Configuration
import AutomationIndex.Scan.Find

/-! Projects: a descriptor, the configurations that load, and the one that a user works with. -/

namespace AutomationIndex

/-- A project. -/
structure Project where
  descriptor : Descriptor
  configurations : List Configuration
  /-- The name of the configuration that a user works with. -/
  activeName : Option String

namespace Project

/-- The root directory. -/
def root (p : Project) : Location :=
  p.descriptor.root

/-- The name of a project is that of its descriptor. -/
def name (p : Project) : String :=
  p.descriptor.file.stem

/-- The configuration with a name. -/
def configuration? (p : Project) (name : String) : Option Configuration :=
  p.configurations.find? fun c => c.name == name

/-- The configuration that a user works with, if it loads. -/
def active? (p : Project) : Option Configuration :=
  p.activeName.bind p.configuration?

/-- The configuration whose directory contains a location most closely. -/
def owner? (p : Project) (l : Location) : Option Configuration :=
  (l.deepestContaining (p.configurations.map (·.root)) true).bind fun root =>
    p.configurations.find? fun c => c.root.same root

/-- The configuration for a location: the one that contains it, and else the active one. -/
def configurationFor? (p : Project) (l : Location) : Option Configuration :=
  (p.owner? l).or p.active?

/-- The name of the file that lists the configurations. -/
def physicalPackageName : String := "Physical.pkg"

/-- The name of the settings of the last user. -/
def lastUserName : String := "LastUser.set"

/-- The directories that hold the package of a configuration. -/
def configurationRoots (disk : Disk) (d : Descriptor) : Except SearchFault (List Location) := do
  let packages ← Scan.findFiles disk {} d.physical ("*/" ++ Configuration.packageName)
  return packages.map Location.parent

/-- The names that a list of configurations declares, without repetitions. -/
def declaredNames (physical : Option PhysicalPackage) : List String :=
  match physical with
  | some p => (p.configurations.map (·.name)).eraseDups
  | none => []

/-- Directories in the order of configurations: first those that are declared, in the order of their
declarations, and then the others in the order of their names. -/
def inOrder (declared : List String) (roots : List Location) : List Location :=
  (declared.filterMap fun name => roots.find? fun root => root.name == name) ++
    (roots.filter fun root => !declared.contains root.name).mergeSort
      fun a b => !decide (b.name < a.name)

/-- Loads the configurations; one that does not load is left out. -/
def loadConfigurations (disk : Disk) (d : Descriptor) :
    Logged SearchFault (List Configuration) := do
  let physical ← (disk.load Role.physical.kind (d.physical / physicalPackageName)
    PhysicalPackage.read).mapFault .disk
  -- Without a readable physical package the directories alone give the configurations.
  let roots ← .ofExcept (configurationRoots disk d)
  -- The declared order comes first, and what it does not name follows by name.
  Logged.collect (fun root => (Configuration.load disk root d.root
    (physical.bind (·.description? root.name))).mapFault .disk)
    (inOrder (declaredNames physical) roots)

/-- The settings files in the order in which they count: those of the last user first. -/
def settingsOrder (files : List Location) : List Location :=
  files.filter (·.name == lastUserName) ++ files.filter (·.name != lastUserName)

/-- The first configuration that one of the settings files names. -/
def loadActiveName (disk : Disk) : List Location → Logged DiskFault (Option String)
  | [] => pure none
  | file :: files => do
    let settings ← disk.load "user settings" file UserSettings.read
    match settings.bind (·.active) with
    -- The first file that names one decides; the later ones are not read.
    | some name => return some name
    | none => loadActiveName disk files

/-- Loads a project from its descriptor. -/
def load (disk : Disk) (file : Location) : Logged SearchFault (Option Project) := do
  let descriptor ← (disk.load "project" file Descriptor.read).mapFault .disk
  match descriptor with
  | none => return none
  | some descriptor =>
    let configurations ← loadConfigurations disk descriptor
    -- The settings files are looked for only once the configurations are read.
    let files ← .ofExcept (Scan.findFiles disk {} descriptor.root "*.set")
    let active ← (loadActiveName disk (settingsOrder files)).mapFault .disk
    return some ⟨descriptor, configurations, active⟩

end Project

end AutomationIndex
