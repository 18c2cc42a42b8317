import AutomationIndex.Disk.Read
import AutomationIndex.Project.BuildInfo

/-! The configurations of a project: each has a directory, a package and a controller. -/

namespace AutomationIndex

/-- A configuration of a project. -/
structure Configuration where
  name : String
  /-- The directory of the configuration. -/
  root : Location
  package : ConfigurationPackage
  cpu : CpuPackage
  description : Option String

namespace Configuration

/-- The name of a configuration's package file. -/
def packageName : String := "Config.pkg"

/-- The name of a controller's package file. -/
def cpuPackageName : String := "Cpu.pkg"

/-- The directory of the controller. -/
def cpuDirectory (c : Configuration) : Location :=
  c.cpu.directory

/-- Tells that a configuration is left out because of one of its files, and leaves it out. -/
def skip (name file : String) : Logged DiskFault (Option Configuration) := do
  .record .warning "asindexer.workspace.configuration"
    ("Skipping configuration " ++ name ++ ": invalid " ++ file)
  return none

/-- Loads a configuration from its directory; it needs both of its packages. -/
def load (disk : Disk) (root projectRoot : Location) (description : Option String) :
    Logged DiskFault (Option Configuration) := do
  let package ← disk.load Role.configuration.kind (root / packageName) ConfigurationPackage.read
  match package with
  | none => skip root.name packageName
  | some package =>
    -- The package file says where the controller's directory is.
    let cpuFile := package.cpuDirectory projectRoot / cpuPackageName
    let cpu ← disk.load Role.cpu.kind cpuFile CpuPackage.read
    match cpu with
    | none => skip root.name cpuPackageName
    | some cpu => return some ⟨root.name, root, package, cpu, description⟩

/-- What a compiler needs to know to build with the configuration. -/
def buildInfo (c : Configuration) (projectRoot : Location) (dedupe : Bool) : BuildInfo where
  projectRoot := projectRoot
  configuration := c.name
  moduleId := c.cpu.settings.moduleId
  gccVersion := c.cpu.settings.build.bind (·.gccVersion)
  includeDirectories := c.cpu.includeDirectories dedupe projectRoot
  options := c.cpu.buildOptions

end Configuration

end AutomationIndex
