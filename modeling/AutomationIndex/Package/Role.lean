import AutomationIndex.Package.Cpu

/-! The roles of package files in a project, and what each role demands. -/

namespace AutomationIndex

/-- The role of a package file in a project. -/
inductive Role where
  | generic
  | physical
  | configuration
  | cpu
  deriving DecidableEq, Repr

namespace Role

/-- The role that the name of a file gives it, in any case. -/
def ofLocation (file : Location) : Role :=
  match Text.toSmall file.name with
  | "physical.pkg" => physical
  | "config.pkg" => configuration
  | "cpu.pkg" => cpu
  | _ => generic

/-- The type that the root element of a file has to have. -/
def rootType? : Role → Option String
  | generic => none
  | physical => some "Physical"
  | configuration => some "Configuration"
  | cpu => some "Cpu"

/-- What a file in a role is called. -/
def kind : Role → String
  | generic => "package"
  | physical => "Physical package"
  | configuration => "Config package"
  | cpu => "Cpu package"

end Role

/-- A package file. -/
structure PackageFile where
  file : Location
  rootType : String
  children : List ChildObject
  header : Header
  deriving DecidableEq, Repr

namespace PackageFile

/-- The declared objects of a type, in order. -/
def childrenOfType (p : PackageFile) (type : String) : List ChildObject :=
  p.children.filter fun child => child.type == type

/-- Where the declared objects are, in order. -/
def childLocations (p : PackageFile) (projectRoot : Location) : List Location :=
  p.children.map fun child => child.location projectRoot p.file

/-- The directory of the file. -/
def directory (p : PackageFile) : Location :=
  p.file.parent

end PackageFile

/-- The package that lists the configurations of a project. -/
structure PhysicalPackage extends PackageFile where
  root_eq : rootType = "Physical"

/-- The package of a configuration, which declares one controller. -/
structure ConfigurationPackage extends PackageFile where
  cpu : ChildObject
  root_eq : rootType = "Configuration"
  cpus_eq : toPackageFile.childrenOfType "Cpu" = [cpu]

/-- The package of a controller. -/
structure CpuPackage extends PackageFile where
  settings : CpuSettings
  root_eq : rootType = "Cpu"

namespace PhysicalPackage

/-- The configurations that are declared, in order. -/
def configurations (p : PhysicalPackage) : List ChildObject :=
  p.childrenOfType "Configuration"

/-- The description that a configuration is first declared with. -/
def description? (p : PhysicalPackage) (name : String) : Option String :=
  (p.configurations.find? fun child => child.name == name).bind (·.description)

/-- A package file taken for the list of configurations. -/
def check (p : PackageFile) : Except RoleFault PhysicalPackage :=
  if h : p.rootType = "Physical" then .ok { p with root_eq := h }
  else .error (.rootType p.rootType "Physical")

end PhysicalPackage

namespace ConfigurationPackage

/-- The directory of the controller's package. -/
def cpuDirectory (p : ConfigurationPackage) (projectRoot : Location) : Location :=
  p.cpu.location projectRoot p.file

/-- A package file taken for that of a configuration. -/
def check (p : PackageFile) : Except RoleFault ConfigurationPackage :=
  -- The checked facts are kept with the package: nothing later asks for the root or the cpu again.
  if h : p.rootType = "Configuration" then
    match found : p.childrenOfType "Cpu" with
    | [] => .error .noCpu
    | [cpu] => .ok { p with cpu, root_eq := h, cpus_eq := found }
    | cpus => .error (.severalCpus cpus.length)
  else .error (.rootType p.rootType "Configuration")

end ConfigurationPackage

namespace CpuPackage

/-- A package file taken for that of a controller with the given settings. -/
def check (p : PackageFile) (settings : CpuSettings) : Except RoleFault CpuPackage :=
  if h : p.rootType = "Cpu" then .ok { p with settings, root_eq := h }
  else .error (.rootType p.rootType "Cpu")

end CpuPackage

/-- A package file in its role. -/
inductive Package where
  | generic (p : PackageFile)
  | physical (p : PhysicalPackage)
  | configuration (p : ConfigurationPackage)
  | cpu (p : CpuPackage)

namespace Package

/-- The role of a package. -/
def role : Package → Role
  | generic _ => .generic
  | physical _ => .physical
  | configuration _ => .configuration
  | cpu _ => .cpu

/-- What a package has in any role. -/
def base : Package → PackageFile
  | generic p => p
  | physical p => p.toPackageFile
  | configuration p => p.toPackageFile
  | cpu p => p.toPackageFile

/-- A package file taken for one in a role. The settings matter for a controller only. -/
def check (role : Role) (p : PackageFile) (settings : CpuSettings) : Except RoleFault Package :=
  match role with
  | .generic => .ok (generic p)
  | .physical => (PhysicalPackage.check p).map physical
  | .configuration => (ConfigurationPackage.check p).map configuration
  | .cpu => (CpuPackage.check p settings).map cpu

end Package

/-- A role fault as the fault of a file. -/
def RoleFault.inFile (file : Location) {α : Type} (result : Except RoleFault α) :
    Except ContentFault α :=
  result.mapError fun fault => .role fault file

/-- The package file that a document is. -/
def PackageDocument.toFile (document : PackageDocument) (file : Location) : PackageFile :=
  ⟨file, document.rootType, document.children, document.header⟩

namespace PhysicalPackage

/-- Reads the list of configurations. -/
def read (file : Location) (source : Xml.Source) : Except ContentFault PhysicalPackage := do
  let document ← PackageDocument.read source
  RoleFault.inFile file (check (document.toFile file))

end PhysicalPackage

namespace ConfigurationPackage

/-- Reads the package of a configuration. -/
def read (file : Location) (source : Xml.Source) : Except ContentFault ConfigurationPackage := do
  let document ← PackageDocument.read source
  RoleFault.inFile file (check (document.toFile file))

end ConfigurationPackage

namespace CpuPackage

/-- Reads the package of a controller. -/
def read (file : Location) (source : Xml.Source) : Except ContentFault CpuPackage := do
  let document ← PackageDocument.read source
  let settings ← (CpuSettings.read document.root).mapError ContentFault.layout
  RoleFault.inFile file (check (document.toFile file) settings)

end CpuPackage

/-- Reads a package in a role. -/
def Package.read (role : Role) (file : Location) (source : Xml.Source) :
    Except ContentFault Package :=
  match role with
  | .generic => (PackageDocument.read source).map fun document => .generic (document.toFile file)
  | .physical => (PhysicalPackage.read file source).map .physical
  | .configuration => (ConfigurationPackage.read file source).map .configuration
  | .cpu => (CpuPackage.read file source).map .cpu

end AutomationIndex
