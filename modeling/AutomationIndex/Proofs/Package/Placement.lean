import AutomationIndex.Proofs.Location.Joined
import AutomationIndex.Proofs.Package.Written
import AutomationIndex.Proofs.Project.Completion
import AutomationIndex.Proofs.Text.Encoding
import AutomationIndex.Proofs.Text.LineEnds

/-! Where declared objects are found, and which of them are found outside of their directory. -/

namespace AutomationIndex

open Location

/-- The names of the files and directories of a project name children in either style. -/
theorem layout_isChildName (style : PathStyle) :
    IsChildName style "Physical" ∧ IsChildName style Configuration.packageName ∧
      IsChildName style Configuration.cpuPackageName := by
  refine ⟨⟨by decide, by decide, by simp, ?_⟩,
    ⟨by decide, by decide, by simp [Configuration.packageName], ?_⟩,
    ⟨by decide, by decide, by simp [Configuration.cpuPackageName], ?_⟩⟩
  all_goals cases style <;> decide

namespace ChildObject

variable {object : ChildObject} {projectRoot file : Location}

/-- The directory in which an object is to be found by its name, if it is no reference. -/
def neighbourhood (object : ChildObject) (projectRoot file : Location) : Location :=
  if object.type == "Configuration" then projectRoot.below ["Physical"] else file.parent

/-- An object that is no reference is found by joining its name to a directory. -/
theorem location_eq_join (own : object.isReference = false) :
    object.location projectRoot file = object.neighbourhood projectRoot file / object.name := by
  have physical : projectRoot / "Physical" = projectRoot.below ["Physical"] :=
    join_child (layout_isChildName projectRoot.style).1
  simp only [location, neighbourhood, own, Bool.false_eq_true, if_false, physical]
  split <;> rfl

/-- Whether the name of an object keeps to its directory decides where the object is found. -/
theorem location_eq_ite (own : object.isReference = false) :
    let directory := object.neighbourhood projectRoot file
    let named := ofText directory.style object.name
    object.location projectRoot file =
      if named.KeepsTo directory then directory.below named.segments
      else named.onDriveOf directory :=
  (location_eq_join own).trans (join_eq _ _)

/-- A reference is found at the project root or below it, without climbing on the way. -/
theorem location_reference (reference : object.isReference = true) : ∃ names : List String,
    ".." ∉ names ∧ object.location projectRoot file = projectRoot.below names := by
  refine ⟨fragmentSegments projectRoot.style object.name, fun climbs => ?_, ?_⟩
  · exact (fragmentSegments_leadDown _ _ _ climbs).2 rfl
  · rw [location, if_pos reference, joinProjectRelative_eq]

end ChildObject

namespace Configuration

variable {disk : Disk} {root projectRoot : Location} {description : Option String}
  {c : Configuration}

/-- A configuration that loads has the package in its directory, and the controller that this
package leads to. -/
theorem load_files (loaded : (load disk root projectRoot description).result = .ok (some c)) :
    c.package.file = root.below [packageName] ∧
      c.cpu.file = c.package.cpuDirectory projectRoot / cpuPackageName := by
  -- A loaded configuration comes from its package file and its controller's file.
  obtain ⟨package, cpu, read, reached, rfl⟩ := Project.configuration_some_iff.mp loaded
  obtain ⟨_, _, packaged⟩ := Disk.load_some_iff.mp read
  obtain ⟨_, _, controlled⟩ := Disk.load_some_iff.mp reached
  rw [← join_child (layout_isChildName root.style).2.1]
  exact ⟨(ConfigurationPackage.read_file packaged).1, CpuPackage.read_file controlled⟩

/-- The controller of a configuration is no configuration, so it is looked for beside the
package. -/
theorem cpu_neighbourhood
    (loaded : (load disk root projectRoot description).result = .ok (some c)) :
    c.package.cpu.neighbourhood projectRoot c.package.file = root := by
  -- The controller is an object of type `Cpu`, which decides what it is placed next to.
  have among : c.package.cpu ∈ c.package.childrenOfType "Cpu" :=
    c.package.cpus_eq ▸ List.mem_singleton_self _
  have type : c.package.cpu.type = "Cpu" := by simpa using List.of_mem_filter among
  rw [ChildObject.neighbourhood, type, (load_files loaded).1, parent_below_single]
  rfl

/-- The package of a controller is read from the directory that the name of the controller leads
to. -/
theorem cpu_file_eq (loaded : (load disk root projectRoot description).result = .ok (some c))
    (own : c.package.cpu.isReference = false) :
    let named := ofText root.style c.package.cpu.name
    c.cpu.file = (if named.KeepsTo root then root.below named.segments
      else named.onDriveOf root).below [cpuPackageName] := by
  -- A controller that is no reference is placed by its own name.
  have placed : c.package.cpuDirectory projectRoot = _ := ChildObject.location_eq_ite own
  rw [cpu_neighbourhood loaded] at placed
  rw [(load_files loaded).2, join_child (layout_isChildName _).2.2, placed]

end Configuration

/-- A reference is found at the project root or below it. Any other object is found below its
directory if its name keeps to the directory, strictly if the name has a segment, and else where the
name says; a posix name keeps to any directory unless it begins with a slash. The name of a
controller decides the same way where its package is read. -/
theorem ChildObject.location_compared (object : ChildObject) (projectRoot file : Location) :
    let directory := object.neighbourhood projectRoot file
    let named := ofText directory.style object.name
    (object.isReference = true → ∃ names : List String, ".." ∉ names ∧
      object.location projectRoot file = projectRoot.below names) ∧
    (object.isReference = false → named.KeepsTo directory →
      object.location projectRoot file = directory.below named.segments ∧
        ((object.location projectRoot file).LiesBelow directory ↔ named.segments ≠ [])) ∧
    (object.isReference = false → ¬ named.KeepsTo directory →
      object.location projectRoot file = named.onDriveOf directory) ∧
    (directory.style = .posix →
      (named.KeepsTo directory ↔ object.name.toList.head? ≠ some '/')) ∧
    ∀ disk root description c,
      (Configuration.load disk root projectRoot description).result = .ok (some c) →
        c.package.cpu.isReference = false →
          let called := ofText root.style c.package.cpu.name
          (called.KeepsTo root → c.cpu.file = root.below (called.segments ++ ["Cpu.pkg"]) ∧
            c.cpu.file.LiesBelow root) ∧
          (¬ called.KeepsTo root → c.cpu.file = (called.onDriveOf root).below ["Cpu.pkg"]) := by
  intro directory named
  refine ⟨location_reference, ?_, ?_, ?_, ?_⟩
  · intro own keeps
    have placed : object.location projectRoot file = directory.below named.segments :=
      (location_eq_ite own).trans (if_pos keeps)
    exact ⟨placed, placed ▸ below_liesBelow_iff directory named.segments⟩
  · intro own leaves
    exact (location_eq_ite own).trans (if_neg leaves)
  · intro style
    simp only [named, style]
    exact keepsTo_posix_iff
  · intro disk root description c loaded own called
    have read := Configuration.cpu_file_eq loaded own
    constructor
    · intro keeps
      -- The name of the package file makes the way down longer, even where the name adds nothing.
      have inside : c.cpu.file = root.below (called.segments ++ ["Cpu.pkg"]) := by
        rw [read, if_pos keeps]
        simp [below, called, Configuration.cpuPackageName]
      exact ⟨inside, inside ▸ (below_liesBelow_iff root _).mpr (by simp)⟩
    · intro leaves
      rw [read, if_neg leaves]
      rfl

/-- A controller that is declared with no more than its name. -/
def controllerNamed (name : String) : ChildObject :=
  ⟨"Cpu", name, none, false, none⟩

/-- A declaration of a controller with a name from the root of the disk is read as an object that is
found where the name says, and not below the directory of the file. -/
theorem ChildObject.location_leaves :
    let object := controllerNamed "/elsewhere/X"
    let found := object.location (posix "/proj") (posix "/proj/Physical/Out/Config.pkg")
    ChildObject.read 0 ⟨"Object", [("Type", "Cpu")], "/elsewhere/X", []⟩ = .ok object ∧
      found = posix "/elsewhere/X" ∧ ¬ found.LiesBelow (posix "/proj/Physical/Out") := by
  decide

/-- A package file with a name that is read, and without namespace and versions. -/
def plainOutline (rootType : String) (proper : Xml.isName rootType.toList = true)
    (objects : List ChildObject) (sound : ∀ o ∈ objects, o.IsDeclarable) : PackageOutline where
  rootType
  uri := none
  header := {}
  objects
  -- The outline has no namespace and an empty header, so their conditions hold of nothing.
  rootType_name := Xml.isWideName_of_isName proper
  uri_readable := nofun
  header_sound := ⟨nofun, nofun, nofun⟩
  objects_sound := sound

/-- The root element of such a file is one that is read. -/
theorem plainOutline_isSupported {rootType : String} {proper : Xml.isName rootType.toList = true}
    {objects : List ChildObject} {sound : ∀ o ∈ objects, o.IsDeclarable} :
    (plainOutline rootType proper objects sound).IsSupported :=
  ⟨proper, nofun⟩

/-- A file with the bytes of a text that begins with a bracket and has no carriage returns loads as what
is read from the text. -/
theorem Disk.load_written {α : Type} {disk : Disk} {kind : String} {l : Location} {chars : List Char}
    {read : Location → Xml.Source → Except ContentFault α} {a : α}
    (held : disk.bytesOf l = .ok (String.ofList chars).toUTF8.toList)
    (begins : chars.head? = some '<') (kept : (chars.all (· != '\r')) = true)
    (reads : read l (Xml.Source.ofText (String.ofList chars)) = .ok a) :
    (disk.load kind l read).result = .ok (some a) := by
  have lacks : '\r' ∉ (String.ofList chars).toList := by
    rw [String.toList_ofList]
    intro member
    simpa using List.all_eq_true.mp kept _ member
  -- Without carriage returns there is no line end to unify.
  have decoded : markedText (String.ofList chars).toUTF8.toList = .ok (String.ofList chars) := by
    rw [markedText_toUTF8 (by simpa using begins), Text.unifyLineEnds_eq_self lacks,
      String.ofList_toList]
  refine Disk.load_some_iff.mpr ⟨String.ofList chars, ?_, reads⟩
  simp only [readText, held, decoded]
  rfl

/-- A written package without carriage returns loads as what is read from its text. -/
theorem PackageOutline.load_written (outline : PackageOutline) {α : Type} {disk : Disk}
    {kind : String} {l : Location} {read : Location → Xml.Source → Except ContentFault α} {a : α}
    (held : disk.bytesOf l = .ok outline.text.toUTF8.toList)
    (kept : (outline.chars.all (· != '\r')) = true)
    (reads : read l (Xml.Source.ofText outline.text) = .ok a) :
    (disk.load kind l read).result = .ok (some a) :=
  Disk.load_written held rfl kept reads

/-- The package of a configuration with one controller. -/
def configurationOutline (name : String) (sound : (controllerNamed name).IsDeclarable) :
    PackageOutline :=
  plainOutline "Configuration" (by decide) [controllerNamed name]
    (List.forall_mem_singleton.mpr sound)

/-- The package of a controller without settings. -/
def controllerOutline : PackageOutline :=
  plainOutline "Cpu" (by decide) [] (List.forall_mem_nil _)

/-- A controller can be declared if its name has no blanks around it and can be written. -/
theorem controllerNamed_isDeclarable {name : String} (some : name ≠ "")
    (stripped : Text.strip name = name) (readable : Xml.IsReadable name.toList) :
    (controllerNamed name).IsDeclarable :=
  ⟨(by decide : "Cpu" ≠ ""), some, stripped, nofun, nofun,
    (by decide : Xml.IsReadable "Cpu".toList), readable, nofun, nofun⟩

/-- A controller beside its configuration can be declared. -/
theorem beside_isDeclarable : (controllerNamed "X").IsDeclarable :=
  controllerNamed_isDeclarable (by decide) (by decide) (by decide)

/-- A controller that is named from the root of the disk can be declared. -/
theorem elsewhere_isDeclarable : (controllerNamed "/elsewhere/X").IsDeclarable :=
  controllerNamed_isDeclarable (by decide) (by decide) (by decide)

/-- Two configurations, one of which has no controller in its directory. -/
def controllersDisk : Disk where
  -- One controller stands beside its configuration and one elsewhere, where an absolute name leads.
  root := .directory [
    ("elsewhere", .directory [
      ("X", .directory [("Cpu.pkg", .file controllerOutline.text.toUTF8.toList)])]),
    ("proj", .directory [("Physical", .directory [
      ("In", .directory [
        ("Config.pkg", .file (configurationOutline "X" beside_isDeclarable).text.toUTF8.toList),
        ("X", .directory [("Cpu.pkg", .file controllerOutline.text.toUTF8.toList)])]),
      ("Out", .directory [("Config.pkg", .file
        (configurationOutline "/elsewhere/X" elsewhere_isDeclarable).text.toUTF8.toList)])])])]

/-- The package of a configuration that declares one controller by its name. -/
def ConfigurationPackage.naming (file : Location) (name : String) : ConfigurationPackage :=
  ⟨⟨file, "Configuration", [controllerNamed name], {}⟩, controllerNamed name, rfl, rfl⟩

/-- A written package of a configuration is read as one that declares the controller. -/
theorem ConfigurationPackage.read_written (file : Location) {name : String}
    (sound : (controllerNamed name).IsDeclarable) :
    ConfigurationPackage.read file (Xml.Source.ofText (configurationOutline name sound).text) =
      .ok (naming file name) := by
  obtain ⟨_, declared, _⟩ :=
    (configurationOutline name sound).read_text plainOutline_isSupported
  -- The text is read back, and its root and objects are those of the configuration.
  rw [ConfigurationPackage.read, declared]
  rfl

/-- A written package of a controller without settings is read as such. -/
theorem CpuPackage.read_bare (file : Location) :
    CpuPackage.read file (Xml.Source.ofText controllerOutline.text) =
      .ok ⟨⟨file, "Cpu", [], {}⟩, {}, rfl⟩ := by
  obtain ⟨root, bare, unset⟩ := controllerOutline.read_text plainOutline_isSupported
  -- A package has settings only in a section of its own.
  have unsettled : CpuSettings.read root = .ok {} := by
    rw [CpuSettings.read, unset "Configuration" (by decide)]
  exact exceptBind_ok_iff.mpr ⟨_, bare, exceptBind_ok_iff.mpr ⟨_, congrArg _ unsettled, rfl⟩⟩

/-- A configuration loads from the package that declares its controller and from the package of the
controller. -/
theorem Configuration.load_written {disk : Disk} {root projectRoot : Location} {name : String}
    (sound : (controllerNamed name).IsDeclarable) {cpu : CpuPackage}
    (kept : ((configurationOutline name sound).chars.all (· != '\r')) = true)
    (held : disk.bytesOf (root / packageName) =
      .ok (configurationOutline name sound).text.toUTF8.toList)
    (controller : (disk.load Role.cpu.kind ((root / packageName).parent / name / cpuPackageName)
      CpuPackage.read).result = .ok (some cpu)) (description : Option String) :
    (load disk root projectRoot description).result = .ok (some
      ⟨root.name, root, .naming (root / packageName) name, cpu, description⟩) := by
  -- The package file is the outline as written; the rest of the load is the controller's.
  have packaged : (disk.load Role.configuration.kind (root / packageName)
      ConfigurationPackage.read).result = .ok (some (.naming (root / packageName) name)) :=
    (configurationOutline name sound).load_written held kept
      (ConfigurationPackage.read_written _ sound)
  exact Project.configuration_some_iff.mpr ⟨_, cpu, packaged, controller, rfl⟩

/-- A configuration whose controller has no settings loads from the two packages. -/
theorem controller_loads {disk : Disk} {root projectRoot : Location} {name : String}
    (sound : (controllerNamed name).IsDeclarable)
    (kept : ((configurationOutline name sound).chars.all (· != '\r')) = true)
    (package : disk.bytesOf (root / Configuration.packageName) =
      .ok (configurationOutline name sound).text.toUTF8.toList)
    (controller : disk.bytesOf ((root / Configuration.packageName).parent / name /
      Configuration.cpuPackageName) = .ok controllerOutline.text.toUTF8.toList) :
    ∃ c, (Configuration.load disk root projectRoot none).result = .ok (some c) ∧
      c.package.cpu = controllerNamed name := by
  have bare : (disk.load Role.cpu.kind ((root / Configuration.packageName).parent / name /
      Configuration.cpuPackageName) CpuPackage.read).result = _ :=
    controllerOutline.load_written controller (by decide) (CpuPackage.read_bare _)
  exact ⟨_, Configuration.load_written sound kept package bare none, rfl⟩

/-- The controller of the one configuration is read in its directory, that of the other is not. -/
theorem ChildObject.location_compared_controllersDisk :
    let projectRoot := posix "/proj"
    (∃ c, (Configuration.load controllersDisk (posix "/proj/Physical/In") projectRoot none).result =
        .ok (some c) ∧ c.cpu.file = posix "/proj/Physical/In/X/Cpu.pkg" ∧
      c.cpu.file.LiesBelow (posix "/proj/Physical/In")) ∧
    ∃ c, (Configuration.load controllersDisk (posix "/proj/Physical/Out") projectRoot none).result =
        .ok (some c) ∧ c.cpu.file = posix "/elsewhere/X/Cpu.pkg" ∧
      ¬ c.cpu.file.LiesBelow (posix "/proj/Physical/Out") := by
  intro projectRoot
  -- Both objects are placed by the one comparison, which is asked for each name.
  have located := (location_compared (controllerNamed "X") projectRoot
    (posix "/proj/Physical/In/Config.pkg")).2.2.2.2 controllersDisk
  constructor
  · obtain ⟨c, loaded, named⟩ : ∃ c, (Configuration.load controllersDisk
        (posix "/proj/Physical/In") projectRoot none).result = .ok (some c) ∧
          c.package.cpu = controllerNamed "X" :=
      controller_loads beside_isDeclarable (by decide) rfl rfl
    have beside := (located _ _ c loaded (by rw [named]; rfl)).1
    rw [named] at beside
    obtain ⟨file, below⟩ := beside (keepsTo_posix_iff.mpr (by decide))
    exact ⟨c, loaded, file.trans (by decide), below⟩
  · obtain ⟨c, loaded, named⟩ : ∃ c, (Configuration.load controllersDisk
        (posix "/proj/Physical/Out") projectRoot none).result = .ok (some c) ∧
          c.package.cpu = controllerNamed "/elsewhere/X" :=
      controller_loads elsewhere_isDeclarable (by decide) rfl rfl
    have elsewhere := (located _ _ c loaded (by rw [named]; rfl)).2
    rw [named] at elsewhere
    have file := elsewhere fun keeps => keepsTo_posix_iff.mp keeps (by decide)
    exact ⟨c, loaded, file.trans (by decide), by rw [file]; decide⟩

end AutomationIndex
