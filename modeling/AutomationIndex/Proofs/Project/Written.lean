import AutomationIndex.Proofs.Package.Placement
import AutomationIndex.Proofs.Scan.Listed

/-! Written files that a project is loaded from besides its lists of objects: the settings of a user, the
package of a controller with its settings, and a descriptor that says nothing. -/

namespace AutomationIndex

open Xml

section

variable {name inner : List Char} {uri : Option (List Char)} {root : Element} {text : String}

/-- A written file without versions is read as its root element. -/
theorem MarkedUp.read_written (proper : isName name = true)
    (sound : ∀ text ∈ uri, IsNamespace text ∧ IsReadable text) (within : IsReadable inner)
    (written : text.toList = documentText "AutomationStudio".toList [] name uri inner)
    (makes : Makes (Source.ofText text) name uri inner root) :
    MarkedUp.read (Source.ofText text) = .ok ⟨root, {}⟩ := by
  have header : Header.IsSound {} := by
    refine ⟨?_, ?_, ?_⟩ <;> rintro _ ⟨⟩
  have instruction : IsInstruction "AutomationStudio".toList [] :=
    Header.data_isInstruction header
  -- The instruction for the versions is there and says nothing.
  have read := documentRead_ofText instruction (List.forall_mem_nil _) proper sound within written
    makes
  rw [MarkedUp.read, read]
  rfl

end

namespace Project

/-- The section of settings that names a configuration, as it is written. -/
def managerText (active : String) : List Char :=
  leafText "ConfigurationManager".toList [("ActiveConfigurationName".toList, active.toList)] []

/-- Settings that name a configuration, as they are written. -/
def settingsText (active : String) : String :=
  String.ofList (documentText "AutomationStudio".toList [] "ProjectSettings".toList none
    (managerText active))

/-- The root element that settings in a namespace are read as, with the section in it. -/
def settingsRoot (uri : Option (List Char)) (active : String) : Element :=
  let spelt := fullName ((rootScope uri).namespace? [])
  ⟨spelt "ProjectSettings".toList, [], "",
    [⟨spelt "ConfigurationManager".toList, [("ActiveConfigurationName", active)], "", []⟩]⟩

/-- The root element of settings has their name. -/
theorem settingsRoot_name (uri : Option (List Char)) (active : String) :
    (settingsRoot uri active).name = "ProjectSettings" :=
  (localName_fullName _ (by decide)).trans String.ofList_toList

/-- What is in the root element is the section that names a configuration. -/
theorem settingsRoot_managers (uri : Option (List Char)) (active : String) :
    (settingsRoot uri active).childrenNamed "ConfigurationManager" =
      (settingsRoot uri active).children := by
  refine List.filter_eq_self.mpr (List.forall_mem_singleton.mpr (beq_iff_eq.mpr ?_))
  exact (localName_fullName _ (by decide)).trans String.ofList_toList

/-- The word that names a configuration can be an attribute. -/
theorem activeWord_isName : isName "ActiveConfigurationName".toList = true := by
  decide

/-- The section is read as its element. -/
theorem managerText_makes (source : Source) (uri : Option (List Char)) (active : String) :
    Makes source "ProjectSettings".toList uri (managerText active) (settingsRoot uri active) := by
  -- The attribute is not taken for a namespace.
  have apart : "ActiveConfigurationName".toList ≠ ['x', 'm', 'l', 'n', 's'] := by decide
  have named : AreAttributes [("ActiveConfigurationName".toList, active.toList)] :=
    ⟨List.forall_mem_singleton.mpr activeWord_isName, List.forall_mem_singleton.mpr apart,
      List.nodup_singleton _⟩
  refine ⟨_, _, _, rfl, ?_, takes_leaf (by decide) named rfl []⟩
  simp [OpenElement.addChild, OpenElement.addText, OpenElement.close, settingsRoot, rootOpening]

/-- Settings that are written in a namespace, or in none, are read as their elements. -/
theorem settings_marked {uri : Option (List Char)} {active text : String}
    (sound : ∀ text ∈ uri, IsNamespace text ∧ IsReadable text) (readable : IsReadable active.toList)
    (written : text.toList = documentText "AutomationStudio".toList [] "ProjectSettings".toList uri
      (managerText active)) :
    MarkedUp.read (Source.ofText text) = .ok ⟨settingsRoot uri active, {}⟩ := by
  -- Names and tags are read as they are; the value is readable by assumption.
  have within : IsReadable (managerText active) :=
    (startTagText_readable (by decide)
      (List.forall_mem_singleton.mpr ⟨activeWord_isName, readable⟩)).append
        (endTagText_readable (by decide))
  exact MarkedUp.read_written (by decide) sound within written (managerText_makes _ uri active)

/-- Written settings are read as settings that name the configuration. -/
theorem userSettings_read {active : String} (some : active ≠ "")
    (readable : IsReadable active.toList) (file : Location) :
    UserSettings.read file (Source.ofText (settingsText active)) = .ok ⟨file, {}, active⟩ := by
  -- The written text reads as its root, and the root names the active configuration.
  have read : MarkedUp.read (Source.ofText (settingsText active)) = .ok ⟨settingsRoot none active, {}⟩ :=
    settings_marked nofun readable String.toList_ofList
  have told : UserSettings.active? (settingsRoot none active) = .some active := by
    rw [UserSettings.active?, settingsRoot_managers]
    simp [settingsRoot, Element.attribute?, Element.attributes, Element.children,
      Attribute.nonempty, some]
  simp [UserSettings.read, read, settingsRoot_name, told, bind, Except.bind]

end Project

/-- Attributes as they are written. -/
def writtenAttributes (attributes : List (String × String)) : List (List Char × List Char) :=
  attributes.map fun entry => (entry.1.toList, entry.2.toList)

/-- Whether attributes can be written: they have proper names, all different, and readable values. -/
structure AreWritable (attributes : List (String × String)) : Prop where
  areAttributes : AreAttributes (writtenAttributes attributes)
  readable : ∀ entry ∈ attributes, IsReadable entry.2.toList

/-- What is written of attributes is what they are. -/
theorem writtenAttributes_back (attributes : List (String × String)) :
    ((writtenAttributes attributes).map fun entry =>
      (String.ofList entry.1, String.ofList entry.2)) = attributes := by
  simp [writtenAttributes, Function.comp_def]

/-- A start tag with attributes that can be written is readable. -/
theorem AreWritable.startTag_readable {attributes : List (String × String)}
    (writable : AreWritable attributes) {name : List Char} (called : IsReadable name) :
    IsReadable (startTagText name (writtenAttributes attributes)) := by
  refine startTagText_readable called fun entry member => ⟨writable.areAttributes.names _ member, ?_⟩
  obtain ⟨given, among, rfl⟩ := List.mem_map.mp member
  exact writable.readable given among

namespace CpuPackage

/-- The section of a controller, with its build settings in it, as it is written. -/
def sectionText (own build : List (String × String)) : List Char :=
  elementText "Configuration".toList (writtenAttributes own)
    (leafText "Build".toList (writtenAttributes build) [])

/-- The package of a controller with a section of settings, as it is written. -/
def writtenText (own build : List (String × String)) : String :=
  String.ofList (documentText "AutomationStudio".toList [] "Cpu".toList none (sectionText own build))

/-- The element that the section is read as. -/
def writtenSection (own build : List (String × String)) : Element :=
  ⟨"Configuration", own, "", [⟨"Build", build, "", []⟩]⟩

/-- The settings that the section holds. -/
def writtenSettings (own build : List (String × String)) : CpuSettings where
  moduleId := Attribute.nonempty ((writtenSection own build).attribute? "ModuleId")
  build := BuildSettings.read ⟨"Build", build, "", []⟩

variable {own build : List (String × String)} (sound : AreWritable own) (within : AreWritable build)

include sound within

/-- The section is read as its element, with the element of the build settings in it. -/
theorem sectionText_makes (source : Source) : Makes source "Cpu".toList none
    (sectionText own build) ⟨"Cpu", [], "", [writtenSection own build]⟩ := by
  refine ⟨_, _, _, rfl, ?_, takes_element (by decide) sound.areAttributes rfl
    (takes_leaf (by decide) within.areAttributes rfl []) rfl rfl⟩
  simp only [OpenElement.addChild, OpenElement.addText, OpenElement.close, writtenSection,
    rootOpening, writtenAttributes_back]
  rfl

/-- The section is readable. -/
theorem sectionText_readable : IsReadable (sectionText own build) := by
  have inner : IsReadable (leafText "Build".toList (writtenAttributes build) []) :=
    (within.startTag_readable (by decide)).append (endTagText_readable (by decide))
  exact (sound.startTag_readable (by decide)).append
    (inner.append (endTagText_readable (by decide)))

/-- A written package of a controller is read with the settings of its section. -/
theorem read_written (file : Location) :
    CpuPackage.read file (Source.ofText (writtenText own build)) =
      .ok ⟨⟨file, "Cpu", [], {}⟩, writtenSettings own build, rfl⟩ := by
  have marked : MarkedUp.read (Source.ofText (writtenText own build)) =
      .ok ⟨⟨"Cpu", [], "", [writtenSection own build]⟩, {}⟩ :=
    MarkedUp.read_written (by decide) (by rintro _ ⟨⟩) (sectionText_readable sound within)
      String.toList_ofList (sectionText_makes sound within _)
  -- Nothing in the root element is a list of objects.
  have names : localName "Cpu" = "Cpu" ∧ localName "Configuration" = "Configuration" ∧
      localName "Build" = "Build" := by
    decide
  obtain ⟨rootName, sectionName, buildName⟩ := names
  have declared : declaredObjects ⟨"Cpu", [], "", [writtenSection own build]⟩ = .ok [] := by
    simp [declaredObjects, Element.childrenNamed, Element.children, Element.name, Element.tag,
      writtenSection, sectionName]
  have settings : CpuSettings.read ⟨"Cpu", [], "", [writtenSection own build]⟩ =
      .ok (writtenSettings own build) := by
    simp [CpuSettings.read, Element.childrenNamed, Element.children, Element.name, Element.tag,
      writtenSection, writtenSettings, sectionName, buildName, runtimeOf]
  have document : PackageDocument.read (Source.ofText (writtenText own build)) =
      .ok ⟨"Cpu", [], {}, ⟨"Cpu", [], "", [writtenSection own build]⟩⟩ := by
    simp only [PackageDocument.read, marked, declared, Element.name, Element.tag, rootName]
  exact exceptBind_ok_iff.mpr ⟨_, document, exceptBind_ok_iff.mpr ⟨_, congrArg _ settings, rfl⟩⟩

end CpuPackage

/-- A document of one empty element describes a project that says nothing about itself. -/
theorem Descriptor.read_empty (file : Location) :
    Descriptor.read file (Source.ofText "<Project/>") = .ok ⟨file, {}, none, none, none, none⟩ := by
  -- The shortest document has a root without anything, and the rest of the text is empty.
  have root : readRoot (Source.ofText "<Project/>") {} 0 "<Project/>".toList =
      .ok (⟨"Project", [], "", []⟩, []) := by
    unfold readRoot
    rw [readContent.eq_def]
    rfl
  have document : Document.read (Source.ofText "<Project/>") =
      .ok ⟨[], ⟨"Project", [], "", []⟩⟩ := by
    unfold Document.read
    change (do
      let found ← readRoot (Source.ofText "<Project/>") {} 0 "<Project/>".toList
      Doctype.readEpilog (Source.ofText "<Project/>") 11 found.2
      .ok (⟨[], found.1⟩ : Document)) = _
    rw [root]
    rfl
  simp only [Descriptor.read, MarkedUp.read, document]
  rfl

namespace Project

/-- A descriptor with nothing beside it makes a project without configurations. -/
theorem load_bare {disk : Disk} {d : Descriptor}
    (described : (disk.load "project" d.file Descriptor.read).result = .ok (some d))
    (listing : (disk.load Role.physical.kind (d.physical / physicalPackageName)
      PhysicalPackage.read).result = .ok none)
    (directories : configurationRoots disk d = .ok [])
    (settings : Scan.findFiles disk {} d.root "*.set" = .ok []) :
    (load disk d.file).result = .ok (some ⟨d, [], none⟩) := by
  refine load_some_iff.mpr ⟨described, ?_, [], settings, rfl⟩
  -- Without a list and without directories there is nothing to put in order.
  have none : inOrder (declaredNames none) [] = [] := by
    simp [inOrder, declaredNames]
  exact loadConfigurations_ok_iff.mpr ⟨_, [], listing, directories, by simp [none], by simp [none]⟩

/-- Configurations load where the directories that are found are, in their order, those of the
configurations, and each of them loads from its own with the description that the list has for it. -/
theorem loadConfigurations_of_loaded {disk : Disk} {d : Descriptor} {listing : Option PhysicalPackage}
    {roots : List Location} {configurations : List Configuration}
    (listed : (disk.load Role.physical.kind (d.physical / physicalPackageName)
      PhysicalPackage.read).result = .ok listing)
    (found : configurationRoots disk d = .ok roots)
    (ordered : inOrder (declaredNames listing) roots = configurations.map (·.root))
    (loads : ∀ c ∈ configurations, (Configuration.load disk c.root d.root
      (listing.bind (·.description? c.root.name))).result = .ok (some c)) :
    (loadConfigurations disk d).result = .ok configurations := by
  refine loadConfigurations_ok_iff.mpr ⟨listing, _, listed, found, ?_, ?_⟩
  · rw [ordered]
    exact List.forall_mem_map.mpr fun c member => ⟨_, loads c member⟩
  · -- Nothing is left out and nothing is changed.
    have each : configurations.filterMap (fun c => (Configuration.load disk c.root d.root
        (listing.bind (·.description? c.root.name))).found?) = configurations.filterMap some :=
      List.filterMap_congr fun c member => Logged.found?_of_ok (loads c member)
    rw [ordered, List.filterMap_map]
    exact (each.trans List.filterMap_some).symm

/-- A controller with build settings, as attributes of their section and of the section around it. -/
def lineSection : List (String × String) :=
  [("ModuleId", "X20")]

/-- The build settings of that controller; two include directories are the same in a row. -/
def lineBuild : List (String × String) :=
  [("GccVersion", "11.3.0"), ("AnsicIncludeDirectories", "\\Logical\\Inc; Logical/Inc ;Lib"),
    ("AnsicAdditionalBuildOptions", "-Wall -O2"), ("AdditionalBuildOptions", "-g")]

/-- The list of the configurations of a project, which declares one of two. -/
def lineListing : PackageOutline :=
  plainOutline "Physical" (by decide) [⟨"Configuration", "Run", some "Main line", false, none⟩]
    (List.forall_mem_singleton.mpr ⟨by decide, by decide, by decide, by decide, by decide,
      by decide, by decide, by rintro text ⟨⟩; decide, by rintro text ⟨⟩⟩)

/-- The entries of a directory with a configuration whose controller has a package with a text. -/
def controlledBy (text : String) : List (String × Node) :=
  [("Config.pkg", .file (configurationOutline "X" beside_isDeclarable).text.toUTF8.toList),
    ("X", .directory [("Cpu.pkg", .file text.toUTF8.toList)])]

/-- The entries of the directory of both configurations. -/
def linePhysical : List (String × Node) :=
  [("Lab", .directory (controlledBy controllerOutline.text)),
    ("Physical.pkg", .file lineListing.text.toUTF8.toList),
    ("Run", .directory (controlledBy (CpuPackage.writtenText lineSection lineBuild)))]

/-- The entries of the directory of the project with these configurations. -/
def lineEntries : List (String × Node) :=
  [("LastUser.set", .file (settingsText "Run").toUTF8.toList),
    ("Line.apj", .file "<Project/>".toUTF8.toList), ("Physical", .directory linePhysical)]

/-- The entries of the directory of an outer project, which has nothing but a descriptor. -/
def hallEntries : List (String × Node) :=
  [("Hall.apj", .file "<Project/>".toUTF8.toList), ("Line", .directory lineEntries)]

/-- A project with nothing but a descriptor, and another one below it with two configurations. -/
def hallDisk : Disk where
  root := .directory [("ws", .directory hallEntries)]

/-- A descriptor that says nothing, at a place. -/
def bareDescriptor (place : Place) : Descriptor :=
  ⟨Disk.locationOf place, {}, none, none, none, none⟩

/-- The outer project. -/
def hallProject : Project :=
  ⟨bareDescriptor ["ws", "Hall.apj"], [], none⟩

/-- The directory of a configuration of the inner project. -/
def lineRoot (name : String) : Location :=
  Disk.locationOf ["ws", "Line", "Physical", name]

/-- A configuration of the inner project. -/
def lineConfiguration (name : String) (settings : CpuSettings) (description : Option String) :
    Configuration where
  name
  root := lineRoot name
  package := .naming (Disk.locationOf ["ws", "Line", "Physical", name, "Config.pkg"]) "X"
  cpu := ⟨⟨Disk.locationOf ["ws", "Line", "Physical", name, "X", "Cpu.pkg"], "Cpu", [], {}⟩,
    settings, rfl⟩
  description

/-- The inner project. -/
def lineProject : Project :=
  ⟨bareDescriptor ["ws", "Line", "Line.apj"],
    [lineConfiguration "Run" (CpuPackage.writtenSettings lineSection lineBuild) (some "Main line"),
      lineConfiguration "Lab" {} none],
    some "Run"⟩

/-- A descriptor that says nothing is loaded from the file that stands at its place. -/
theorem bareDescriptor_loads {disk : Disk} {place : Place}
    (held : disk.bytesOf (Disk.locationOf place) = .ok "<Project/>".toUTF8.toList) :
    (disk.load "project" (bareDescriptor place).file Descriptor.read).result =
      .ok (some (bareDescriptor place)) := by
  -- The text is the characters it is listed as, so reading it back is reading the shortest project.
  have chars : String.ofList "<Project/>".toList = "<Project/>" := String.ofList_toList
  refine Disk.load_written (by rw [chars]; exact held) (by decide) (by decide) ?_
  rw [chars]
  exact Descriptor.read_empty _

/-- The pattern for settings asks for entries of one directory. -/
theorem settingsPattern_parts : Scan.namePattern? "*.set" = none ∧
    Glob.parts "*.set" = .ok [.matching "*.set"] := by
  decide

/-- No settings stand beside the outer project. -/
theorem hallSettings_found : Scan.findFiles hallDisk {} hallProject.descriptor.root "*.set" = .ok [] :=
  Scan.findFiles_selected [] [] ⟨⟨["ws"], rfl⟩, by decide⟩ settingsPattern_parts.1
    settingsPattern_parts.2 (by decide +kernel) rfl rfl .nil

/-- No directory stands where the configurations of the outer project would be. -/
theorem hallRoots_found : configurationRoots hallDisk hallProject.descriptor = .ok [] := by
  decide

/-- The outer project loads. -/
theorem hallProject_loads : (load hallDisk hallProject.descriptor.file).result =
    .ok (some hallProject) :=
  load_bare (bareDescriptor_loads rfl) rfl hallRoots_found hallSettings_found

/-- The list that declares one of the configurations. -/
def lineList : PhysicalPackage :=
  ⟨⟨Disk.locationOf ["ws", "Line", "Physical", "Physical.pkg"], "Physical", lineListing.objects, {}⟩,
    rfl⟩

/-- The list loads. -/
theorem lineList_loads : (hallDisk.load Role.physical.kind
    (lineProject.descriptor.physical / physicalPackageName) PhysicalPackage.read).result =
      .ok (some lineList) := by
  obtain ⟨_, declared, _⟩ := lineListing.read_text plainOutline_isSupported
  refine lineListing.load_written rfl (by decide) ?_
  rw [PhysicalPackage.read, declared]
  rfl

/-- The directories of the two configurations. -/
def lineRoots : List Location :=
  ["Lab", "Run"].map lineRoot

/-- The directories of the two configurations are found. -/
theorem lineRoots_found : configurationRoots hallDisk lineProject.descriptor = .ok lineRoots := by
  have byPath : Scan.namePattern? ("*/" ++ Configuration.packageName) = none := by decide
  have read : Glob.parts ("*/" ++ Configuration.packageName) =
      .ok [.matching "*", .named Configuration.packageName] := by decide
  -- Both directories are entered, and in both there is a package.
  let packages := lineRoots.map fun root => root.child Configuration.packageName
  have searched : Scan.findFiles hallDisk {} lineProject.descriptor.physical
      ("*/" ++ Configuration.packageName) = .ok packages :=
    Scan.findFiles_selected lineRoots packages ⟨⟨["ws", "Line", "Physical"], rfl⟩, by decide⟩
      byPath read (by decide +kernel) (by decide +kernel) (by decide +kernel) (by decide +kernel)
  rw [configurationRoots, searched]
  rfl

/-- Where the packages of the two configurations are. -/
theorem lineRoot_packages : ∀ name ∈ ["Lab", "Run"],
    lineRoot name / Configuration.packageName =
        Disk.locationOf ["ws", "Line", "Physical", name, "Config.pkg"] ∧
      (lineRoot name / Configuration.packageName).parent / "X" / Configuration.cpuPackageName =
        Disk.locationOf ["ws", "Line", "Physical", name, "X", "Cpu.pkg"] := by
  decide

/-- A configuration of the inner project loads with the settings that the package of its controller
says. -/
theorem lineConfiguration_loads {name : String} {cpu : CpuPackage} (description : Option String)
    (among : name ∈ ["Lab", "Run"])
    (held : hallDisk.bytesOf (Disk.locationOf ["ws", "Line", "Physical", name, "Config.pkg"]) =
      .ok (configurationOutline "X" beside_isDeclarable).text.toUTF8.toList)
    (controller : (hallDisk.load Role.cpu.kind
      (Disk.locationOf ["ws", "Line", "Physical", name, "X", "Cpu.pkg"]) CpuPackage.read).result =
        .ok (some cpu)) :
    (Configuration.load hallDisk (lineRoot name) lineProject.descriptor.root description).result =
      .ok (some ⟨name, lineRoot name,
        .naming (Disk.locationOf ["ws", "Line", "Physical", name, "Config.pkg"]) "X", cpu,
        description⟩) := by
  -- The two places are those of the files beside the configuration.
  obtain ⟨package, cpuPackage⟩ := lineRoot_packages name among
  rw [← package] at held ⊢
  rw [← cpuPackage] at controller
  exact Configuration.load_written beside_isDeclarable (by decide) held controller description

/-- The controller of the declared configuration loads with its build settings. -/
theorem lineRun_controller : (hallDisk.load Role.cpu.kind
    (Disk.locationOf ["ws", "Line", "Physical", "Run", "X", "Cpu.pkg"]) CpuPackage.read).result =
      .ok (some (lineConfiguration "Run" (CpuPackage.writtenSettings lineSection lineBuild) none).cpu) := by
  -- The two sections are readable values under readable names.
  have section_writable : AreWritable lineSection :=
    ⟨⟨by decide, by decide, by decide⟩, by decide⟩
  have build_writable : AreWritable lineBuild := ⟨⟨by decide, by decide, by decide⟩, by decide⟩
  exact Disk.load_written rfl rfl (by decide +kernel)
    (CpuPackage.read_written section_writable build_writable _)

/-- The controller of the other configuration loads without settings. -/
theorem lineLab_controller : (hallDisk.load Role.cpu.kind
    (Disk.locationOf ["ws", "Line", "Physical", "Lab", "X", "Cpu.pkg"]) CpuPackage.read).result =
      .ok (some (lineConfiguration "Lab" {} none).cpu) :=
  controllerOutline.load_written rfl (by decide) (CpuPackage.read_bare _)

/-- Both configurations load, the declared one first and with its description. -/
theorem lineConfigurations_load : (loadConfigurations hallDisk lineProject.descriptor).result =
    .ok lineProject.configurations := by
  refine loadConfigurations_of_loaded lineList_loads lineRoots_found (by decide +kernel) ?_
  exact List.forall_mem_cons.mpr ⟨lineConfiguration_loads _ (by simp) rfl lineRun_controller,
    List.forall_mem_singleton.mpr (lineConfiguration_loads _ (by simp) rfl lineLab_controller)⟩

/-- The settings that the last user has left beside the inner project. -/
def lineSettings : Location :=
  Disk.locationOf ["ws", "Line", "LastUser.set"]

/-- The settings load with the configuration that they name. -/
theorem lineSettings_load : (hallDisk.load "user settings" lineSettings UserSettings.read).result =
    .ok (some ⟨lineSettings, {}, some "Run"⟩) :=
  Disk.load_written rfl rfl (by decide) (userSettings_read (by decide) (by decide) _)

/-- The inner project loads with both configurations, and with the one that the last user has chosen. -/
theorem lineProject_loads : (load hallDisk lineProject.descriptor.file).result =
    .ok (some lineProject) := by
  refine load_some_iff.mpr ⟨bareDescriptor_loads rfl, lineConfigurations_load, [lineSettings], ?_, ?_⟩
  · exact Scan.findFiles_selected [lineSettings] [lineSettings] ⟨⟨["ws", "Line"], rfl⟩, by decide⟩
      settingsPattern_parts.1 settingsPattern_parts.2 (by decide +kernel) rfl (by decide +kernel)
      (List.pairwise_singleton _ _)
  · -- The only settings name a configuration, so the search ends with them.
    exact Logged.bind_ok_iff.mpr ⟨_, lineSettings_load, rfl⟩

/-- What an index with no other settings looks for and leaves out. -/
def hallSearch : Scan.Search where
  patterns := ["*.apj"]
  pruned := ({} : ScanSettings).outputDirectories

/-- The descriptors of both projects are found below their directory, and nothing else. -/
theorem hallDisk_found : Scan.findFiles hallDisk ({} : ScanSettings).omissions
    (Disk.locationOf ["ws"]) "**/*.apj" =
      .ok [hallProject.descriptor.file, lineProject.descriptor.file] := by
  have run : hallDisk.HoldsInOrder (Disk.locationOf ["ws", "Line", "Physical", "Run"])
      (controlledBy (CpuPackage.writtenText lineSection lineBuild)) := ⟨⟨_, rfl⟩, by decide⟩
  have lab : hallDisk.HoldsInOrder (Disk.locationOf ["ws", "Line", "Physical", "Lab"])
      (controlledBy controllerOutline.text) := ⟨⟨_, rfl⟩, by decide⟩
  have physical : hallDisk.HoldsInOrder (Disk.locationOf ["ws", "Line", "Physical"])
      linePhysical := ⟨⟨_, rfl⟩, by decide⟩
  have line : hallDisk.HoldsInOrder (Disk.locationOf ["ws", "Line"]) lineEntries :=
    ⟨⟨_, rfl⟩, by decide⟩
  have ws : hallDisk.HoldsInOrder (Disk.locationOf ["ws"]) hallEntries := ⟨⟨_, rfl⟩, by decide⟩
  -- The scan ends at the controllers, below both configurations.
  have inRun : Scan.scanDirectory hallDisk hallSearch 285
      (Disk.locationOf ["ws", "Line", "Physical", "Run"]) ["Line", "Physical", "Run"] = .ok [] :=
    Scan.scanDirectory_inOrder [] ["X"] run (by decide +kernel) (by decide +kernel)
      (by decide +kernel)
  have inLab : Scan.scanDirectory hallDisk hallSearch 285
      (Disk.locationOf ["ws", "Line", "Physical", "Lab"]) ["Line", "Physical", "Lab"] = .ok [] :=
    Scan.scanDirectory_inOrder [] ["X"] lab (by decide +kernel) (by decide +kernel)
      (by decide +kernel)
  have inPhysical : Scan.scanDirectory hallDisk hallSearch 286
      (Disk.locationOf ["ws", "Line", "Physical"]) ["Line", "Physical"] = .ok [] := by
    refine Scan.scanDirectory_inOrder [] ["Lab", "Run"] physical (by decide +kernel)
      (by decide +kernel) ?_
    exact exceptBind_ok_iff.mpr ⟨_, inLab, exceptBind_ok_iff.mpr ⟨_, exceptBind_ok_iff.mpr
      ⟨_, inRun, rfl⟩, rfl⟩⟩
  have inLine : Scan.scanDirectory hallDisk hallSearch 287
      (Disk.locationOf ["ws", "Line"]) ["Line"] = .ok [lineProject.descriptor.file] := by
    refine Scan.scanDirectory_inOrder ["Line.apj"] ["Physical"] line (by decide +kernel)
      (by decide +kernel) ?_
    exact exceptBind_ok_iff.mpr ⟨_, inPhysical, rfl⟩
  have inWs : Scan.scan hallDisk hallSearch (Disk.locationOf ["ws"]) =
      .ok [hallProject.descriptor.file, lineProject.descriptor.file] := by
    have depth : Scan.scanDepth hallDisk = 288 := by decide
    rw [Scan.scan, depth]
    refine Scan.scanDirectory_inOrder ["Hall.apj"] ["Line"] ws (by decide +kernel)
      (by decide +kernel) ?_
    exact exceptBind_ok_iff.mpr ⟨_, inLine, rfl⟩
  exact Scan.findFiles_scanned "*.apj" ws (by decide) (by decide) inWs (by decide)

end Project

end AutomationIndex
