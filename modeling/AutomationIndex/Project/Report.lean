import AutomationIndex.Package.Report
import AutomationIndex.Project.Basic

/-! Projects and what is known about them as JSON values. -/

namespace AutomationIndex

/-- An optional flag as a value. -/
def optionalFlag : Option Bool → Json
  | some flag => .bool flag
  | none => .null

/-- A project descriptor as a value. -/
def Descriptor.toJson (d : Descriptor) : Json :=
  .object [("file_path", .text d.file.text), ("as_version", .optionalText d.header.version),
    ("file_version", .optionalText d.header.fileVersion), ("version", .optionalText d.version),
    ("edition", .optionalText d.edition), ("description", .optionalText d.description),
    ("ansic_default_includes", optionalFlag d.ansicDefaultIncludes)]

/-- Build information as a value. -/
def BuildInfo.toJson (info : BuildInfo) : Json :=
  .object [("project_root", .text info.projectRoot.text),
    ("configuration", .text info.configuration), ("module_id", .optionalText info.moduleId),
    ("gcc_version", .optionalText info.gccVersion),
    ("include_dirs", .texts (info.includeDirectories.map Location.text)),
    ("build_options", .texts info.options)]

/-- A configuration as a value. -/
def Configuration.toJson (c : Configuration) : Json :=
  .object [("name", .text c.name), ("root_path", .text c.root.text),
    ("description", .optionalText c.description), ("cpu_path", .text c.cpuDirectory.text),
    ("module_id", .optionalText c.cpu.settings.moduleId), ("config_package", c.package.toJson),
    ("cpu_package", c.cpu.toJson)]

/-- A project as a value. -/
def Project.toJson (p : Project) : Json :=
  .object [("name", .text p.name), ("project_root", .text p.root.text),
    ("project_file", p.descriptor.toJson), ("active_configuration", .optionalText p.activeName),
    ("configurations", .list (p.configurations.map Configuration.toJson))]

end AutomationIndex
