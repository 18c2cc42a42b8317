import AutomationIndex.Json.Basic
import AutomationIndex.Package.Role

/-! Packages as JSON values. -/

namespace AutomationIndex

/-- A declared object as a value. -/
def ChildObject.toJson (object : ChildObject) : Json :=
  .object [("type", .text object.type), ("name", .text object.name),
    ("description", .optionalText object.description), ("reference", .bool object.isReference),
    ("language", .optionalText object.language)]

/-- The fields that packages in all roles have. -/
def PackageFile.fields (p : PackageFile) : List (String × Json) :=
  [("file_path", .text p.file.text), ("root_type", .text p.rootType),
    ("version", .optionalText p.header.version),
    ("child_objects", .list (p.children.map ChildObject.toJson))]

/-- Build settings as a value. -/
def BuildSettings.toJson (build : BuildSettings) : Json :=
  .object [("gcc_version", .optionalText build.gccVersion),
    ("ansic_include_dirs", .texts build.includeFragments),
    ("ansic_build_options", .texts build.ansicOptions),
    ("additional_build_options", .texts build.additionalOptions),
    ("iec_build_options", .texts build.iecOptions),
    ("pre_build_step", .optionalText build.preBuildStep)]

/-- The settings of a controller as a value. -/
def CpuSettings.toJson (settings : CpuSettings) : Json :=
  .object [("module_id", .optionalText settings.moduleId),
    ("runtime_version", .optionalText settings.runtimeVersion),
    ("build", (settings.build.map BuildSettings.toJson).getD .null)]

/-- The package of a configuration as a value. -/
def ConfigurationPackage.toJson (p : ConfigurationPackage) : Json :=
  .object (p.fields ++ [("cpu_child_object", .text p.cpu.name)])

/-- The package of a controller as a value. -/
def CpuPackage.toJson (p : CpuPackage) : Json :=
  .object (p.fields ++ [("cpu_config", p.settings.toJson)])

/-- A package as a value. -/
def Package.toJson : Package → Json
  | generic p => .object p.fields
  | physical p => .object p.fields
  | configuration p => p.toJson
  | cpu p => p.toJson

end AutomationIndex
