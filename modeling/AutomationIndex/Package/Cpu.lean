import AutomationIndex.Package.Document

/-! The controller settings of a CPU package. -/

namespace AutomationIndex

/-- The build settings of a controller. -/
structure BuildSettings where
  gccVersion : Option String
  /-- Path fragments below the project root, in search order. -/
  includeFragments : List String
  ansicOptions : List String
  additionalOptions : List String
  iecOptions : List String
  preBuildStep : Option String
  deriving DecidableEq, Repr

/-- The settings of a controller. -/
structure CpuSettings where
  moduleId : Option String := none
  runtimeVersion : Option String := none
  build : Option BuildSettings := none
  deriving DecidableEq, Repr

/-- Reads build settings. -/
def BuildSettings.read (element : Xml.Element) : BuildSettings where
  gccVersion := Attribute.nonempty (element.attribute? "GccVersion")
  includeFragments := Attribute.items (element.attribute? "AnsicIncludeDirectories")
  ansicOptions := Attribute.options (element.attribute? "AnsicAdditionalBuildOptions")
  additionalOptions := Attribute.options (element.attribute? "AdditionalBuildOptions")
  iecOptions := Attribute.options (element.attribute? "IecAdditionalBuildOptions")
  preBuildStep := Attribute.nonempty (element.attribute? "PreBuildStep")

/-- The version of the runtime that a configuration section names first. -/
def runtimeOf (configuration : Xml.Element) : Option String :=
  match configuration.childrenNamed "AutomationRuntime" with
  | [] => none
  | runtime :: _ => Attribute.nonempty (runtime.attribute? "Version")

/-- Reads the settings of a controller from the root element of its package. -/
def CpuSettings.read (root : Xml.Element) : Except LayoutFault CpuSettings :=
  match root.childrenNamed "Configuration" with
  | [] => .ok {}
  | [configuration] =>
    match configuration.childrenNamed "Build" with
    -- At least two sections: the first two are taken off by the pattern.
    | _ :: _ :: others => .error (.severalBuilds (others.length + 2))
    | builds =>
      .ok {
        moduleId := Attribute.nonempty (configuration.attribute? "ModuleId")
        runtimeVersion := runtimeOf configuration
        build := builds.head?.map BuildSettings.read }
  | sections => .error (.severalConfigurations sections.length)

end AutomationIndex
