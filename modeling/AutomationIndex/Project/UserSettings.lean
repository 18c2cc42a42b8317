import AutomationIndex.Package.Role

/-! Settings that a user of a project has left beside it. -/

namespace AutomationIndex

/-- The settings of a user. -/
structure UserSettings where
  file : Location
  header : Header
  /-- The configuration that the user works with. -/
  active : Option String
  deriving DecidableEq, Repr

namespace UserSettings

/-- The configuration that the first manager section names. -/
def active? (root : Xml.Element) : Option String :=
  match root.childrenNamed "ConfigurationManager" with
  | [] => none
  | manager :: _ => Attribute.nonempty (manager.attribute? "ActiveConfigurationName")

/-- Reads the settings of a user. -/
def read (file : Location) (source : Xml.Source) : Except ContentFault UserSettings := do
  let marked ← MarkedUp.read source
  -- The role is judged by the root alone, whatever its namespace.
  if marked.root.name != "ProjectSettings" then
    .error (.role (.rootType marked.root.name "ProjectSettings") file)
  else .ok ⟨file, marked.header, active? marked.root⟩

end UserSettings

end AutomationIndex
