import AutomationIndex.Location.Containment
import AutomationIndex.Package.Attribute

/-! The objects that a package file declares, and where they are. -/

namespace AutomationIndex

/-- An object that a package file declares. -/
structure ChildObject where
  type : String
  name : String
  description : Option String
  /-- The name is a path within the project and not the name of a neighbour. -/
  isReference : Bool
  language : Option String
  deriving DecidableEq, Repr

/-- Where an object is: a reference is looked up from the project root, a configuration among the
project's configurations, and any other object beside the file that declares it. -/
def ChildObject.location (object : ChildObject) (projectRoot file : Location) : Location :=
  if object.isReference then projectRoot.joinProjectRelative object.name
  else if object.type == "Configuration" then projectRoot / "Physical" / object.name
  else file.parent / object.name

end AutomationIndex
