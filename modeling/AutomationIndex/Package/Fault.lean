import AutomationIndex.Location.Basic
import AutomationIndex.Xml.Charset

/-! What can be wrong with the content of a project's files. -/

namespace AutomationIndex

/-- A break of the layout that package files share. -/
inductive LayoutFault where
  | severalObjectLists (rootType : String) (count : Nat)
  | unexpectedElement (tag : String) (position : Nat)
  | nestedElement (position : Nat)
  | noType (position : Nat)
  | noName (type : String) (position : Nat)
  | severalConfigurations (count : Nat)
  | severalBuilds (count : Nat)
  deriving DecidableEq, Repr

/-- The wording of a layout fault. -/
def LayoutFault.message : LayoutFault → String
  | severalObjectLists rootType count =>
    "Expected at most one <Objects> element in <" ++ rootType ++ ">, found " ++ toString count
  | unexpectedElement tag position =>
    "Unexpected element <" ++ tag ++ "> at position " ++ toString position ++ " in <Objects>"
  | nestedElement position =>
    "<Object> at position " ++ toString position ++ " must not contain child elements"
  | noType position => "<Object> at position " ++ toString position ++ " has no Type attribute"
  | noName type position =>
    "<Object Type=\"" ++ type ++ "\"> at position " ++ toString position ++ " has no name"
  | severalConfigurations count =>
    "Expected one <Configuration> element, found " ++ toString count
  | severalBuilds count => "Expected at most one <Build> element, found " ++ toString count

/-- A break of the rules for the role that a file has. -/
inductive RoleFault where
  | rootType (found expected : String)
  | noCpu
  | severalCpus (count : Nat)
  deriving DecidableEq, Repr

/-- The wording of a role fault, without the file. -/
def RoleFault.message : RoleFault → String
  | rootType found expected =>
    "Root element name is <" ++ found ++ ">, expected <" ++ expected ++ ">"
  | noCpu => "No Cpu object found"
  | severalCpus count => "Too many Cpu objects found (" ++ toString count ++ ")"

/-- What can be wrong with the content of a file. -/
inductive ContentFault where
  | charset (fault : Xml.CharsetFault)
  | markup (located : Xml.Located)
  | layout (fault : LayoutFault)
  | role (fault : RoleFault) (file : Location)
  deriving DecidableEq, Repr

/-- The wording of a content fault. -/
def ContentFault.message : ContentFault → String
  -- A fault of the decoded document is told as markup, the others of the charset in their own
  -- words.
  | charset (.document located) => (markup located).message
  | charset fault => fault.message
  | markup located =>
    (if located.cause.isAboutRoot then "No single root element: " else "Invalid XML: ") ++
      located.message
  | layout fault => fault.message
  | role fault file => fault.message ++ " (" ++ file.text ++ ")"

end AutomationIndex
