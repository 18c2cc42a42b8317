import AutomationIndex.Package.Fault
import AutomationIndex.Package.Header
import AutomationIndex.Package.Object
import AutomationIndex.Xml.Document

/-! Package documents: the root type, the declared objects and the versions of the file. -/

namespace AutomationIndex

/-- The name of a tag after its namespace. -/
def localName (tag : String) : String :=
  String.ofList (tag.toList.reverse.takeWhile (· != '\x7d')).reverse

namespace Xml.Element

/-- The name of an element without its namespace. -/
def name (element : Element) : String :=
  localName element.tag

/-- The children with a name, in any namespace. -/
def childrenNamed (element : Element) (name : String) : List Element :=
  element.children.filter fun child => child.name == name

end Xml.Element

/-- The root element of a file and its versions. -/
structure MarkedUp where
  root : Xml.Element
  header : Header

/-- The text of the last instruction for the tool that writes the files. -/
def headerText (instructions : List (String × String)) : Option String :=
  match (instructions.filter fun entry => entry.1 == "AutomationStudio").getLast? with
  | some (target, data) => some (if data == "" then target else target ++ " " ++ data)
  | none => none

/-- Reads the markup of a file. -/
def MarkedUp.read (source : Xml.Source) : Except ContentFault MarkedUp :=
  match Xml.Document.read source with
  | .error fault => .error (.markup (source.locate fault))
  | .ok document =>
    -- The header stands in an instruction before the root; without one all its values are absent.
    .ok ⟨document.root, ((headerText document.instructions).map Header.ofInstruction).getD {}⟩

/-- What a package file declares. -/
structure PackageDocument where
  rootType : String
  children : List ChildObject
  header : Header
  root : Xml.Element

/-- Reads the declaration of an object at a position in the list of objects. -/
def ChildObject.read (position : Nat) (element : Xml.Element) : Except LayoutFault ChildObject :=
  if element.name != "Object" then .error (.unexpectedElement element.name position)
  -- The tag is judged before the content, and the type before the name.
  else if !element.children.isEmpty then .error (.nestedElement position)
  else
    match Attribute.nonempty (element.attribute? "Type") with
    | none => .error (.noType position)
    | some type =>
      let name := Text.strip element.text
      if name == "" then .error (.noName type position)
      else
        .ok {
          type, name
          description := Attribute.nonempty (element.attribute? "Description")
          isReference := Attribute.flag (element.attribute? "Reference")
          language := Attribute.nonempty (element.attribute? "Language") }

/-- Reads the declarations of objects, the first of which has the given position. -/
def readObjects : Nat → List Xml.Element → Except LayoutFault (List ChildObject)
  | _, [] => .ok []
  | position, element :: rest => do
    let object ← ChildObject.read position element
    -- Positions count every child, so a fault names the place in the list as it is written.
    let objects ← readObjects (position + 1) rest
    .ok (object :: objects)

/-- The objects that a root element declares. -/
def declaredObjects (root : Xml.Element) : Except LayoutFault (List ChildObject) :=
  match root.childrenNamed "Objects" with
  | [] => .ok []
  | [objects] => readObjects 0 objects.children
  -- A second list is refused whatever the two hold.
  | lists => .error (.severalObjectLists root.name lists.length)

/-- Reads what a package file declares. -/
def PackageDocument.read (source : Xml.Source) : Except ContentFault PackageDocument :=
  match MarkedUp.read source with
  | .error fault => .error fault
  | .ok marked =>
    match declaredObjects marked.root with
    | .error fault => .error (.layout fault)
    | .ok children => .ok ⟨marked.root.name, children, marked.header, marked.root⟩

end AutomationIndex
