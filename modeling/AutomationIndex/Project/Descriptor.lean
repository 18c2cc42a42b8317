import AutomationIndex.Package.Role

/-! Project descriptors and the locations that follow from them. -/

namespace AutomationIndex

/-- The descriptor of a project. -/
structure Descriptor where
  file : Location
  header : Header
  version : Option String
  edition : Option String
  description : Option String
  /-- Whether the default include directories are enabled for C. -/
  ansicDefaultIncludes : Option Bool
  deriving DecidableEq, Repr

namespace Descriptor

/-- The project's root directory. -/
def root (d : Descriptor) : Location := d.file.parent

/-- The directory of the configurations. -/
def physical (d : Descriptor) : Location := d.root / "Physical"

/-- The directory of the sources. -/
def logical (d : Descriptor) : Location := d.root / "Logical"

/-- The directory of intermediate files. -/
def temp (d : Descriptor) : Location := d.root / "Temp"

/-- The directory of built files. -/
def binaries (d : Descriptor) : Location := d.root / "Binaries"

/-- The flag of the section for C. -/
def defaultIncludes? (root : Xml.Element) : Option Bool :=
  match root.childrenNamed "ANSIC" with
  | [] => none
  | ansic :: _ => Attribute.flag? (ansic.attribute? "DefaultIncludes")

/-- Reads a descriptor. -/
def read (file : Location) (source : Xml.Source) : Except ContentFault Descriptor := do
  let marked ← MarkedUp.read source
  -- The root's name is the only thing that can be wrong with a document that reads.
  if marked.root.name != "Project" then
    .error (.role (.rootType marked.root.name "Project") file)
  else
    .ok {
      file
      header := marked.header
      version := Attribute.nonempty (marked.root.attribute? "Version")
      edition := Attribute.nonempty (marked.root.attribute? "Edition")
      description := Attribute.nonempty (marked.root.attribute? "Description")
      ansicDefaultIncludes := defaultIncludes? marked.root }

end Descriptor

end AutomationIndex
