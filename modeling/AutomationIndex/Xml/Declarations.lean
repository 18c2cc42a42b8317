import AutomationIndex.Xml.Fault
import AutomationIndex.Xml.Lexeme

/-! What a document type declares: entities and default attributes. -/

namespace AutomationIndex.Xml

/-- What an entity stands for. -/
inductive EntityBody where
  /-- Text that takes the place of a reference. -/
  | text (chars : List Char)
  /-- Something outside the document. -/
  | external
  /-- Something outside the document that is no text. -/
  | unparsed
  deriving DecidableEq, Repr

/-- A declared attribute of an element: whether its value is free text, and its default value. -/
structure AttributeDefault where
  name : List Char
  isFreeText : Bool
  value : Option (List Char)
  deriving DecidableEq, Repr

/-- The declarations of a document. The first declaration of a name counts. -/
structure Declarations where
  entities : List (List Char × EntityBody) := []
  attributes : List (List Char × AttributeDefault) := []
  /-- The document says that no outside declaration matters. -/
  standalone : Bool := false
  /-- Some declarations are outside the document. -/
  hasOutside : Bool := false
  /-- A reference to outside declarations makes the ones after it uncertain. -/
  stopped : Bool := false
  deriving Repr

namespace Declarations

/-- Whether every entity has to be declared in the document. -/
def isComplete (d : Declarations) : Bool :=
  !d.hasOutside || d.standalone

/-- What a name was first declared to stand for. -/
def entity? (d : Declarations) (name : List Char) : Option EntityBody :=
  (d.entities.find? fun entry => entry.1 == name).map (·.2)

/-- The declared attributes of an element, in order. -/
def attributesOf (d : Declarations) (element : List Char) : List AttributeDefault :=
  (d.attributes.filter fun entry => entry.1 == element).map (·.2)

/-- Declares an entity, unless the name is taken. -/
def declareEntity (d : Declarations) (name : List Char) (body : EntityBody) : Declarations :=
  if (d.entity? name).isSome then d else { d with entities := d.entities ++ [(name, body)] }

/-- Replaces what a declared name stands for, while its declaration is read. -/
def reviseEntity (d : Declarations) (name : List Char) (body : EntityBody) : Declarations :=
  { d with
    entities := d.entities.map fun entry => if entry.1 == name then (name, body) else entry }

/-- Declares an attribute. One with a value, or one that identifies, does not replace another. -/
def declareAttribute (d : Declarations) (element : List Char) (identifies : Bool)
    (declared : AttributeDefault) : Declarations :=
  -- The first declaration counts: a later one with a default, or of an identifier, is passed over.
  if (declared.value.isSome || identifies) &&
      (d.attributesOf element).any (fun other => other.name == declared.name) then d
  else { d with attributes := d.attributes ++ [(element, declared)] }

end Declarations

/-- The character that every document may refer to by a name. -/
def predefined? (name : List Char) : Option Char :=
  if name == ['l', 't'] then some '<'
  else if name == ['g', 't'] then some '>'
  else if name == ['a', 'm', 'p'] then some '&'
  else if name == ['q', 'u', 'o', 't'] then some '"'
  else if name == ['a', 'p', 'o', 's'] then some '\''
  else none

/-- The size of a text in bytes. -/
def byteSize (chars : List Char) : Nat :=
  chars.foldl (fun size c => size + c.utf8Size) 0

/-- Whether the text that references stand for is out of proportion to the document read so far. -/
def isOverspent (direct indirect : Nat) : Bool :=
  direct + indirect ≥ 8388608 && direct + indirect > 100 * direct

end AutomationIndex.Xml
