import AutomationIndex.Xml.Fault
import AutomationIndex.Xml.Lexeme

/-! Namespaces: what prefixes are bound to, and the full names that this gives. -/

namespace AutomationIndex.Xml

/-- The namespace that the prefix `xml` stands for. -/
def xmlNamespace : String := "http://www.w3.org/XML/1998/namespace"

/-- The namespace of namespace declarations. -/
def xmlnsNamespace : String := "http://www.w3.org/2000/xmlns/"

/-- The bindings in force, the innermost first. The empty name stands for no prefix, and the empty
namespace for none. -/
abbrev Scope := List (List Char × String)

/-- The bindings in force outside the root element. -/
def outerScope : Scope :=
  [(['x', 'm', 'l'], xmlNamespace)]

/-- The namespace that a name part before a colon, or its absence, stands for. -/
def Scope.namespace? (scope : Scope) (label : List Char) : Option String :=
  match (scope.find? fun binding => binding.1 == label).map (·.2) with
  | some uri => if uri == "" then none else some uri
  | none => none

/-- A written name: the part before the first colon, if there is one, and the part after it. -/
def splitName (name : List Char) : Option (List Char) × List Char :=
  let first := name.takeWhile (· != ':')
  -- Only the first colon separates.
  match name.drop first.length with
  | [] => (none, name)
  | _ :: rest => (some first, rest)

/-- The prefix that an attribute name declares, where it declares one: the empty one for the default
namespace. -/
def declaredPrefix? (name : List Char) : Option (List Char) :=
  match splitName name with
  | (none, plain) => if plain == ['x', 'm', 'l', 'n', 's'] then some [] else none
  | (some label, part) => if label == ['x', 'm', 'l', 'n', 's'] then some part else none

/-- Whether a prefix may be bound to a namespace. A namespace with a closing brace in it could not
be told apart from a name. -/
def checkBinding (label : List Char) (uri : String) : Except Cause Unit :=
  -- The checks stand in the order in which the faults are told.
  if uri == "" && !label.isEmpty then .error .undeclaredPrefix
  else if label == ['x', 'm', 'l', 'n', 's'] then .error .reservedXmlnsPrefix
  else if uri.toList.contains '\x7d' then .error .syntaxError
  else if label == ['x', 'm', 'l'] then
    if uri == xmlNamespace then .ok () else .error .reservedXmlPrefix
  else if uri == xmlNamespace || uri == xmlnsNamespace then .error .reservedNamespace
  else .ok ()

/-- A local name with its namespace, where it has one. -/
def fullName (uri : Option String) (localPart : List Char) : String :=
  match uri with
  | some uri => String.ofList ('\x7b' :: uri.toList ++ '\x7d' :: localPart)
  | none => String.ofList localPart

end AutomationIndex.Xml
