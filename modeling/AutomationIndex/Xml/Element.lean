import AutomationIndex.Xml.Namespace
import AutomationIndex.Xml.Tag
import AutomationIndex.Xml.Value

/-! Elements, and the names and attributes that their start tags give them. -/

namespace AutomationIndex.Xml

/-- An element: its full name, its attributes by full name, the text before its first child, and
its children. -/
inductive Element where
  | mk (tag : String) (attributes : List (String × String)) (text : String)
    (children : List Element)
  deriving Repr

namespace Element

/-- The full name. -/
def tag : Element → String
  | mk tag _ _ _ => tag

/-- The attributes by full name. -/
def attributes : Element → List (String × String)
  | mk _ attributes _ _ => attributes

/-- The text before the first child. -/
def text : Element → String
  | mk _ _ text _ => text

/-- The children in document order. -/
def children : Element → List Element
  | mk _ _ _ children => children

/-- The value of an attribute without a namespace. -/
def attribute? (element : Element) (name : String) : Option String :=
  (element.attributes.find? fun entry => entry.1 == name).map (·.2)

end Element

/-- What the start tag of an element settles. -/
structure Opening where
  tag : String
  attributes : List (String × String)
  scope : Scope
  spent : Nat

/-- Where in a document the faults of a start tag lie: in the text from the tag on, or where a
reference stands for that text. -/
structure TagPlace where
  tagOn : List Char
  reference : Option Nat

/-- The place of a fault of the tag as a whole. -/
def TagPlace.left (place : TagPlace) : Nat :=
  place.reference.getD place.tagOn.length

/-- The place of a fault that has a place of its own in the tag. -/
def TagPlace.at (place : TagPlace) (left : Nat) : Nat :=
  place.reference.getD left

/-- The attributes of a start tag so far, by written name. -/
structure AttributeState where
  seen : List (List Char)
  /-- The attributes that declare no namespace, in reverse order. -/
  reversed : List (List Char × String)
  scope : Scope
  spent : Nat

/-- Adds an attribute with its value. -/
def AttributeState.add (state : AttributeState) (place : TagPlace) (name : List Char)
    (value : String) : Except Fault AttributeState :=
  -- The name counts as seen whether it binds a prefix or is an attribute.
  let state := { state with seen := name :: state.seen }
  match declaredPrefix? name with
  | some label =>
    match checkBinding label value with
    | .error cause => .error ⟨cause, place.left⟩
    | .ok () => .ok { state with scope := (label, value) :: state.scope }
  | none => .ok { state with reversed := (name, value) :: state.reversed }

/-- Whether a written attribute of an element is a list of words. -/
def isWordList (declared : List AttributeDefault) (name : List Char) : Bool :=
  match declared.find? fun entry => entry.name == name with
  | some entry => !entry.isFreeText
  | none => false

/-- Takes one written attribute into account. -/
def AttributeState.read (declarations : Declarations) (declared : List AttributeDefault)
    (direct : Nat) (place : TagPlace) (state : AttributeState) (raw : RawAttribute) :
    Except Fault AttributeState :=
  if state.seen.contains raw.name then .error ⟨.duplicateAttribute, place.at raw.nameOn.length⟩
  else
    match attributeValue ⟨declarations, isWordList declared raw.name, direct⟩ state.spent
        raw.value with
    -- A fault of the expansion is told at the tag, and one of the value at its own character.
    | .error ⟨cause, none⟩ => .error ⟨cause, place.left⟩
    | .error ⟨cause, some left⟩ =>
      .error ⟨cause, place.at (raw.valueOn.length - raw.value.length + left)⟩
    | .ok (value, spent) => { state with spent }.add place raw.name (String.ofList value)

/-- Takes a declared default into account, unless the attribute is written. -/
def AttributeState.complete (place : TagPlace) (state : AttributeState)
    (declared : AttributeDefault) : Except Fault AttributeState :=
  match declared.value with
  | some value =>
    -- What the tag writes itself comes before the default.
    if state.seen.contains declared.name then .ok state
    else state.add place declared.name (String.ofList value)
  | none => .ok state

/-- The full names of attributes, no two with a namespace being the same. -/
def fullAttributes (place : TagPlace) (scope : Scope) :
    List String → List (List Char × String) → Except Fault (List (String × String))
  | _, [] => .ok []
  | taken, (name, value) :: rest =>
    match splitName name with
    | (none, _) => do
      .ok ((String.ofList name, value) :: (← fullAttributes place scope taken rest))
    | (some label, part) =>
      -- An unprefixed attribute has no namespace, also where there is a default one.
      match scope.namespace? label with
      | none => .error ⟨.unboundPrefix, place.left⟩
      | some uri => do
        let full := fullName (some uri) part
        -- Two prefixes of one address can make one name of two.
        if taken.contains full then .error ⟨.duplicateAttribute, place.left⟩
        else .ok ((full, value) :: (← fullAttributes place scope (full :: taken) rest))

/-- The full name of an element. -/
def fullTag (place : TagPlace) (scope : Scope) (name : List Char) : Except Fault String :=
  -- A name without a prefix takes the default namespace, if there is one.
  match splitName name with
  | (none, _) => .ok (fullName (scope.namespace? []) name)
  | (some label, part) =>
    match scope.namespace? label with
    | none => .error ⟨.unboundPrefix, place.left⟩
    | some uri => .ok (fullName (some uri) part)

/-- What a start tag settles: its attributes in order, then the defaults, then the full names. -/
def openElement (declarations : Declarations) (direct spent : Nat) (place : TagPlace)
    (scope : Scope) (name : List Char) (raw : List RawAttribute) : Except Fault Opening := do
  let declared := declarations.attributesOf name
  -- Attributes are bound in the order written and then completed from the declarations.
  let state ← raw.foldlM (AttributeState.read declarations declared direct place)
    ⟨[], [], scope, spent⟩
  let state ← declared.foldlM (AttributeState.complete place) state
  let attributes ← fullAttributes place state.scope [] state.reversed.reverse
  let tag ← fullTag place state.scope name
  .ok ⟨tag, attributes, state.scope, state.spent⟩

end AutomationIndex.Xml
