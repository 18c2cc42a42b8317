import AutomationIndex.Number.Double
import AutomationIndex.Text.Point

/-! JSON values. Objects keep the order in which their keys were first written. -/

namespace AutomationIndex

/-- A JSON value. -/
inductive Json where
  | null
  | bool (value : Bool)
  | int (value : Int)
  | real (value : Double)
  | text (value : String)
  /-- A string with half of a surrogate pair in it, which is no text. -/
  | brokenText (points : List Text.Point)
  | list (items : List Json)
  | object (fields : List (String × Json))
  deriving Repr, Inhabited

namespace Json

/-- Sets a key in a list of fields: a key that is there keeps its place. -/
def setField (key : String) (value : Json) : List (String × Json) → List (String × Json)
  | [] => [(key, value)]
  | field :: fields =>
    if field.1 == key then (key, value) :: fields else field :: setField key value fields

/-- The value of a key in a list of fields. -/
def lookup (key : String) (fields : List (String × Json)) : Option Json :=
  (fields.find? fun field => field.1 == key).map (·.2)

/-- The value of a key of an object, where the value is an object that has it. -/
def field? (key : String) : Json → Option Json
  | object fields => lookup key fields
  | _ => none

/-- A list of texts as a value. -/
def texts (items : List String) : Json :=
  list (items.map text)

/-- An optional text as a value. -/
def optionalText : Option String → Json
  | some value => text value
  | none => null

end Json

end AutomationIndex
