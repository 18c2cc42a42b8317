import AutomationIndex.Json.Reader
import AutomationIndex.Text.Quoted

/-! What can be wrong with a TOML text, and where. -/

namespace AutomationIndex.Toml

/-- The parts of a dotted key. -/
abbrev Key := List String

/-- What can be wrong with a TOML text. -/
inductive Cause where
  | statement
  | statementEnd
  | keyStart
  | noEquals
  | value
  | moment
  | invalidCharacter (c : Char)
  | illegalCharacter (c : Char)
  | noClosing (quote : String)
  | unterminated
  | escape
  | hexadecimal
  | noScalar
  | openArray
  | openTable
  | tableEnd
  | listEnd
  | declaredTwice (key : Key)
  | immutable (key : Key)
  | redefined (key : Key)
  | overwritten
  | duplicate (key : String)
  /-- A whole number with more digits than are read. -/
  | tooManyDigits (count : Nat)
  deriving DecidableEq, Repr

/-- A key as messages show it: its parts in round brackets, a single one with a comma. -/
def showKey : Key → String
  | [part] => "(" ++ Text.quoted part ++ ",)"
  | key => "(" ++ ", ".intercalate (key.map Text.quoted) ++ ")"

/-- The wording of a cause. -/
def Cause.message : Cause → String
  | statement => "Invalid statement"
  | statementEnd => "Expected newline or end of document after a statement"
  | keyStart => "Invalid initial character for a key part"
  | noEquals => "Expected '=' after a key in a key/value pair"
  | value => "Invalid value"
  | moment => "Invalid date or datetime"
  | invalidCharacter c => "Found invalid character " ++ Text.quoted c.toString
  | illegalCharacter c => "Illegal character " ++ Text.quoted c.toString
  | noClosing quote => "Expected " ++ Text.quoted quote
  | unterminated => "Unterminated string"
  | escape => "Unescaped '\\' in a string"
  | hexadecimal => "Invalid hex value"
  | noScalar => "Escaped character is not a Unicode scalar value"
  | openArray => "Unclosed array"
  | openTable => "Unclosed inline table"
  | tableEnd => "Expected ']' at the end of a table declaration"
  | listEnd => "Expected ']]' at the end of an array declaration"
  | declaredTwice key => "Cannot declare " ++ showKey key ++ " twice"
  | immutable key => "Cannot mutate immutable namespace " ++ showKey key
  | redefined key => "Cannot redefine namespace " ++ showKey key
  | overwritten => "Cannot overwrite a value"
  | duplicate key => "Duplicate inline table key " ++ Text.quoted key
  | tooManyDigits count => (Json.Cause.tooManyDigits count).message

/-- A fault: its cause and how many characters of the text were left where it was found. -/
structure Fault where
  cause : Cause
  left : Nat
  deriving DecidableEq, Repr

/-- The wording of a fault in a text, with its place; a number that is too long has none. -/
def Fault.message (chars : List Char) (fault : Fault) : String :=
  match fault.cause with
  | .tooManyDigits _ => fault.cause.message
  | cause =>
    let place :=
      if fault.left == 0 then "end of document"
      else
        -- The column counts from the last line end in front of the place.
        let before := chars.take (chars.length - fault.left)
        let column := (before.reverse.takeWhile (· != '\n')).length + 1
        "line " ++ toString (before.count '\n' + 1) ++ ", column " ++ toString column
    cause.message ++ " (at " ++ place ++ ")"

/-- A fault at the place that is left of a text. -/
def faultAt (cause : Cause) (rest : List Char) : Fault :=
  ⟨cause, rest.length⟩

end AutomationIndex.Toml
