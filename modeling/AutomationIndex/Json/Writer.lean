import AutomationIndex.Json.Basic

/-! Writing JSON text in ASCII, on one line or indented. -/

namespace AutomationIndex.Json

/-- A hexadecimal digit. -/
def hexCharacter (n : Nat) : Char :=
  Char.ofNat (if n < 10 then 48 + n else 87 + n)

/-- The escape of one UTF-16 unit. -/
def escapedUnit (n : Nat) : List Char :=
  ['\\', 'u', hexCharacter (n / 4096 % 16), hexCharacter (n / 256 % 16),
    hexCharacter (n / 16 % 16), hexCharacter (n % 16)]

/-- A character as it is written inside a string. -/
def escapedChar (c : Char) : List Char :=
  let n := c.toNat
  -- The quote, the backslash and five of the control characters have escapes of their own.
  if c == '"' then ['\\', '"']
  else if c == '\\' then ['\\', '\\']
  else if c == '\n' then ['\\', 'n']
  else if c == '\r' then ['\\', 'r']
  else if c == '\t' then ['\\', 't']
  else if n == 8 then ['\\', 'b']
  else if n == 12 then ['\\', 'f']
  else if 0x20 ≤ n && n ≤ 0x7E then [c]
  else if n < 0x10000 then escapedUnit n
  -- A character above the basic plane is written as a pair of surrogates.
  else escapedUnit (0xD800 + (n - 0x10000) / 0x400) ++ escapedUnit (0xDC00 + (n - 0x10000) % 0x400)

/-- A string with its quotes. -/
def quoted (value : String) : String :=
  String.ofList ('"' :: value.toList.flatMap escapedChar ++ ['"'])

/-- How values are laid out: what comes after an opening bracket at a depth, between items, before
a closing bracket, and after a key. -/
structure Layout where
  lineBreak : Nat → String
  comma : String
  colon : String

/-- Everything on one line. -/
def compact : Layout :=
  ⟨fun _ => "", ",", ":"⟩

/-- One item a line, two blanks deeper for each level. -/
def indented : Layout :=
  ⟨fun depth => String.ofList ('\n' :: List.replicate (2 * depth) ' '), ",", ": "⟩

/-- The text of a real number; the program's own values hold none. -/
def realText (value : Double) : String :=
  match value.toInt? with
  | some n => toString n ++ ".0"
  | none => "NaN"

/-- Items between brackets, one level deeper than the brackets. -/
def bracketed (layout : Layout) (depth : Nat) (opening closing : String) (items : List String) :
    String :=
  -- An empty list stays on one line in every layout.
  if items.isEmpty then opening ++ closing
  else
    opening ++ layout.lineBreak (depth + 1) ++
      (layout.comma ++ layout.lineBreak (depth + 1)).intercalate items ++
      layout.lineBreak depth ++ closing

mutual

/-- The text of a value at a depth. -/
def write (layout : Layout) (depth : Nat) : Json → String
  | null => "null"
  | bool true => "true"
  | bool false => "false"
  | int n => toString n
  | real x => realText x
  | text s => quoted s
  -- No value that is written holds such a text.
  | brokenText _ => "null"
  | list items => bracketed layout depth "[" "]" (writeItems layout (depth + 1) items)
  | object fields => bracketed layout depth "\x7b" "\x7d" (writeFields layout (depth + 1) fields)

/-- The texts of the items of a list. -/
def writeItems (layout : Layout) (depth : Nat) : List Json → List String
  | [] => []
  | item :: items => write layout depth item :: writeItems layout depth items

/-- The texts of the fields of an object. -/
def writeFields (layout : Layout) (depth : Nat) : List (String × Json) → List String
  | [] => []
  | (key, value) :: fields =>
    (quoted key ++ layout.colon ++ write layout depth value) :: writeFields layout depth fields

end

/-- The text of a value on one line. -/
def line (value : Json) : String :=
  write compact 0 value

/-- The text of a value over indented lines. -/
def page (value : Json) : String :=
  write indented 0 value

end AutomationIndex.Json
