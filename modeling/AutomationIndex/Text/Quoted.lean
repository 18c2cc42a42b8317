import AutomationIndex.Text.Case
import AutomationIndex.Text.VisibleTable

/-! Texts between quotes, as messages show them: what has no visible form is escaped. -/

namespace AutomationIndex.Text

/-- Whether a character has a visible form; a plain blank counts. -/
def isVisible (c : Char) : Bool :=
  let n := c.toNat
  if n < 0x80 then 0x20 ≤ n && n < 0x7F else !inRanges invisibleRanges n

/-- The last hexadecimal digits of a number. -/
def hexDigits : Nat → Nat → List Char
  | 0, _ => []
  | count + 1, n => hexDigits count (n / 16) ++ [Nat.digitChar (n % 16)]

/-- A character between quotes of a kind. -/
def quotedChar (quote c : Char) : List Char :=
  let n := c.toNat
  if c == quote || c == '\\' then ['\\', c]
  else if c == '\n' then ['\\', 'n']
  else if c == '\r' then ['\\', 'r']
  else if c == '\t' then ['\\', 't']
  -- Anything that shows is kept, and the rest is numbered in the shortest form that holds it.
  else if isVisible c then [c]
  else if n < 0x100 then '\\' :: 'x' :: hexDigits 2 n
  else if n < 0x10000 then '\\' :: 'u' :: hexDigits 4 n
  else '\\' :: 'U' :: hexDigits 8 n

/-- A text between apostrophes, or between double quotes where it holds an apostrophe and no
double quote. -/
def quoted (text : String) : String :=
  let chars := text.toList
  let quote := if chars.contains '\'' && !chars.contains '"' then '"' else '\''
  String.ofList (quote :: chars.flatMap (quotedChar quote) ++ [quote])

end AutomationIndex.Text
