import AutomationIndex.Text.Blank
import AutomationIndex.Text.Case

/-! The values that package files write in attributes: flags, options and lists. -/

namespace AutomationIndex.Attribute

/-- A value that is there and not empty. -/
def nonempty (value : Option String) : Option String :=
  value.filter (· != "")

/-- The flag that a value spells in any case, if it spells one. -/
def flag? (value : Option String) : Option Bool :=
  -- Neither word is an unset flag, not a fault.
  match value.map fun text => Text.toSmall (Text.strip text) with
  | some "true" => some true
  | some "false" => some false
  | _ => none

/-- Whether a value spells a set flag. -/
def flag (value : Option String) : Bool :=
  (flag? value).getD false

/-- The options of a value, which blanks separate. -/
def options (value : Option String) : List String :=
  Text.words (value.getD "")

/-- The items of a value, without the blanks around them; blank items do not count. -/
def itemsBetween (separator : List Char) (value : String) : List String :=
  ((Text.partsBetween separator 0 value.toList).map Text.stripChars).filter (!·.isEmpty)
    |>.map String.ofList

/-- The items of a value, which semicolons separate. -/
def items (value : Option String) : List String :=
  itemsBetween [';'] (value.getD "")

end AutomationIndex.Attribute
