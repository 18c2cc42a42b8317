import AutomationIndex.Text.Blank

/-! The versions that a file's leading instruction names. -/

namespace AutomationIndex

/-- The versions of a file: of the tool that wrote it, of its format, and of the work in it. -/
structure Header where
  version : Option String := none
  fileVersion : Option String := none
  workingVersion : Option String := none
  deriving DecidableEq, Repr

namespace Header

/-- The version number at the start of a text, which a quote may precede: digits and dots, of which
the first is a digit. -/
def numberAt (chars : List Char) : Option (List Char) :=
  -- One quote in front of the number is passed over, whether or not another one closes it.
  let unquoted :=
    match chars with
    | '"' :: rest => rest
    | chars => chars
  match unquoted with
  | c :: _ =>
    if c.isDigit then some (unquoted.takeWhile fun c => c.isDigit || c == '.') else none
  | [] => none

/-- The number after the first mention of a key that a number follows. A standalone key does not
count after a letter; `blocked` tells that one precedes the text. -/
def numberAfter (key : List Char) (standalone : Bool) : Bool → List Char → Option (List Char)
  | _, [] => none
  | blocked, c :: rest =>
    -- The first occurrence with a number behind it counts; others are passed over.
    let here :=
      if !blocked && key.isPrefixOf (c :: rest) then numberAt ((c :: rest).drop key.length)
      else none
    match here with
    | some number => some number
    -- A key that stands alone is not looked for behind a letter.
    | none => numberAfter key standalone (standalone && c.isAlpha) rest

/-- The versions that the text of an instruction names. The plain version is not part of a longer
word. -/
def ofInstruction (text : String) : Header :=
  let find := fun key standalone =>
    (numberAfter (key : String).toList standalone false text.toList).map String.ofList
  ⟨find "Version=" true, find "FileVersion=" false, find "WorkingVersion=" false⟩

end Header

end AutomationIndex
