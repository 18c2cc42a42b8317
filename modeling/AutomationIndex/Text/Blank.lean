/-! Blank characters, stripping, and the fields and words of a text. -/

namespace AutomationIndex.Text

/-- Whether a character is white space in the Unicode sense, the information separators included. -/
def isBlank (c : Char) : Bool :=
  let n := c.toNat
  (9 ≤ n && n ≤ 13) || (0x1C ≤ n && n ≤ 0x20) || n == 0x85 || n == 0xA0 || n == 0x1680 ||
    (0x2000 ≤ n && n ≤ 0x200A) || n == 0x2028 || n == 0x2029 || n == 0x202F || n == 0x205F ||
    n == 0x3000

/-- Whether a character is the white space of a notation: a blank, a tab or part of a line end. -/
def isSpace (c : Char) : Bool :=
  c == ' ' || c == '\t' || c == '\n' || c == '\r'

/-- What is left of a list when the accepted elements at its end are dropped. -/
def dropEndWhile (p : Char → Bool) (chars : List Char) : List Char :=
  (chars.reverse.dropWhile p).reverse

/-- The characters between the blanks at both ends. -/
def stripChars (chars : List Char) : List Char :=
  dropEndWhile isBlank (chars.dropWhile isBlank)

/-- A text without the blanks at its ends. -/
def strip (text : String) : String :=
  String.ofList (stripChars text.toList)

/-- The runs of characters between the accepted ones, empty runs included. -/
def runsBetween (p : Char → Bool) (chars : List Char) : List (List Char) :=
  chars.foldr step [[]]
where
  /-- Puts a character in front of the runs that follow it. -/
  step (c : Char) (runs : List (List Char)) : List (List Char) :=
    if p c then [] :: runs
    else
      match runs with
      | [] => [[c]]
      | run :: rest => (c :: run) :: rest

/-- The fields of a text between the occurrences of one character, empty fields included. -/
def fields (separator : Char) (text : String) : List String :=
  (runsBetween (· == separator) text.toList).map String.ofList

/-- The nonempty runs of characters between blanks. -/
def words (text : String) : List String :=
  ((runsBetween isBlank text.toList).filter (!·.isEmpty)).map String.ofList

/-- The parts of a list between the leftmost occurrences of a separator that do not overlap.
The count tells how many characters of a found separator are still to be passed over. -/
def partsBetween (separator : List Char) : Nat → List Char → List (List Char)
  | _, [] => [[]]
  | passing + 1, _ :: rest => partsBetween separator passing rest
  | 0, c :: rest =>
    -- A found separator is passed over character by character.
    if separator.isPrefixOf (c :: rest) then
      [] :: partsBetween separator (separator.length - 1) rest
    else
      match partsBetween separator 0 rest with
      | [] => [[c]]
      | part :: parts => (c :: part) :: parts

/-- The text with every occurrence of one character replaced by another. -/
def replaceChar (old new : Char) (text : String) : String :=
  String.ofList (text.toList.map fun c => if c == old then new else c)

/-- Whether one character list occurs within another. -/
def occursIn (needle : List Char) : List Char → Bool
  | [] => needle.isEmpty
  | c :: rest => needle.isPrefixOf (c :: rest) || occursIn needle rest

end AutomationIndex.Text
