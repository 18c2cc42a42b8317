import AutomationIndex.Xml.Lexeme

/-! The tokens of element content, and how a text is cut into them. -/

namespace AutomationIndex.Xml

/-- An attribute as it is written: its name and raw value, and the text from each of them on. -/
structure RawAttribute where
  name : List Char
  nameOn : List Char
  value : List Char
  valueOn : List Char
  deriving DecidableEq, Repr

/-- A token of element content. -/
inductive Token where
  | startTag (name : List Char) (attributes : List RawAttribute) (isEmpty : Bool)
  | endTag (name : List Char)
  | reference (reference : Reference)
  | data (chars : List Char)
  /-- The opening of a section of literal character data. -/
  | sectionOpen
  | comment
  | instruction (instruction : Instruction)
  deriving DecidableEq, Repr

/-- The raw value of an attribute up to its closing quote, found so far in reverse order, and what
follows the quote. References in it have to be well-formed. -/
def scanValue (quote : Char) : List Char → List Char → Except Stop (List Char × List Char)
  | _, [] => .error .short
  | found, c :: rest =>
    if c == quote then .ok (found.reverse, rest)
    -- An opening bracket cannot stand in a value, not even in the text of a reference.
    else if c == '<' then .error (.bad (rest.length + 1))
    else if c == '&' then do
      let _ ← scanReference rest
      scanValue quote (c :: found) rest
    else scanValue quote (c :: found) rest

/-- The text after a character that white space may precede. -/
def scanAfterSpace (wanted : Char → Bool) (chars : List Char) :
    Except Stop (Char × List Char) :=
  match chars.dropWhile Text.isSpace with
  | [] => .error .short
  | c :: rest => if wanted c then .ok (c, rest) else .error (.bad (rest.length + 1))

/-- An attribute, from its name to its closing quote. -/
def scanAttribute (chars : List Char) : Except Stop (RawAttribute × List Char) := do
  -- Space may stand on both sides of the sign.
  let (name, rest) ← scanQualifiedName chars
  let (_, rest) ← scanAfterSpace (· == '=') rest
  let (quote, rest) ← scanAfterSpace (fun c => c == '"' || c == '\'') rest
  let (value, after) ← scanValue quote [] rest
  .ok (⟨name, chars, value, rest⟩, after)

/-- The end of a tag, if the text begins with one, and whether the element is empty. -/
def scanTagEnd? : List Char → Option (Except Stop (Bool × List Char))
  | '>' :: rest => some (.ok (false, rest))
  -- A slash alone may still become the end of an empty element.
  | '/' :: [] => some (.error .short)
  | '/' :: '>' :: rest => some (.ok (true, rest))
  | '/' :: rest => some (.error (.bad rest.length))
  | _ => none

/-- The attributes of a start tag and its end, after the attributes found so far in reverse order.
The number bounds how many attributes can follow. -/
def scanAttributes : Nat → List RawAttribute → List Char →
    Except Stop ((List RawAttribute × Bool) × List Char)
  | 0, _, _ => .error .short
  | bound + 1, found, chars =>
    match scanTagEnd? chars with
    -- The end of the tag is looked for before blanks and again after them.
    | some tagEnd => do
      let (isEmpty, rest) ← tagEnd
      .ok ((found.reverse, isEmpty), rest)
    | none =>
      match chars with
      | [] => .error .short
      | c :: rest =>
        if Text.isSpace c then
          let rest := rest.dropWhile Text.isSpace
          match scanTagEnd? rest with
          | some tagEnd => do
            let (isEmpty, rest) ← tagEnd
            .ok ((found.reverse, isEmpty), rest)
          | none => do
            let (next, rest) ← scanAttribute rest
            scanAttributes bound (next :: found) rest
        -- Two attributes are apart by at least one blank.
        else .error (.bad chars.length)

/-- A start tag, after its opening angle bracket. It has fewer attributes than the bound. -/
def scanStartTag (bound : Nat) (chars : List Char) : Except Stop (Token × List Char) := do
  let (name, rest) ← scanQualifiedName chars
  let ((attributes, isEmpty), rest) ← scanAttributes bound [] rest
  .ok (.startTag name attributes isEmpty, rest)

/-- An end tag, after its slash. Its name may hold any colons, for it has to equal another name. -/
def scanEndTag (chars : List Char) : Except Stop (Token × List Char) := do
  needNameStart chars
  let name := chars.takeWhile fun c => isNameChar c || c == ':'
  match chars.drop name.length with
  | [] => .error .short
  | c :: rest =>
    if c == '>' then .ok (.endTag name, rest)
    -- White space may stand between the name and the closing bracket.
    else if Text.isSpace c then do
      let (_, rest) ← scanAfterSpace (· == '>') rest
      .ok (.endTag name, rest)
    else .error (.bad (rest.length + 1))

/-- What follows a word at the start of a text, and otherwise the first character that differs. -/
def scanWord : List Char → List Char → Except Stop (Unit × List Char)
  | [], rest => .ok ((), rest)
  | _, [] => .error .short
  | c :: word, d :: rest => if c == d then scanWord word rest else .error (.bad (rest.length + 1))

/-- The opening of a section of character data, after its exclamation mark and first bracket. The
whole word has to be there before it is looked at. -/
def scanSectionOpen (hasRoom : Nat → List Char → Bool) (chars : List Char) :
    Except Stop (Token × List Char) :=
  -- The mark is only read when it can be complete.
  if hasRoom 6 chars then do
    let (_, rest) ← scanWord ['C', 'D', 'A', 'T', 'A', '['] chars
    .ok (.sectionOpen, rest)
  else .error .short

/-- Markup, after its opening angle bracket. `hasRoom` tells whether a text has so many coding units
and `bound` is more than the number of its characters. -/
def scanMarkup (hasRoom : Nat → List Char → Bool) (bound : Nat) :
    List Char → Except Stop (Token × List Char)
  | [] => .error .short
  -- A mark that the text ends in is incomplete, not wrong.
  | '!' :: [] => .error .short
  | '!' :: '-' :: rest => do
    let (_, rest) ← scanComment rest
    .ok (.comment, rest)
  | '!' :: '[' :: rest => scanSectionOpen hasRoom rest
  | '!' :: rest => .error (.bad rest.length)
  | '?' :: rest => do
    let (instruction, rest) ← scanInstruction rest
    .ok (.instruction instruction, rest)
  | '/' :: rest => scanEndTag rest
  | rest => scanStartTag bound rest

/-- Whether character data ends before a text: markup and references end it, and so does the end
mark of a section, which cannot stand in data. -/
def endsData : List Char → Bool
  | '<' :: _ => true
  | '&' :: _ => true
  | ']' :: ']' :: '>' :: _ => true
  | _ => false

/-- The character data at the start of a text, found so far in reverse order. -/
def scanData : List Char → List Char → List Char × List Char
  | found, [] => (found.reverse, [])
  | found, c :: rest =>
    if endsData (c :: rest) then (found.reverse, c :: rest) else scanData (c :: found) rest

/-- The next token of element content. -/
def scanToken (hasRoom : Nat → List Char → Bool) (bound : Nat) :
    List Char → Except Stop (Token × List Char)
  | [] => .error .short
  | '<' :: rest => scanMarkup hasRoom bound rest
  | '&' :: rest => do
    let (reference, rest) ← scanReference rest
    .ok (.reference reference, rest)
  | chars =>
    match scanData [] chars with
    -- Only the end mark of a section stops data at once; its third character is at fault.
    | ([], rest) => .error (.bad (rest.length - 2))
    | (data, rest) => .ok (.data data, rest)

end AutomationIndex.Xml
