import AutomationIndex.Text.Digit
import AutomationIndex.Text.Utf8
import AutomationIndex.Xml.Name

/-! The lexemes that markup is made of: names, references, comments and instructions. -/

namespace AutomationIndex.Xml

/-- Why a lexeme ends before it is complete. -/
inductive Stop where
  /-- A character that cannot stand there, with so many characters left from it on. -/
  | bad (left : Nat)
  /-- The text ends. -/
  | short
  deriving DecidableEq, Repr

/-- Refuses a text whose first character does not begin a name. -/
def needNameStart : List Char → Except Stop Unit
  | [] => .error .short
  | c :: rest => if isNameStart c then .ok () else .error (.bad (rest.length + 1))

/-- A name without colons; what ends it is for the caller to judge, but something has to. -/
def scanName (chars : List Char) : Except Stop (List Char × List Char) := do
  needNameStart chars
  let name := chars.takeWhile isNameChar
  match chars.drop name.length with
  -- A name at the very end may go on, so it is not a name yet.
  | [] => .error .short
  | rest => .ok (name, rest)

/-- A name with at most one colon, which stands between two names. -/
def scanQualifiedName (chars : List Char) : Except Stop (List Char × List Char) := do
  let (name, rest) ← scanName chars
  match rest with
  | ':' :: after => do
    let (part, rest) ← scanName after
    -- A second colon belongs to no name.
    match rest with
    | ':' :: _ => .error (.bad rest.length)
    | _ => .ok (name ++ ':' :: part, rest)
  | _ => .ok (name, rest)

/-- A reference: to an entity, or to a character by its number, where that is one. -/
inductive Reference where
  | entity (name : List Char)
  | character (c : Option Char)
  deriving DecidableEq, Repr

/-- The number that digits write in a base. -/
def numberOf (base : Nat) (digits : List Char) : Nat :=
  digits.foldl (fun value c => value * base + (Text.hexDigit? c).getD 0) 0

/-- The character with a number, if a document may hold it. -/
def characterNumbered (n : Nat) : Option Char :=
  if n.isValidChar then
    let c := Char.ofNat n
    if isDocumentChar c then some c else none
  else none

/-- The digits of a character reference in a base up to the semicolon. -/
def scanDigits (base : Nat) (isDigit : Char → Bool) (chars : List Char) :
    Except Stop (Reference × List Char) :=
  let digits := chars.takeWhile isDigit
  match chars.drop digits.length with
  | [] => .error .short
  | c :: rest =>
    -- A number without digits is refused at the character that follows.
    if !digits.isEmpty && c == ';' then
      .ok (.character (characterNumbered (numberOf base digits)), rest)
    else .error (.bad (rest.length + 1))

/-- A reference, after the ampersand. -/
def scanReference : List Char → Except Stop (Reference × List Char)
  -- A hexadecimal number is marked by a small letter only.
  | '#' :: 'x' :: rest => scanDigits 16 (fun c => (Text.hexDigit? c).isSome) rest
  | '#' :: rest => scanDigits 10 Char.isDigit rest
  | chars => do
    let (name, rest) ← scanName chars
    match rest with
    | ';' :: rest => .ok (.entity name, rest)
    | rest => .error (.bad rest.length)

/-- The characters up to two given ones in a row, found so far in reverse order, and what follows
them. -/
def scanUpTo (first second : Char) :
    List Char → List Char → Except Stop (List Char × List Char)
  | _, [] => .error .short
  | found, c :: rest =>
    match rest with
    | d :: after =>
      -- Both characters close together; the first alone is part of what is found.
      if c == first && d == second then .ok (found.reverse, after)
      else scanUpTo first second (c :: found) rest
    | [] => .error .short

/-- A comment, after its opening exclamation mark and first hyphen. -/
def scanComment : List Char → Except Stop (Unit × List Char)
  | [] => .error .short
  | '-' :: rest => do
    let (_, rest) ← scanUpTo '-' '-' [] rest
    match rest with
    | [] => .error .short
    | '>' :: rest => .ok ((), rest)
    -- Two dashes inside a comment are allowed only in front of its end.
    | rest => .error (.bad rest.length)
  | chars => .error (.bad chars.length)

/-- A processing instruction or an XML declaration. -/
inductive Instruction where
  | processing (target data : List Char)
  /-- The characters between the target and the closing question mark. -/
  | declaration (inner : List Char)
  deriving DecidableEq, Repr

/-- Refuses a target that spells the reserved one in another case; tells if it is the reserved. -/
def checkTarget (target rest : List Char) : Except Stop Bool :=
  if target == ['x', 'm', 'l'] then .ok true
  else if target.map Char.toLower == ['x', 'm', 'l'] then .error (.bad rest.length)
  else .ok false

/-- A processing instruction or XML declaration, after its opening question mark. -/
def scanInstruction (chars : List Char) : Except Stop (Instruction × List Char) := do
  let (target, rest) ← scanName chars
  match rest with
  | c :: after =>
    if Text.isSpace c then
      -- The reserved target is checked before the text behind it is read.
      let reserved ← checkTarget target rest
      let (inner, after) ← scanUpTo '?' '>' [] after
      .ok (if reserved then .declaration (c :: inner)
        else .processing target (inner.dropWhile Text.isSpace), after)
    else if c == '?' then
      let reserved ← checkTarget target rest
      match after with
      | [] => .error .short
      | '>' :: after =>
        .ok (if reserved then .declaration [] else .processing target [], after)
      | after => .error (.bad after.length)
    else .error (.bad rest.length)
  | [] => .error .short

end AutomationIndex.Xml
