import AutomationIndex.Toml.Fault

/-! TOML keys and strings, comments and the gaps between tokens. -/

namespace AutomationIndex.Toml

/-- Whether a character is space within a line. -/
def isSpace (c : Char) : Bool :=
  c == ' ' || c == '\t'

/-- Whether a character is space or ends a line. -/
def isGap (c : Char) : Bool :=
  isSpace c || c == '\n'

/-- The text after leading space. -/
def skipSpace (chars : List Char) : List Char :=
  chars.dropWhile isSpace

/-- Whether a character is a control character other than the tab. -/
def isControl (c : Char) : Bool :=
  (c.toNat < 32 && c != '\t') || c.toNat == 127

/-- Whether a control character may not stand in a string, where line ends count or not. -/
def isForbidden (multiline : Bool) (c : Char) : Bool :=
  isControl c && !(multiline && c == '\n')

/-- Refuses the first forbidden character of a stretch that a rest follows. -/
def refuseForbidden (multiline : Bool) (stretch rest : List Char) : Except Fault Unit :=
  match stretch.dropWhile fun c => !isForbidden multiline c with
  | [] => .ok ()
  | c :: others => .error ⟨.invalidCharacter c, others.length + 1 + rest.length⟩

/-- The text after a comment, if there is one here. -/
def skipComment : List Char → Except Fault (List Char)
  | '#' :: chars => do
    let body := chars.takeWhile (· != '\n')
    let rest := chars.drop body.length
    refuseForbidden false body rest
    return rest
  | chars => .ok chars

/-- The text after space, line ends and comments. -/
def skipGaps : Nat → List Char → Except Fault (List Char)
  | 0, chars => .ok chars
  | fuel + 1, chars =>
    match chars.dropWhile isGap with
    | '#' :: rest => do skipGaps fuel (← skipComment ('#' :: rest))
    | rest => .ok rest

/-- The text after space, line ends and comments. -/
def skipAllGaps (chars : List Char) : Except Fault (List Char) :=
  skipGaps (chars.length + 1) chars

/-- The value of hexadecimal digits, if all are. -/
def hexValue? : List Char → Option Nat
  | digits => digits.foldlM (fun value c => (Text.hexDigit? c).map (value * 16 + ·)) 0

/-- The character with the number that so many hexadecimal digits give, and what follows. -/
def readHexadecimal (count : Nat) (chars : List Char) : Except Fault (List Char × List Char) :=
  let digits := chars.take count
  match hexValue? digits with
  | some n =>
    if digits.length < count then .error (faultAt .hexadecimal chars)
    -- A surrogate is a number but no character.
    else if n.isValidChar then .ok ([Char.ofNat n], chars.drop count)
    else .error (faultAt .noScalar (chars.drop count))
  | none => .error (faultAt .hexadecimal chars)

/-- The character that a letter after a backslash stands for. -/
def simpleEscape? : Char → Option Char
  | 'b' => some (Char.ofNat 8)
  | 't' => some '\t'
  | 'n' => some '\n'
  | 'f' => some (Char.ofNat 12)
  | 'r' => some '\r'
  | '"' => some '"'
  | '\\' => some '\\'
  | _ => none

/-- What an escape stands for, from the character after the backslash on. Over several lines, a
backslash before a line end takes away the line end and all space after it. -/
def readEscape (multiline : Bool) : List Char → Except Fault (List Char × List Char)
  | [] => .error (faultAt .escape [])
  | c :: rest =>
    if multiline && isSpace c then
      match skipSpace rest with
      | [] => .ok ([], [])
      -- A backslash at the end of a line joins it to the next text.
      | '\n' :: rest => .ok ([], rest.dropWhile isGap)
      | rest => .error (faultAt .escape rest)
    else if multiline && c == '\n' then .ok ([], rest.dropWhile isGap)
    else if c == 'u' then readHexadecimal 4 rest
    else if c == 'U' then readHexadecimal 8 rest
    else
      match simpleEscape? c with
      | some escaped => .ok ([escaped], rest)
      | none => .error (faultAt .escape rest)

/-- The characters of a string in double quotes and what follows it, after those found so far in
reverse order. -/
def readBasic (multiline : Bool) : Nat → List Char → List Char →
    Except Fault (List Char × List Char)
  | 0, _, _ => .error (faultAt .unterminated [])
  | _, _, [] => .error (faultAt .unterminated [])
  | fuel + 1, found, '"' :: rest =>
    -- In one line a quote ends the text, and over several lines three of them do.
    if !multiline then .ok (found.reverse, rest)
    else
      match rest with
      | '"' :: '"' :: rest => .ok (found.reverse, rest)
      | rest => readBasic multiline fuel ('"' :: found) rest
  | fuel + 1, found, '\\' :: rest => do
    let (escaped, rest) ← readEscape multiline rest
    readBasic multiline fuel (escaped.reverse ++ found) rest
  | fuel + 1, found, c :: rest =>
    if isForbidden multiline c then .error (faultAt (.illegalCharacter c) (c :: rest))
    else readBasic multiline fuel (c :: found) rest

/-- The characters of a string in double quotes, after the opening ones. -/
def readBasicString (multiline : Bool) (chars : List Char) : Except Fault (List Char × List Char) :=
  readBasic multiline (chars.length + 1) [] chars

/-- The characters of a string between apostrophes, after the opening one. -/
def readLiteral (chars : List Char) : Except Fault (List Char × List Char) :=
  let body := chars.takeWhile (· != '\'')
  match chars.drop body.length with
  | [] => .error (faultAt (.noClosing "'") [])
  | quote :: rest => do
    refuseForbidden false body (quote :: rest)
    return (body, rest)

/-- What stands before three apostrophes in a row, and what after them. -/
def splitTriple : List Char → Option (List Char × List Char)
  | '\'' :: '\'' :: '\'' :: rest => some ([], rest)
  | c :: rest => (splitTriple rest).map fun (before, after) => (c :: before, after)
  | [] => none

/-- The characters of a string between three apostrophes, after the opening ones. -/
def readLongLiteral (chars : List Char) : Except Fault (List Char × List Char) :=
  match splitTriple chars with
  | none => .error (faultAt (.noClosing "'''") [])
  | some (body, rest) => do
    -- The closing quotes belong to the rest when a forbidden character is located.
    refuseForbidden true body ('\'' :: '\'' :: '\'' :: rest)
    return (body, rest)

/-- Up to two more quotes right after the closing ones belong to the string. -/
def takeExtraQuotes (quote : Char) (body : List Char) (rest : List Char) : List Char × List Char :=
  let extra := (rest.take 2).takeWhile (· == quote)
  (body ++ extra, rest.drop extra.length)

/-- The text without a line end at its start. -/
def dropLineEnd : List Char → List Char
  | '\n' :: rest => rest
  | chars => chars

/-- The text of a string of any kind and what follows it, if one starts here. -/
def readString? (chars : List Char) : Option (Except Fault (String × List Char)) :=
  let found : Option (Except Fault (List Char × List Char)) :=
    match chars with
    | '"' :: '"' :: '"' :: rest =>
      some ((readBasicString true (dropLineEnd rest)).map fun (body, rest) =>
        takeExtraQuotes '"' body rest)
    | '"' :: rest => some (readBasicString false rest)
    | '\'' :: '\'' :: '\'' :: rest =>
      -- A line end right behind the opening is not part of the text.
      some ((readLongLiteral (dropLineEnd rest)).map fun (body, rest) =>
        takeExtraQuotes '\'' body rest)
    | '\'' :: rest => some (readLiteral rest)
    | _ => none
  found.map fun result => result.map fun (body, rest) => (String.ofList body, rest)

/-- Whether a character may stand in a key without quotes. -/
def isBare (c : Char) : Bool :=
  c.isAlphanum || c == '-' || c == '_'

/-- One part of a key, and what follows it. -/
def readKeyPart (chars : List Char) : Except Fault (String × List Char) :=
  match chars with
  | '\'' :: rest => (readLiteral rest).map fun (body, rest) => (String.ofList body, rest)
  | '"' :: rest => (readBasicString false rest).map fun (body, rest) => (String.ofList body, rest)
  | chars =>
    -- A bare part ends where its letters do; none at all is a fault.
    match chars.takeWhile isBare with
    | [] => .error (faultAt .keyStart chars)
    | bare => .ok (String.ofList bare, chars.drop bare.length)

/-- The parts of a dotted key and what follows them and the space after them. -/
def readKeyParts : Nat → List Char → Except Fault (Key × List Char)
  | 0, chars => .error (faultAt .keyStart chars)
  | fuel + 1, chars => do
    let (part, rest) ← readKeyPart chars
    match skipSpace rest with
    | '.' :: rest =>
      let (parts, rest) ← readKeyParts fuel (skipSpace rest)
      return (part :: parts, rest)
    | rest => return ([part], rest)

/-- A dotted key and what follows it. -/
def readKey (chars : List Char) : Except Fault (Key × List Char) :=
  readKeyParts (chars.length + 1) chars

end AutomationIndex.Toml
