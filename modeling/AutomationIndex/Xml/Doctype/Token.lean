import AutomationIndex.Xml.Source

/-! The tokens outside the root element, and how a text is cut into them. -/

namespace AutomationIndex.Xml.Doctype

/-- How often a part of a content model may occur. -/
inductive Occurrence where
  | once
  | optional
  | repeated
  | repeatedOnce
  deriving DecidableEq, Repr

/-- A token outside the root element. -/
inductive Token where
  | space
  | instruction (instruction : Instruction)
  | comment
  /-- The start of the root element. -/
  | elementStart
  | declarationOpen (keyword : List Char)
  | declarationClose
  | name (text : List Char)
  | prefixedName (text : List Char)
  | nameToken
  | countedName
  | poundName (text : List Char)
  /-- A quoted text, and the text from its first character on. -/
  | literal (inner innerOn : List Char)
  | openBracket
  | closeBracket
  | openParenthesis
  | closeParenthesis (occurrence : Occurrence)
  | comma
  | bar
  | percent
  | parameterReference
  | conditionalOpen
  | conditionalClose
  deriving DecidableEq, Repr

/-- Takes a name that the characters end in, unless it might go on. -/
def settleName (ending : Ending) (token : Token) : Except Stop (Token × List Char) :=
  match ending with
  -- The bytes that gave no character could still make the name longer.
  | .broken _ => .error .short
  | .cut => .error .short
  | _ => .ok (token, [])

/-- Takes a token that the characters end in and that only few characters may follow. -/
def settleMark (ending : Ending) (token : Token) : Except Stop (Token × List Char) :=
  match ending with
  | .broken _ => .error (.bad 0)
  | .cut => .error (.bad 0)
  | _ => .ok (token, [])

/-- Whether a character may follow a name directly. -/
def endsName (c : Char) : Bool :=
  Text.isSpace c || c == '>' || c == ')' || c == ',' || c == '|' || c == '[' || c == '%'

/-- Whether a character may follow a quoted text directly. -/
def endsLiteral (c : Char) : Bool :=
  Text.isSpace c || c == '>' || c == '%' || c == '['

/-- A quoted text, after its opening quote. -/
def scanLiteral (ending : Ending) (quote : Char) (chars : List Char) :
    Except Stop (Token × List Char) :=
  let inner := chars.takeWhile (· != quote)
  match chars.drop inner.length with
  | [] => .error .short
  -- A literal is a token only with the character behind it, or at the end of a complete text.
  | _ :: [] => settleMark ending (.literal inner chars)
  | _ :: c :: rest =>
    if endsLiteral c then .ok (.literal inner chars, c :: rest)
    else .error (.bad (rest.length + 1))

/-- The kinds of names that differ in their colons. -/
inductive NameKind where
  | plain
  | colonJustRead
  | withPrefix
  | token
  deriving DecidableEq, Repr

/-- The token of a name of a kind. -/
def NameKind.toToken (kind : NameKind) (text : List Char) : Token :=
  match kind with
  | plain => .name text
  | withPrefix => .prefixedName text
  | _ => .nameToken

/-- The rest of a name, with its characters so far in reverse order. Just after the colon of a
prefix, a character that goes on with a name makes the name a prefixed one. -/
def scanNameRest (ending : Ending) : NameKind → List Char → List Char →
    Except Stop (Token × List Char)
  | .colonJustRead, _, [] => .error .short
  | kind, found, [] => settleName ending (kind.toToken found.reverse)
  | kind, found, c :: rest =>
    if isNameChar c then
      scanNameRest ending (if kind == .colonJustRead then .withPrefix else kind) (c :: found) rest
    else
      let kind := if kind == .colonJustRead then .token else kind
      if c == ':' then
        scanNameRest ending (if kind == .plain then .colonJustRead else .token) (c :: found) rest
      else if endsName c then .ok (kind.toToken found.reverse, c :: rest)
      -- A mark of occurrence belongs to the name before it.
      else if (c == '+' || c == '*' || c == '?') && kind != .token then .ok (.countedName, rest)
      else .error (.bad (rest.length + 1))

/-- What follows the opening angle bracket of a declaration and its exclamation mark. -/
def scanDeclaration (chars : List Char) : Except Stop (Token × List Char) :=
  match chars with
  -- The text ends in the middle of a token.
  | [] => .error .short
  | '-' :: rest => do
    let (_, rest) ← scanComment rest
    .ok (.comment, rest)
  | '[' :: rest => .ok (.conditionalOpen, rest)
  | chars =>
    let keyword := chars.takeWhile fun c => c.isAlpha || c == '_'
    match chars.drop keyword.length with
    | [] => .error .short
    | c :: rest =>
      if keyword.isEmpty then .error (.bad (rest.length + 1))
      else if Text.isSpace c then .ok (.declarationOpen keyword, c :: rest)
      -- A percent sign behind the keyword opens a reference, unless it stands alone.
      else if c == '%' then
        match rest with
        | [] => .error .short
        | d :: _ =>
          if Text.isSpace d || d == '%' then .error (.bad (rest.length + 1))
          else .ok (.declarationOpen keyword, c :: rest)
      else .error (.bad (rest.length + 1))

/-- What follows a percent sign: the name of a reference, or nothing that belongs to it. -/
def scanPercent (chars : List Char) : Except Stop (Token × List Char) :=
  match chars with
  | c :: _ =>
    -- Alone the sign marks a parameter entity; in front of a name it refers to one.
    if Text.isSpace c || c == '%' then .ok (.percent, chars)
    else do
      let (_, rest) ← scanName chars
      match rest with
      | ';' :: rest => .ok (.parameterReference, rest)
      | rest => .error (.bad rest.length)
  | [] => .error .short

/-- Whether a character may follow a name with a number sign directly. -/
def endsPoundName (c : Char) : Bool :=
  Text.isSpace c || c == ')' || c == '>' || c == '%' || c == '|'

/-- A name after a number sign. -/
def scanPoundName (ending : Ending) (chars : List Char) : Except Stop (Token × List Char) := do
  needNameStart chars
  let name := chars.takeWhile isNameChar
  match chars.drop name.length with
  -- The end of the text ends the name only when no character is left undecoded.
  | [] => settleName ending (.poundName name)
  | c :: rest =>
    if endsPoundName c then .ok (.poundName name, c :: rest)
    else .error (.bad (rest.length + 1))

/-- What follows a closing parenthesis and belongs to it. -/
def scanCloseParenthesis (ending : Ending) : List Char → Except Stop (Token × List Char)
  | [] => settleMark ending (.closeParenthesis .once)
  | c :: rest =>
    if c == '*' then .ok (.closeParenthesis .repeated, rest)
    else if c == '?' then .ok (.closeParenthesis .optional, rest)
    else if c == '+' then .ok (.closeParenthesis .repeatedOnce, rest)
    -- Without a count the parenthesis ends at a blank or another mark, which is left standing.
    else if Text.isSpace c || c == '>' || c == ',' || c == '|' || c == ')' then
      .ok (.closeParenthesis .once, c :: rest)
    else .error (.bad (rest.length + 1))

/-- What follows a closing bracket and belongs to it. -/
def scanCloseBracket (hasRoom : Nat → List Char → Bool) :
    List Char → Except Stop (Token × List Char)
  | ']' :: rest =>
    -- Telling two brackets apart takes a third character, which may be cut off.
    if !hasRoom 2 (']' :: rest) then .error .short
    else
      match rest with
      | '>' :: rest => .ok (.conditionalClose, rest)
      | rest => .ok (.closeBracket, ']' :: rest)
  | rest => .ok (.closeBracket, rest)

/-- What follows an opening angle bracket. -/
def scanMarkup : List Char → Except Stop (Token × List Char)
  | [] => .error .short
  | '!' :: rest => scanDeclaration rest
  | '?' :: rest => do
    let (instruction, rest) ← scanInstruction rest
    .ok (.instruction instruction, rest)
  | c :: rest =>
    -- The root begins here: the bracket is given back with the name.
    if c.isAlpha || c == '_' || c.toNat ≥ 0x80 then .ok (.elementStart, '<' :: c :: rest)
    else .error (.bad (rest.length + 1))

/-- The next token outside the root element. -/
def scanToken (source : Source) : List Char → Except Stop (Token × List Char)
  | [] => .error .short
  | c :: rest =>
    if c == '<' then
      -- A bracket at a cut end is taken for the start of an element.
      match rest, source.ending with
      | [], .cut => .ok (.elementStart, ['<'])
      | rest, _ => scanMarkup rest
    else if Text.isSpace c then .ok (.space, rest.dropWhile Text.isSpace)
    else if c == '"' || c == '\'' then scanLiteral source.ending c rest
    else if c == '%' then scanPercent rest
    else if c == ',' then .ok (.comma, rest)
    else if c == '[' then .ok (.openBracket, rest)
    else if c == ']' then scanCloseBracket source.hasRoom rest
    else if c == '(' then .ok (.openParenthesis, rest)
    else if c == ')' then scanCloseParenthesis source.ending rest
    else if c == '|' then .ok (.bar, rest)
    else if c == '>' then .ok (.declarationClose, rest)
    else if c == '#' then scanPoundName source.ending rest
    else if isNameStart c then scanNameRest source.ending .plain [c] rest
    -- What may stand in a name but not begin one makes a token of its own kind.
    else if isNameChar c || c == ':' then scanNameRest source.ending .token [c] rest
    else .error (.bad (rest.length + 1))

end AutomationIndex.Xml.Doctype
