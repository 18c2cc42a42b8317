import AutomationIndex.Xml.Lexeme

/-! The XML declaration: its version, encoding and standalone marks. -/

namespace AutomationIndex.Xml

/-- What an XML declaration says. -/
structure Declaration where
  /-- The name of an encoding, and the text from it on. -/
  encoding : Option (List Char × List Char)
  standalone : Bool
  deriving DecidableEq, Repr

/-- A mark of an XML declaration: the text from its name on, the name, the text from its value on,
and the value. -/
structure Mark where
  nameOn : List Char
  name : List Char
  valueOn : List Char
  value : List Char
  deriving DecidableEq, Repr

/-- Whether a character may stand in the value of a mark. -/
def isMarkChar (c : Char) : Bool :=
  c.isAlphanum || c == '.' || c == '-' || c == '_'

/-- The value of a mark, after its opening quote, and what follows the closing one. -/
def readMarkValue (quote : Char) (chars : List Char) :
    Except (List Char) (List Char × List Char) :=
  let value := chars.takeWhile isMarkChar
  match chars.drop value.length with
  -- The value ends at its own quotation mark only.
  | c :: rest => if c == quote then .ok (value, rest) else .error (c :: rest)
  | [] => .error []

/-- The next mark of a declaration and what follows it, if there is one. A fault is the text from
the place on where it lies. -/
def readMark (chars : List Char) : Except (List Char) (Option Mark × List Char) :=
  match chars with
  | [] => .ok (none, [])
  | c :: _ =>
    if !Text.isSpace c then .error chars
    else
      match chars.dropWhile Text.isSpace with
      -- Blanks at the very end are no attribute, and they are left for the caller.
      | [] => .ok (none, chars)
      | nameOn =>
        -- A name is of ASCII here; what else stands in front of the equals sign is an error at its
        -- place.
        let name := nameOn.takeWhile fun c => c.toNat < 0x80 && c != '=' && !Text.isSpace c
        match (nameOn.drop name.length).dropWhile Text.isSpace with
        | '=' :: rest =>
          if name.isEmpty then .error nameOn
          else
            match rest.dropWhile Text.isSpace with
            | quote :: valueOn =>
              if quote == '"' || quote == '\'' then do
                let (value, rest) ← readMarkValue quote valueOn
                .ok (some ⟨nameOn, name, valueOn, value⟩, rest)
              else .error (quote :: valueOn)
            | [] => .error []
        | rest => .error rest

/-- The standalone mark of a declaration, after which nothing may come. -/
def readStandalone (mark : Mark) (rest : List Char) : Except (List Char) Bool :=
  if mark.name != "standalone".toList then .error mark.nameOn
  else if mark.value != "yes".toList && mark.value != "no".toList then .error mark.valueOn
  else
    -- Nothing but space may follow the last mark.
    match rest.dropWhile Text.isSpace with
    | [] => .ok (mark.value == "yes".toList)
    | rest => .error rest

/-- The encoding mark of a declaration, if there is one, and what comes after. -/
def readAfterVersion (mark : Mark) (rest : List Char) : Except (List Char) Declaration :=
  -- After the version comes the encoding or the standalone mark, in this order.
  if mark.name == "encoding".toList then
    match mark.value.head? with
    | some c =>
      if c.isAlpha then do
        match ← readMark rest with
        | (none, _) => .ok ⟨some (mark.value, mark.valueOn), false⟩
        | (some next, rest) =>
          .ok ⟨some (mark.value, mark.valueOn), ← readStandalone next rest⟩
      else .error mark.valueOn
    | none => .error mark.valueOn
  else do .ok ⟨none, ← readStandalone mark rest⟩

/-- What a declaration says, from the characters between its target and its closing mark. -/
def Declaration.read (inner : List Char) : Except (List Char) Declaration := do
  match ← readMark inner with
  | (none, _) => .error inner
  | (some version, rest) =>
    -- The version comes first; alone it is a whole declaration.
    if version.name != "version".toList then .error version.nameOn
    else
      match ← readMark rest with
      | (none, _) => .ok ⟨none, false⟩
      | (some mark, rest) => readAfterVersion mark rest

/-- The characters left in a document at a place in a declaration, given how many are left at its
end: its closing mark takes two. -/
def declarationLeft (leftAfter : Nat) (placeOn : List Char) : Nat :=
  leftAfter + 2 + placeOn.length

end AutomationIndex.Xml
