import AutomationIndex.Xml.Declarations

/-! The values of attributes and entities: references replaced and white space made plain. -/

namespace AutomationIndex.Xml

/-- A fault in a value, with the number of characters of the value left at its place; a fault in the
text of an entity has no place in the value. -/
structure ValueFault where
  cause : Cause
  left : Option Nat
  deriving DecidableEq, Repr

/-- What an attribute value has become so far: its characters in reverse order, and the size of the
entity texts that went into it and into the document before it. -/
structure ValueState where
  reversed : List Char
  spent : Nat

/-- Adds a blank; where values are lists of words, none at the start and none after another. -/
def ValueState.addBlank (state : ValueState) (asWords : Bool) : ValueState :=
  if asWords && (state.reversed.isEmpty || state.reversed.head? == some ' ') then state
  else { state with reversed := ' ' :: state.reversed }

/-- Adds a character. -/
def ValueState.add (state : ValueState) (c : Char) : ValueState :=
  { state with reversed := c :: state.reversed }

/-- How attribute values are read: the declarations in force, whether the value is a list of words,
and the size of the document up to it. -/
structure ValueContext where
  declarations : Declarations
  asWords : Bool
  direct : Nat

/-- Reads the rest of a value. The first number bounds how deep entities can be nested and the
second how many characters follow; `opened` are the entities whose text is being read. -/
def readValue (context : ValueContext) :
    Nat → Nat → List (List Char) → List Char → ValueState → Except ValueFault ValueState
  | _, 0, _, _, state => .ok state
  | _, _, _, [], state => .ok state
  | depth, bound + 1, opened, '&' :: rest, state =>
    let here := if opened.isEmpty then some (rest.length + 1) else none
    match scanReference rest with
    | .error (.bad left) => .error ⟨.invalidToken, if opened.isEmpty then some left else none⟩
    | .error .short => .error ⟨.invalidToken, here⟩
    | .ok (.character none, _) => .error ⟨.invalidCharacterNumber, here⟩
    | .ok (.character (some c), rest) =>
      readValue context depth bound opened rest
        (if c == ' ' then state.addBlank context.asWords else state.add c)
    | .ok (.entity name, rest) =>
      match predefined? name with
      | some c => readValue context depth bound opened rest (state.add c)
      | none =>
        match context.declarations.entity? name with
        | none =>
          -- Where declarations were passed over, the entity may be among them.
          if context.declarations.isComplete then .error ⟨.undefinedEntity, none⟩
          else readValue context depth bound opened rest state
        | some body =>
          if opened.contains name then .error ⟨.recursiveEntity, none⟩
          else
            match depth, body with
            | _, .unparsed => .error ⟨.binaryEntity, here⟩
            -- Only the document itself gives these faults a place of their own.
            | _, .external => .error ⟨.externalEntityInAttribute, here⟩
            | 0, .text _ => .error ⟨.recursiveEntity, none⟩
            | depth + 1, .text chars =>
              let spent := state.spent + byteSize chars
              if isOverspent context.direct spent then .error ⟨.amplification, none⟩
              else
                match readValue context depth (chars.length + 1) (name :: opened) chars
                    { state with spent } with
                | .error fault => .error fault
                | .ok state => readValue context (depth + 1) bound opened rest state
  | depth, bound + 1, opened, '\r' :: '\n' :: rest, state =>
    readValue context depth bound opened rest (state.addBlank context.asWords)
  | depth, bound + 1, opened, c :: rest, state =>
    if c == '<' then
      .error ⟨.invalidToken, if opened.isEmpty then some (rest.length + 1) else none⟩
    else
      readValue context depth bound opened rest
        (if Text.isSpace c then state.addBlank context.asWords else state.add c)
termination_by depth bound => (depth, bound)

/-- The value of an attribute, from what is written between its quotes, and what has been spent on
entity texts after it. -/
def attributeValue (context : ValueContext) (spent : Nat) (raw : List Char) :
    Except ValueFault (List Char × Nat) := do
  let state ← readValue context (context.declarations.entities.length + 1) (raw.length + 1) [] raw
    ⟨[], spent⟩
  -- In a value read as words the spaces at both ends fall away; one may be left at the end.
  let reversed :=
    if context.asWords && state.reversed.head? == some ' ' then state.reversed.drop 1
    else state.reversed
  .ok (reversed.reverse, state.spent)

/-- The name of a parameter entity reference, after its percent sign, and what follows it. -/
def scanParameterReference (chars : List Char) : Except Stop (List Char × List Char) := do
  let (name, rest) ← scanName chars
  match rest with
  | ';' :: rest => .ok (name, rest)
  | rest => .error (.bad rest.length)

/-- The text of a declared entity, from what is written between its quotes and found so far in
reverse order: references to characters are replaced, references to entities are kept. -/
def entityValue : Nat → List Char → List Char → Except ValueFault (List Char)
  | 0, found, _ => .ok found.reverse
  | _, found, [] => .ok found.reverse
  | bound + 1, found, '&' :: rest =>
    match scanReference rest with
    | .error (.bad left) => .error ⟨.invalidToken, some left⟩
    | .error .short => .error ⟨.invalidToken, some (rest.length + 1)⟩
    | .ok (.character none, _) => .error ⟨.invalidCharacterNumber, some (rest.length + 1)⟩
    | .ok (.character (some c), after) => entityValue bound (c :: found) after
    | .ok (.entity name, after) =>
      entityValue bound (';' :: name.reverse ++ '&' :: found) after
  | _ + 1, _, '%' :: rest =>
    match scanParameterReference rest with
    | .error (.bad left) => .error ⟨.invalidToken, some left⟩
    | .error .short => .error ⟨.invalidToken, some (rest.length + 1)⟩
    | .ok _ => .error ⟨.parameterReference, some (rest.length + 1)⟩
  -- Line ends become single line feeds here, before the text is read as markup.
  | bound + 1, found, '\r' :: '\n' :: rest => entityValue bound ('\n' :: found) rest
  | bound + 1, found, c :: rest =>
    entityValue bound ((if c == '\r' then '\n' else c) :: found) rest

end AutomationIndex.Xml
