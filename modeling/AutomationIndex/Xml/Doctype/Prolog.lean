import AutomationIndex.Xml.Declaration
import AutomationIndex.Xml.Doctype.Grammar
import AutomationIndex.Xml.Value

/-! The text before the root element: its instructions and the declarations it makes. -/

namespace AutomationIndex.Xml.Doctype

/-- A processing instruction: its target and its data. -/
abbrev Processing := List Char × List Char

/-- What joins the parts of a group of a content model. -/
inductive Connector where
  | sequence
  | choice
  deriving DecidableEq, Repr

/-- What has been read before the root element. -/
structure Prolog where
  phase : Phase
  declarations : Declarations
  /-- The processing instructions, in reverse order. -/
  reversedInstructions : List Processing
  /-- The open groups of a content model, with what joins their parts, the innermost first. -/
  groups : List (Option Connector)
  /-- The entity being declared, if its declaration counts. -/
  entity : Option (List Char)
  /-- The element and the attribute being declared, and what is known of the attribute. -/
  element : List Char
  attributeName : List Char
  isFreeText : Bool
  identifies : Bool
  /-- The size of the entity texts read. -/
  spent : Nat

/-- Nothing has been read. -/
def Prolog.empty : Prolog :=
  ⟨.start, {}, [], [], none, [], [], false, false, 0⟩

/-- Whether a character may stand in a public identifier. -/
def isPublicIdentifierChar (c : Char) : Bool :=
  c.isAlphanum || c == ' ' || c == '\r' || c == '\n' || "-'()+,./:=?;!*#@$_%".toList.contains c

/-- A fault of a value between quotes, at its place in the document. -/
def valueFault (tokenOn inner innerOn : List Char) (fault : ValueFault) : Fault :=
  match fault.left with
  | some left => ⟨fault.cause, innerOn.length - inner.length + left⟩
  | none => ⟨fault.cause, tokenOn.length⟩

/-- Starts the declaration of an entity. -/
def Prolog.nameEntity (prolog : Prolog) (name : List Char) : Prolog :=
  -- The first declaration of an entity counts, and predefined ones stay as they are.
  if (predefined? name).isSome || prolog.declarations.stopped ||
      (prolog.declarations.entity? name).isSome then
    { prolog with entity := none }
  else
    { prolog with
      entity := some name
      declarations := prolog.declarations.declareEntity name .external }

/-- Settles what the entity being declared stands for. -/
def Prolog.settleEntity (prolog : Prolog) (body : EntityBody) : Prolog :=
  match prolog.entity with
  | some name => { prolog with declarations := prolog.declarations.reviseEntity name body }
  | none => prolog

/-- Declares the attribute whose declaration has been read. -/
def Prolog.settleAttribute (prolog : Prolog) (identifies : Bool) (value : Option (List Char)) :
    Prolog :=
  { prolog with
    declarations := prolog.declarations.declareAttribute prolog.element identifies
      ⟨prolog.attributeName, prolog.isFreeText, value⟩ }

/-- Notes what joins the parts of the innermost group; it cannot change within the group. -/
def Prolog.connect (prolog : Prolog) (left : Nat) (connector : Connector) :
    Except Fault Prolog :=
  match prolog.groups with
  -- One group is joined by one connector throughout.
  | some other :: _ => if other == connector then .ok prolog else .error ⟨.syntaxError, left⟩
  | none :: outer => .ok { prolog with groups := some connector :: outer }
  | [] => .ok prolog

/-- Declares the attribute being read with a default value. -/
def Prolog.settleDefault (source : Source) (prolog : Prolog) (tokenOn inner innerOn : List Char) :
    Except Fault Prolog :=
  -- Once entities are unsure, later declarations are read and not recorded.
  if prolog.declarations.stopped then .ok prolog
  else
    let direct :=
      if inner.contains '&' then source.bytes source.chars - source.bytes innerOn else 0
    match attributeValue ⟨prolog.declarations, !prolog.isFreeText, direct⟩ prolog.spent inner with
    | .error fault => .error (valueFault tokenOn inner innerOn fault)
    | .ok (value, spent) => .ok ({ prolog with spent }.settleAttribute false (some value))

/-- Takes the contribution of a token into account; `rest` is the text after the token. -/
def Prolog.contribute (source : Source) (prolog : Prolog) (tokenOn rest : List Char) :
    Contribution → Except Fault Prolog
  | .nothing => .ok prolog
  | .rootElement => .ok prolog
  | .xmlDeclaration inner =>
    match Declaration.read inner with
    | .error placeOn => .error ⟨.malformedDeclaration, declarationLeft rest.length placeOn⟩
    | .ok declaration =>
      .ok { prolog with
        declarations := { prolog.declarations with standalone := declaration.standalone } }
  | .instruction target data =>
    .ok { prolog with reversedInstructions := (target, data) :: prolog.reversedInstructions }
  | .publicIdentifier inner innerOn =>
    let sound := inner.takeWhile isPublicIdentifierChar
    if sound.length == inner.length then .ok prolog
    else .error ⟨.publicIdentifier, innerOn.length - sound.length⟩
  | .doctypeSystemIdentifier =>
    .ok { prolog with declarations := { prolog.declarations with hasOutside := true } }
  | .outsideReference =>
    .ok { prolog with
      declarations := { prolog.declarations with
        hasOutside := true
        -- After a reference that is not followed, later declarations may depend on its text.
        stopped := !prolog.declarations.standalone } }
  | .entityName name => .ok (prolog.nameEntity name)
  | .parameterEntityName => .ok { prolog with entity := none }
  | .entityValue inner innerOn =>
    if prolog.declarations.stopped then .ok prolog
    else
      match entityValue (inner.length + 1) [] inner with
      | .error fault => .error (valueFault tokenOn inner innerOn fault)
      | .ok chars => .ok (prolog.settleEntity (.text chars))
  | .entityNotation =>
    .ok (if prolog.declarations.stopped then prolog else prolog.settleEntity .unparsed)
  | .attributeElement name => .ok { prolog with element := name }
  | .attributeName name =>
    .ok { prolog with attributeName := name, isFreeText := false, identifies := false }
  | .freeTextType => .ok { prolog with isFreeText := true }
  | .identifierType => .ok { prolog with identifies := true }
  | .noDefault =>
    .ok (if prolog.declarations.stopped then prolog
      else prolog.settleAttribute prolog.identifies none)
  | .defaultValue inner innerOn => prolog.settleDefault source tokenOn inner innerOn
  | .groupOpen => .ok { prolog with groups := none :: prolog.groups }
  | .groupClose => .ok { prolog with groups := prolog.groups.drop 1 }
  | .groupSequence => prolog.connect tokenOn.length .sequence
  | .groupChoice => prolog.connect tokenOn.length .choice

/-- Why a token that may not come in a phase is refused. -/
def refusal : Token → Cause
  | .parameterReference => .parameterReference
  | .instruction (.declaration _) => .misplacedDeclaration
  | _ => .syntaxError

/-- Reads up to the root element. The number bounds how many tokens follow. -/
def readProlog (source : Source) :
    Nat → List Char → Prolog → Except Fault (Prolog × List Char)
  | 0, chars, _ => .error ⟨.unclosedToken, chars.length⟩
  | _, [], _ => .error (source.endFault ⟨.noElement, 0⟩)
  | bound + 1, chars, prolog =>
    match scanToken source chars with
    | .error stop => .error (source.stopFault chars.length stop)
    | .ok (token, rest) =>
      match step prolog.groups.length prolog.phase token with
      | none => .error ⟨refusal token, chars.length⟩
      -- The root element is left to the reader of content, its bracket included.
      | some (_, .rootElement) => .ok (prolog, chars)
      | some (phase, contribution) =>
        match { prolog with phase }.contribute source chars rest contribution with
        | .error fault => .error fault
        | .ok prolog => readProlog source bound rest prolog

/-- Reads what follows the root element, which is space, comments and instructions only. -/
def readEpilog (source : Source) : Nat → List Char → Except Fault Unit
  | 0, _ => .ok ()
  | _, [] =>
    match source.ending with
    | .complete => .ok ()
    | _ => .error (source.endFault ⟨.junkAfterElement, 0⟩)
  | bound + 1, chars =>
    match scanToken source chars with
    | .error stop => .error (source.stopFault chars.length stop)
    | .ok (token, rest) =>
      -- Behind the root only what stands between declarations is allowed.
      if (between token).isSome then readEpilog source bound rest
      else .error ⟨.junkAfterElement, chars.length⟩

end AutomationIndex.Xml.Doctype
