import AutomationIndex.Xml.Doctype.Token

/-! The order of tokens outside the root element, and what each of them contributes. -/

namespace AutomationIndex.Xml.Doctype

/-- What has been read outside the root element; each phase is named for what comes next in it. -/
inductive Phase where
  | start
  | afterStart
  | afterDoctype
  | doctypeName
  | doctypeSource
  | publicIdentifier
  | systemIdentifier
  | subsetOrEnd
  | doctypeEnd
  | subset
  | entityNameOrPercent
  | parameterEntityName
  | entityBody
  | entityPublicIdentifier
  | entitySystemIdentifier
  | entityEndOrNotation
  | entityNotation
  | parameterEntityBody
  | parameterEntityPublicIdentifier
  | parameterEntitySystemIdentifier
  | parameterEntityEnd
  | notationName
  | notationSource
  | notationPublicIdentifier
  | notationSystemIdentifier
  | notationSystemIdentifierOrEnd
  | attributeElement
  | attributeNameOrEnd
  | attributeType
  | enumerationValue
  | enumerationBarOrEnd
  | notationTypeOpen
  | notationTypeValue
  | notationTypeBarOrEnd
  | attributeDefault
  | attributeFixedValue
  | elementName
  | elementModel
  | modelStart
  | mixedBarOrEnd
  | mixedName
  | mixedNameBarOrEnd
  | modelItem
  | modelConnector
  | declarationEnd
  deriving DecidableEq, Repr

/-- What a token contributes. -/
inductive Contribution where
  | nothing
  | xmlDeclaration (inner : List Char)
  | instruction (target data : List Char)
  | rootElement
  | publicIdentifier (inner innerOn : List Char)
  | doctypeSystemIdentifier
  | outsideReference
  | entityName (name : List Char)
  | parameterEntityName
  | entityValue (inner innerOn : List Char)
  | entityNotation
  | attributeElement (name : List Char)
  | attributeName (name : List Char)
  | freeTextType
  | identifierType
  | noDefault
  | defaultValue (inner innerOn : List Char)
  | groupOpen
  | groupClose
  | groupSequence
  | groupChoice
  deriving DecidableEq, Repr

/-- The keywords of attribute types other than free text, identifiers and notations. -/
def wordTypes : List String :=
  ["IDREF", "IDREFS", "ENTITY", "ENTITIES", "NMTOKEN", "NMTOKENS"]

/-- What the markup that may stand between declarations contributes. -/
def between : Token → Option Contribution
  | .space => some .nothing
  | .comment => some .nothing
  | .instruction (.processing target data) => some (.instruction target data)
  | _ => none

/-- The next phase and the contribution, for a token before the root element. -/
def stepOutside (phase : Phase) (token : Token) : Option (Phase × Contribution) :=
  match token with
  | .elementStart => some (phase, .rootElement)
  | .instruction (.declaration inner) =>
    -- The declaration of the document stands at its very start or nowhere.
    if phase == .start then some (.afterStart, .xmlDeclaration inner) else none
  | .declarationOpen keyword =>
    if phase != .afterDoctype && keyword == "DOCTYPE".toList then some (.doctypeName, .nothing)
    else none
  | token => (between token).map fun contribution =>
    (if phase == .start then .afterStart else phase, contribution)

/-- The next phase and the contribution, for a token in the head of the document type. -/
def stepHead (phase : Phase) (token : Token) : Option (Phase × Contribution) :=
  match phase, token with
  -- The name is not kept, since nothing compares it with the root's.
  | .doctypeName, .name _ => some (.doctypeSource, .nothing)
  | .doctypeName, .prefixedName _ => some (.doctypeSource, .nothing)
  | .doctypeSource, .openBracket => some (.subset, .nothing)
  | .doctypeSource, .declarationClose => some (.afterDoctype, .nothing)
  | .doctypeSource, .name keyword =>
    if keyword == "SYSTEM".toList then some (.systemIdentifier, .nothing)
    else if keyword == "PUBLIC".toList then some (.publicIdentifier, .nothing)
    else none
  | .publicIdentifier, .literal inner innerOn =>
    some (.systemIdentifier, .publicIdentifier inner innerOn)
  | .systemIdentifier, .literal _ _ => some (.subsetOrEnd, .doctypeSystemIdentifier)
  | .subsetOrEnd, .openBracket => some (.subset, .nothing)
  | .subsetOrEnd, .declarationClose => some (.afterDoctype, .nothing)
  | .doctypeEnd, .declarationClose => some (.afterDoctype, .nothing)
  | _, _ => none

/-- The next phase and the contribution, for a token between declarations. -/
def stepSubset (token : Token) : Option (Phase × Contribution) :=
  match token with
  | .declarationOpen keyword =>
    if keyword == "ENTITY".toList then some (.entityNameOrPercent, .nothing)
    else if keyword == "ATTLIST".toList then some (.attributeElement, .nothing)
    else if keyword == "ELEMENT".toList then some (.elementName, .nothing)
    else if keyword == "NOTATION".toList then some (.notationName, .nothing)
    else none
  -- What a parameter entity would bring in is not read; it only makes later names unsure.
  | .parameterReference => some (.subset, .outsideReference)
  | .closeBracket => some (.doctypeEnd, .nothing)
  | token => (between token).map fun contribution => (.subset, contribution)

/-- The phase after a keyword that tells where something outside the document is. -/
def afterSource (systemPhase publicPhase : Phase) (keyword : List Char) :
    Option (Phase × Contribution) :=
  if keyword == "SYSTEM".toList then some (systemPhase, .nothing)
  else if keyword == "PUBLIC".toList then some (publicPhase, .nothing)
  else none

/-- The next phase and the contribution, for a token in the declaration of an entity. -/
def stepEntity (phase : Phase) (token : Token) : Option (Phase × Contribution) :=
  match phase, token with
  | .entityNameOrPercent, .percent => some (.parameterEntityName, .nothing)
  | .entityNameOrPercent, .name name => some (.entityBody, .entityName name)
  | .parameterEntityName, .name _ => some (.parameterEntityBody, .parameterEntityName)
  | .entityBody, .name keyword =>
    -- An entity without a literal value names its source, and may name a notation after it.
    afterSource .entitySystemIdentifier .entityPublicIdentifier keyword
  | .entityBody, .literal inner innerOn => some (.declarationEnd, .entityValue inner innerOn)
  | .entityPublicIdentifier, .literal inner innerOn =>
    some (.entitySystemIdentifier, .publicIdentifier inner innerOn)
  | .entitySystemIdentifier, .literal _ _ => some (.entityEndOrNotation, .nothing)
  | .entityEndOrNotation, .declarationClose => some (.subset, .nothing)
  | .entityEndOrNotation, .name keyword =>
    if keyword == "NDATA".toList then some (.entityNotation, .nothing) else none
  | .entityNotation, .name _ => some (.declarationEnd, .entityNotation)
  | .parameterEntityBody, .name keyword =>
    afterSource .parameterEntitySystemIdentifier .parameterEntityPublicIdentifier keyword
  | .parameterEntityBody, .literal inner innerOn =>
    some (.declarationEnd, .entityValue inner innerOn)
  | .parameterEntityPublicIdentifier, .literal inner innerOn =>
    some (.parameterEntitySystemIdentifier, .publicIdentifier inner innerOn)
  | .parameterEntitySystemIdentifier, .literal _ _ => some (.parameterEntityEnd, .nothing)
  | .parameterEntityEnd, .declarationClose => some (.subset, .nothing)
  | _, _ => none

/-- The next phase and the contribution, for a token in the declaration of a notation. -/
def stepNotation (phase : Phase) (token : Token) : Option (Phase × Contribution) :=
  match phase, token with
  | .notationName, .name _ => some (.notationSource, .nothing)
  | .notationSource, .name keyword =>
    afterSource .notationSystemIdentifier .notationPublicIdentifier keyword
  | .notationPublicIdentifier, .literal inner innerOn =>
    some (.notationSystemIdentifierOrEnd, .publicIdentifier inner innerOn)
  | .notationSystemIdentifier, .literal _ _ => some (.declarationEnd, .nothing)
  | .notationSystemIdentifierOrEnd, .literal _ _ => some (.declarationEnd, .nothing)
  | .notationSystemIdentifierOrEnd, .declarationClose => some (.subset, .nothing)
  | _, _ => none

/-- The next phase and the contribution, for the name of an attribute type. -/
def stepAttributeType (keyword : List Char) : Option (Phase × Contribution) :=
  if keyword == "CDATA".toList then some (.attributeDefault, .freeTextType)
  else if keyword == "ID".toList then some (.attributeDefault, .identifierType)
  else if wordTypes.contains (String.ofList keyword) then some (.attributeDefault, .nothing)
  else if keyword == "NOTATION".toList then some (.notationTypeOpen, .nothing)
  else none

/-- The next phase and the contribution, for a token in the declaration of attributes. -/
def stepAttributes (phase : Phase) (token : Token) : Option (Phase × Contribution) :=
  match phase, token with
  | .attributeElement, .name name => some (.attributeNameOrEnd, .attributeElement name)
  | .attributeElement, .prefixedName name => some (.attributeNameOrEnd, .attributeElement name)
  | .attributeNameOrEnd, .declarationClose => some (.subset, .nothing)
  | .attributeNameOrEnd, .name name => some (.attributeType, .attributeName name)
  | .attributeNameOrEnd, .prefixedName name => some (.attributeType, .attributeName name)
  | .attributeType, .name keyword => stepAttributeType keyword
  | .attributeType, .openParenthesis => some (.enumerationValue, .nothing)
  -- The values of an enumeration are read and not kept.
  | .enumerationValue, .nameToken => some (.enumerationBarOrEnd, .nothing)
  | .enumerationValue, .name _ => some (.enumerationBarOrEnd, .nothing)
  | .enumerationValue, .prefixedName _ => some (.enumerationBarOrEnd, .nothing)
  | .enumerationBarOrEnd, .closeParenthesis .once => some (.attributeDefault, .nothing)
  | .enumerationBarOrEnd, .bar => some (.enumerationValue, .nothing)
  | .notationTypeOpen, .openParenthesis => some (.notationTypeValue, .nothing)
  | .notationTypeValue, .name _ => some (.notationTypeBarOrEnd, .nothing)
  | .notationTypeBarOrEnd, .closeParenthesis .once => some (.attributeDefault, .nothing)
  | .notationTypeBarOrEnd, .bar => some (.notationTypeValue, .nothing)
  | .attributeDefault, .poundName keyword =>
    if keyword == "IMPLIED".toList || keyword == "REQUIRED".toList then
      some (.attributeNameOrEnd, .noDefault)
    else if keyword == "FIXED".toList then some (.attributeFixedValue, .nothing)
    else none
  | .attributeDefault, .literal inner innerOn =>
    some (.attributeNameOrEnd, .defaultValue inner innerOn)
  | .attributeFixedValue, .literal inner innerOn =>
    some (.attributeNameOrEnd, .defaultValue inner innerOn)
  | _, _ => none

/-- The next phase and the contribution, for a token in the declaration of an element, with the
number of groups that are open in its content model. -/
def stepElement (groups : Nat) (phase : Phase) (token : Token) : Option (Phase × Contribution) :=
  match phase, token with
  | .elementName, .name _ => some (.elementModel, .nothing)
  | .elementName, .prefixedName _ => some (.elementModel, .nothing)
  | .elementModel, .name keyword =>
    if keyword == "EMPTY".toList || keyword == "ANY".toList then some (.declarationEnd, .nothing)
    else none
  | .elementModel, .openParenthesis => some (.modelStart, .groupOpen)
  | .modelStart, .poundName keyword =>
    if keyword == "PCDATA".toList then some (.mixedBarOrEnd, .nothing) else none
  | .mixedBarOrEnd, .closeParenthesis .once => some (.declarationEnd, .groupClose)
  | .mixedBarOrEnd, .closeParenthesis .repeated => some (.declarationEnd, .groupClose)
  | .mixedBarOrEnd, .bar => some (.mixedName, .nothing)
  | .mixedName, .name _ => some (.mixedNameBarOrEnd, .nothing)
  | .mixedName, .prefixedName _ => some (.mixedNameBarOrEnd, .nothing)
  | .mixedNameBarOrEnd, .closeParenthesis .repeated => some (.declarationEnd, .groupClose)
  | .mixedNameBarOrEnd, .bar => some (.mixedName, .nothing)
  | .modelConnector, .closeParenthesis _ =>
    -- Closing the outermost group ends the model, and closing an inner one goes on behind it.
    some (if groups == 1 then .declarationEnd else .modelConnector, .groupClose)
  | .modelConnector, .comma => some (.modelItem, .groupSequence)
  | .modelConnector, .bar => some (.modelItem, .groupChoice)
  | .modelConnector, _ => none
  | _, .openParenthesis =>
    if phase == .modelStart || phase == .modelItem then some (.modelItem, .groupOpen) else none
  | _, .name _ =>
    if phase == .modelStart || phase == .modelItem then some (.modelConnector, .nothing) else none
  | _, .prefixedName _ =>
    if phase == .modelStart || phase == .modelItem then some (.modelConnector, .nothing) else none
  | _, .countedName =>
    if phase == .modelStart || phase == .modelItem then some (.modelConnector, .nothing) else none
  | _, _ => none

/-- The next phase and the contribution of a token, if the token may come in a phase. -/
def step (groups : Nat) (phase : Phase) (token : Token) : Option (Phase × Contribution) :=
  match phase with
  | .start => stepOutside phase token
  | .afterStart => stepOutside phase token
  | .afterDoctype => stepOutside phase token
  | .subset => stepSubset token
  | phase =>
    -- Blanks separate the parts of a declaration everywhere but in front of the subset's tokens.
    if token == .space then some (phase, .nothing)
    else if phase == .declarationEnd then
      if token == .declarationClose then some (.subset, .nothing) else none
    else
      -- The phases of the five grammars are apart, so one of them answers at most.
      match stepHead phase token, stepEntity phase token, stepNotation phase token,
          stepAttributes phase token, stepElement groups phase token with
      | some next, _, _, _, _ => some next
      | _, some next, _, _, _ => some next
      | _, _, some next, _, _ => some next
      | _, _, _, some next, _ => some next
      | _, _, _, _, next => next

end AutomationIndex.Xml.Doctype
