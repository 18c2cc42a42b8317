/-! What can be wrong with an XML document, and where. -/

namespace AutomationIndex.Xml

/-- The causes for which a document is refused. -/
inductive Cause where
  | syntaxError
  | noElement
  | invalidToken
  | unclosedToken
  | partialCharacter
  | tagMismatch
  | duplicateAttribute
  | junkAfterElement
  | parameterReference
  | undefinedEntity
  /-- A reference that no declaration in reach explains, where there are others elsewhere. -/
  | skippedEntity (reference : String)
  | recursiveEntity
  | unbalancedEntity
  | invalidCharacterNumber
  | binaryEntity
  | externalEntityInAttribute
  | misplacedDeclaration
  | unknownEncoding
  | incorrectEncoding
  | unclosedCharacterData
  | unboundPrefix
  | undeclaredPrefix
  | malformedDeclaration
  | publicIdentifier
  | reservedXmlPrefix
  | reservedXmlnsPrefix
  | reservedNamespace
  | amplification
  deriving DecidableEq, Repr

/-- The wording of a cause. -/
def Cause.message : Cause → String
  | syntaxError => "syntax error"
  | noElement => "no element found"
  | invalidToken => "not well-formed (invalid token)"
  | unclosedToken => "unclosed token"
  | partialCharacter => "partial character"
  | tagMismatch => "mismatched tag"
  | duplicateAttribute => "duplicate attribute"
  | junkAfterElement => "junk after document element"
  | parameterReference => "illegal parameter entity reference"
  | undefinedEntity => "undefined entity"
  | skippedEntity reference => "undefined entity " ++ reference
  | recursiveEntity => "recursive entity reference"
  | unbalancedEntity => "asynchronous entity"
  | invalidCharacterNumber => "reference to invalid character number"
  | binaryEntity => "reference to binary entity"
  | externalEntityInAttribute => "reference to external entity in attribute"
  | misplacedDeclaration => "XML or text declaration not at start of entity"
  | unknownEncoding => "unknown encoding"
  | incorrectEncoding => "encoding specified in XML declaration is incorrect"
  | unclosedCharacterData => "unclosed CDATA section"
  | unboundPrefix => "unbound prefix"
  | undeclaredPrefix => "must not undeclare prefix"
  | malformedDeclaration => "XML declaration not well-formed"
  | publicIdentifier => "illegal character(s) in public id"
  | reservedXmlPrefix =>
    "reserved prefix (xml) must not be undeclared or bound to another namespace name"
  | reservedXmlnsPrefix => "reserved prefix (xmlns) must not be declared or undeclared"
  | reservedNamespace => "prefix must not be bound to one of the reserved namespace names"
  | amplification => "limit on input amplification factor (from DTD and entities) breached"

/-- Whether a document fails because it has no single root element. -/
def Cause.isAboutRoot : Cause → Bool
  | noElement => true
  | junkAfterElement => true
  | _ => false

/-- A cause and the number of characters of the document that were left where it was found. -/
structure Fault where
  cause : Cause
  left : Nat
  deriving DecidableEq, Repr

/-- A place in a document: the line from one and the column from zero. -/
structure Place where
  line : Nat
  column : Nat
  deriving DecidableEq, Repr

/-- The place after a character list; a line ends with a line feed, a carriage return or both. -/
def Place.after (before : List Char) : Place :=
  (before.foldl step (⟨1, 0⟩, false)).1
where
  /-- The place after one more character, and whether that was a carriage return. -/
  step (state : Place × Bool) (c : Char) : Place × Bool :=
    if c == '\r' then (⟨state.1.line + 1, 0⟩, true)
    else if c == '\n' then (if state.2 then state.1 else ⟨state.1.line + 1, 0⟩, false)
    else (⟨state.1.line, state.1.column + 1⟩, false)

/-- A cause and its place in the document. -/
structure Located where
  cause : Cause
  place : Place
  deriving DecidableEq, Repr

/-- The wording of a located cause. -/
def Located.message (located : Located) : String :=
  located.cause.message ++ ": line " ++ toString located.place.line ++ ", column " ++
    toString located.place.column

/-- Finds the place of a fault in a document of the given characters. -/
def Fault.locate (fault : Fault) (characters : List Char) : Located :=
  ⟨fault.cause, Place.after (characters.take (characters.length - fault.left))⟩

end AutomationIndex.Xml
