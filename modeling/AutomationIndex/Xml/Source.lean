import AutomationIndex.Xml.Fault
import AutomationIndex.Xml.Lexeme

/-! The text of a document as it comes out of its bytes. -/

namespace AutomationIndex.Xml

/-- How the readable characters of a document end. -/
inductive Ending where
  /-- With the document. -/
  | complete
  /-- Before something that is no character of a document, with so many coding units left. -/
  | broken (units : Nat)
  /-- Within a character that the document ends in. -/
  | cut
  /-- Before a byte that is too short for a coding unit. -/
  | ragged
  deriving DecidableEq, Repr

/-- A document: the byte order mark at its start, if any, its readable characters, and how these
end. -/
structure Source where
  mark : List Char
  chars : List Char
  ending : Ending
  /-- How many bytes and coding units a character takes. -/
  charBytes : Char → Nat
  charUnits : Char → Nat

namespace Source

/-- A text of characters that a document may hold, each counted as in UTF-8. -/
def ofChars (chars : List Char) : Source :=
  -- One mark at most is taken off; a second one is a character of the text.
  let mark := chars.takeWhile (· == Char.ofNat 0xFEFF) |>.take 1
  let body := chars.drop mark.length
  let readable := body.takeWhile isDocumentChar
  let beyond := body.drop readable.length
  ⟨mark, readable,
    -- What cannot be read is kept as a size, since only its length is ever told.
    if beyond.isEmpty then .complete
    else .broken (beyond.foldl (fun size c => size + c.utf8Size) 0),
    fun c => c.utf8Size, fun c => c.utf8Size⟩

/-- The coding units after the readable characters. -/
def unitsBeyond (source : Source) : Nat :=
  match source.ending with
  | .broken units => units
  | .cut => 1
  | _ => 0

/-- Whether there are so many coding units from a place on. -/
def hasRoom (source : Source) (units : Nat) (rest : List Char) : Bool :=
  let near := rest.take units
  near.length == units ||
    near.foldl (fun size c => size + source.charUnits c) 0 + source.unitsBeyond ≥ units

/-- The bytes of a part of the document. -/
def bytes (source : Source) (part : List Char) : Nat :=
  part.foldl (fun size c => size + source.charBytes c) 0

/-- What it means that a token stops early, which had so many characters left at its start. -/
def stopFault (source : Source) (tokenLeft : Nat) : Stop → Fault
  | .bad left => ⟨.invalidToken, left⟩
  | .short =>
    -- Bytes that give no character are told before the token which they leave incomplete.
    match source.ending with
    | .broken _ => ⟨.invalidToken, 0⟩
    | .cut => ⟨.partialCharacter, tokenLeft⟩
    | _ => ⟨.unclosedToken, tokenLeft⟩

/-- What it means that the characters end between tokens, given what it means in a complete
document. -/
def endFault (source : Source) (complete : Fault) : Fault :=
  match source.ending with
  | .complete => complete
  | .broken _ => ⟨.invalidToken, 0⟩
  | .cut => ⟨.partialCharacter, 0⟩
  | .ragged => ⟨.unclosedToken, 0⟩

/-- Finds the place of a fault in a document. -/
def locate (source : Source) (fault : Fault) : Located :=
  fault.locate (source.mark ++ source.chars)

end Source

end AutomationIndex.Xml
