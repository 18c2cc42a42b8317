import AutomationIndex.Xml.Content
import AutomationIndex.Xml.Doctype.Prolog

/-! Whole documents: the instructions before the root element, and the root element. -/

namespace AutomationIndex.Xml

/-- A document: its processing instructions before the root element, as targets with data, and its
root element. -/
structure Document where
  instructions : List (String × String)
  root : Element
  deriving Repr

/-- Reads the root element that a text begins with, and what follows it. -/
def readRoot (source : Source) (declarations : Declarations) (spent : Nat) (chars : List Char) :
    Except Fault (Element × List Char) :=
  -- The chain of open references is at most as long as the declared entities.
  match readContent ⟨source, declarations⟩ (declarations.entities.length + 1) (chars.length + 1)
      documentFrame none chars ⟨[], outerScope, spent⟩ with
  | .error fault => .error fault
  | .ok (.root element rest) => .ok (element, rest)
  | .ok _ => .error ⟨.noElement, 0⟩

/-- Reads a document. -/
def Document.read (source : Source) : Except Fault Document := do
  let bound := source.chars.length + 1
  let (prolog, chars) ← Doctype.readProlog source bound source.chars .empty
  let (root, rest) ← readRoot source prolog.declarations prolog.spent chars
  Doctype.readEpilog source bound rest
  -- The declarations keep the last one first, as they were met.
  .ok ⟨prolog.reversedInstructions.reverse.map fun (target, data) =>
    (String.ofList target, String.ofList (Text.unifyLineEnds data)), root⟩

end AutomationIndex.Xml
