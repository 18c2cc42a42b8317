import AutomationIndex.Xml.Element
import AutomationIndex.Xml.Source

/-! Element content: how tokens and the texts of entities build the tree of elements. -/

namespace AutomationIndex.Xml

/-- An element whose end tag has not been read. -/
structure OpenElement where
  name : List Char
  tag : String
  attributes : List (String × String)
  /-- The pieces of the text before the first child, in reverse order. -/
  reversedText : List (List Char)
  reversedChildren : List Element
  /-- The bindings in force outside the element. -/
  outer : Scope

/-- The element with what has been read of it. -/
def OpenElement.close (e : OpenElement) : Element :=
  ⟨e.tag, e.attributes, String.ofList e.reversedText.reverse.flatten, e.reversedChildren.reverse⟩

/-- Adds text; what follows a child is not kept. -/
def OpenElement.addText (e : OpenElement) (chars : List Char) : OpenElement :=
  if e.reversedChildren.isEmpty then { e with reversedText := chars :: e.reversedText } else e

/-- Adds a child. -/
def OpenElement.addChild (e : OpenElement) (child : Element) : OpenElement :=
  { e with reversedChildren := child :: e.reversedChildren }

/-- What has been read of the root element: the open elements, the innermost first, the bindings in
force, and the size of the entity texts read. -/
structure ContentState where
  stack : List OpenElement
  scope : Scope
  spent : Nat

/-- Adds text to the innermost open element. -/
def ContentState.addText (state : ContentState) (chars : List Char) : ContentState :=
  match state.stack with
  | [] => state
  | e :: outer => { state with stack := e.addText chars :: outer }

/-- How far reading has come. -/
inductive Reached where
  /-- The root element is complete, and this text follows it. -/
  | root (element : Element) (rest : List Char)
  /-- The text has ended within the root element. -/
  | textEnd (state : ContentState)
  /-- More is to come. -/
  | inside (state : ContentState)

/-- Puts a finished element where it belongs. -/
def ContentState.finish (state : ContentState) (outer : List OpenElement) (scope : Scope)
    (element : Element) (rest : List Char) : Reached :=
  match outer with
  -- With nothing around it the element is the root, and the content ends there.
  | [] => .root element rest
  | e :: outer => .inside { state with stack := e.addChild element :: outer, scope }

/-- Where a text stands: in the document itself, or in entities that a reference stands for. -/
structure Frame where
  /-- The place of the outermost reference, for a text in an entity. -/
  reference : Option Nat
  /-- How many elements were open before the text. -/
  base : Nat
  /-- The entities whose text is being read. -/
  opened : List (List Char)
  /-- The size of the document up to the outermost reference. -/
  direct : Nat

/-- The frame of the document itself. -/
def documentFrame : Frame :=
  ⟨none, 0, [], 0⟩

/-- The place of a fault in a frame. -/
def Frame.place (frame : Frame) (left : Nat) : Nat :=
  frame.reference.getD left

/-- The data of a section up to its end mark, found so far in reverse order, and what follows it;
where there is no end mark, how many characters at the end are not settled. -/
def scanSection : List Char → List Char → Except Nat (List Char × List Char)
  | found, ']' :: ']' :: '>' :: rest => .ok (found.reverse, rest)
  -- Brackets at the very end may still become the end mark.
  | _, [']', ']'] => .error 2
  | _, [']'] => .error 1
  | _, ['\r'] => .error 1
  | _, [] => .error 0
  | found, c :: rest => scanSection (c :: found) rest

/-- The document that content belongs to. -/
structure ContentContext where
  source : Source
  declarations : Declarations

/-- What it means that a token of a frame stops early. -/
def ContentContext.stopFault (context : ContentContext) (frame : Frame) (tokenLeft : Nat)
    (stop : Stop) : Fault :=
  match frame.reference with
  | none => context.source.stopFault tokenLeft stop
  -- Inside the text of an entity every fault is told at the reference to it.
  | some left =>
    match stop with
    | .bad _ => ⟨.invalidToken, left⟩
    | .short => ⟨.unclosedToken, left⟩

/-- What it means that the text of a frame ends. A carriage return at the very end of a document may
be half of a line end, so it is not passed. -/
def ContentContext.atEnd (context : ContentContext) (frame : Frame) (state : ContentState)
    (last : Option Char) : Except Fault Reached :=
  match frame.reference with
  | none =>
    -- A carriage return at the very end is still waiting for its line feed.
    .error (context.source.endFault ⟨.noElement, if last == some '\r' then 1 else 0⟩)
  | some left =>
    -- The text of an entity closes what it opens.
    if state.stack.length == frame.base then .ok (.textEnd state)
    else .error ⟨.unbalancedEntity, left⟩

/-- What it means that a section of character data is not closed. -/
def ContentContext.openSectionFault (context : ContentContext) (frame : Frame)
    (unsettled : Nat) : Fault :=
  match frame.reference with
  -- In the text of an entity the section ends with the entity, at its reference.
  | some left => ⟨.unclosedCharacterData, left⟩
  | none =>
    match context.source.ending with
    | .broken _ => ⟨.invalidToken, 0⟩
    | .cut => ⟨.partialCharacter, 0⟩
    | _ => ⟨.unclosedCharacterData, unsettled⟩

/-- The size of the document up to a place, or up to the reference that a text stands for. -/
def ContentContext.direct (context : ContentContext) (frame : Frame) (rest : List Char) : Nat :=
  match frame.reference with
  | some _ => frame.direct
  | none => context.source.bytes context.source.chars - context.source.bytes rest

/-- What a start tag does. -/
def ContentContext.startTag (context : ContentContext) (frame : Frame) (state : ContentState)
    (tagOn name : List Char) (attributes : List RawAttribute) (isEmpty : Bool)
    (rest : List Char) : Except Fault Reached := do
  let direct :=
    if attributes.any fun raw => raw.value.contains '&' then context.direct frame rest else 0
  let opening ← openElement context.declarations direct state.spent
    ⟨tagOn, frame.reference⟩ state.scope name attributes
  let element : OpenElement := ⟨name, opening.tag, opening.attributes, [], [], state.scope⟩
  let state := { state with spent := opening.spent }
  -- The bindings of an empty element end with it.
  if isEmpty then .ok (state.finish state.stack state.scope element.close rest)
  else .ok (.inside { state with stack := element :: state.stack, scope := opening.scope })

/-- What an end tag does. -/
def Frame.endTag (frame : Frame) (state : ContentState) (tagOn name rest : List Char) :
    Except Fault Reached :=
  match state.stack with
  | [] => .error ⟨.unbalancedEntity, frame.place tagOn.length⟩
  | e :: outer =>
    -- An entity's text cannot close an element that was opened outside it.
    if frame.base != 0 && outer.length + 1 == frame.base then
      .error ⟨.unbalancedEntity, frame.place tagOn.length⟩
    else if e.name == name then .ok (state.finish outer e.outer e.close rest)
    -- The place of a mismatch is the name, after the bracket and the slash.
    else .error ⟨.tagMismatch, frame.place (tagOn.length - 2)⟩

/-- The first characters of a text that fit into a number of bytes. -/
def withinSize : Nat → List Char → List Char
  | _, [] => []
  | size, c :: rest =>
    if c.utf8Size ≤ size then c :: withinSize (size - c.utf8Size) rest else []

/-- The written form of a reference that is passed over, cut to the length of a report. -/
def reportedReference (name : List Char) : String :=
  String.ofList (withinSize 100 ('&' :: name ++ [';']))

/-- The text that a reference in content stands for, or why it stands for none. -/
def ContentContext.entityText (context : ContentContext) (frame : Frame) (name : List Char) :
    Except Cause (List Char) :=
  match context.declarations.entity? name with
  | none =>
    if context.declarations.isComplete then .error .undefinedEntity
    else .error (.skippedEntity (reportedReference name))
  | some body =>
    if frame.opened.contains name then .error .recursiveEntity
    else
      match body with
      | .unparsed => .error .binaryEntity
      | .external => .error (.skippedEntity (reportedReference name))
      -- Declared text is read in the place of the reference, as markup.
      | .text chars => .ok chars

/-- Reads the content of the root element. The first number bounds how deep entities can be nested
and the second how many tokens follow; `last` is the character before the text. -/
def readContent (context : ContentContext) :
    Nat → Nat → Frame → Option Char → List Char → ContentState → Except Fault Reached
  | _, 0, _, _, chars, _ => .error ⟨.unclosedToken, chars.length⟩
  | _, _, frame, last, [], state => context.atEnd frame state last
  | depth, bound + 1, frame, _, chars, state =>
    match scanToken context.source.hasRoom bound chars with
    | .error stop => .error (context.stopFault frame chars.length stop)
    | .ok (token, rest) =>
      match token with
      | .data data =>
        readContent context depth bound frame data.getLast? rest
          (state.addText (Text.unifyLineEnds data))
      | .comment => readContent context depth bound frame none rest state
      | .instruction (.declaration _) =>
        .error ⟨.misplacedDeclaration, frame.place chars.length⟩
      | .instruction _ => readContent context depth bound frame none rest state
      | .sectionOpen =>
        match scanSection [] rest with
        | .error unsettled => .error (context.openSectionFault frame unsettled)
        | .ok (data, rest) =>
          readContent context depth bound frame none rest (state.addText (Text.unifyLineEnds data))
      | .reference (.character none) =>
        .error ⟨.invalidCharacterNumber, frame.place chars.length⟩
      | .reference (.character (some c)) =>
        readContent context depth bound frame none rest (state.addText [c])
      | .startTag name attributes isEmpty =>
        match context.startTag frame state chars name attributes isEmpty rest with
        | .ok (.inside state) => readContent context depth bound frame none rest state
        | reached => reached
      | .endTag name =>
        match frame.endTag state chars name rest with
        | .ok (.inside state) => readContent context depth bound frame none rest state
        | reached => reached
      | .reference (.entity name) =>
        match predefined? name with
        -- The five predefined entities are characters and never markup.
        | some c => readContent context depth bound frame none rest (state.addText [c])
        | none =>
          match context.entityText frame name with
          | .error cause => .error ⟨cause, frame.place chars.length⟩
          | .ok text =>
            let left := frame.place chars.length
            -- The limit compares what entities add with what the document itself holds so far.
            let direct := context.direct frame rest
            let spent := state.spent + byteSize text
            if isOverspent direct spent then .error ⟨.amplification, left⟩
            else
              match depth with
              | 0 => .error ⟨.recursiveEntity, left⟩
              | depth + 1 =>
                match readContent context depth (text.length + 1)
                    ⟨some left, state.stack.length, name :: frame.opened, direct⟩ none text
                    { state with spent } with
                -- The text has ended where it began, so reading goes on after the reference.
                | .ok (.textEnd state) =>
                  readContent context (depth + 1) bound frame none rest state
                | reached => reached
termination_by depth bound => (depth, bound)

end AutomationIndex.Xml
