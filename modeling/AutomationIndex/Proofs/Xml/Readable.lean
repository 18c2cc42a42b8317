import AutomationIndex.Proofs.Text.LineEnds
import AutomationIndex.Proofs.Xml.Declared
import AutomationIndex.Xml.Charset
import AutomationIndex.Xml.Document

/-! What elements hold: texts of characters that a document may hold, wherever they come from. -/

namespace AutomationIndex.Xml

/-- Whether the texts of an element and of all elements in it are readable. -/
inductive Element.IsReadable : Element → Prop where
  | mk {tag : String} {attributes : List (String × String)} {text : String}
      {children : List Element} (own : Xml.IsReadable text.toList)
      (inner : ∀ child ∈ children, child.IsReadable) :
      Element.IsReadable (.mk tag attributes text children)

/-- The text of a readable element is readable. -/
theorem Element.IsReadable.text {element : Element} (readable : element.IsReadable) :
    Xml.IsReadable element.text.toList := by
  cases readable with
  | mk own inner => exact own

/-- The children of a readable element are readable. -/
theorem Element.IsReadable.children {element : Element} (readable : element.IsReadable) :
    ∀ child ∈ element.children, child.IsReadable := by
  cases readable with
  | mk own inner => exact inner

/-- Unified line ends leave a text readable. -/
theorem unifyLineEnds_readable {chars : List Char} (readable : IsReadable chars) :
    IsReadable (Text.unifyLineEnds chars) := by
  -- Only line feeds take the place of other characters.
  fun_induction Text.unifyLineEnds chars with
  | case1 rest ih =>
    refine (ih (readable.subset ?_)).cons (by decide)
    exact List.Subset.trans (List.subset_cons_self '\n' rest) (List.subset_cons_self '\r' _)
  | case2 rest _ ih =>
    exact (ih (readable.subset (List.subset_cons_self '\r' rest))).cons (by decide)
  | case3 c rest _ _ ih =>
    obtain ⟨first, later⟩ := List.forall_mem_cons.mp readable
    exact (ih later).cons first
  | case4 => exact readable

/-- Whether what has been read of an open element is readable. -/
structure OpenElement.IsReadable (e : OpenElement) : Prop where
  pieces : ∀ piece ∈ e.reversedText, Xml.IsReadable piece
  children : ∀ child ∈ e.reversedChildren, child.IsReadable

namespace OpenElement.IsReadable

variable {e : OpenElement}

/-- An element that is closed is readable, if what has been read of it is. -/
theorem close (readable : e.IsReadable) : e.close.IsReadable := by
  refine Element.IsReadable.mk ?_ ?_
  · rw [String.toList_ofList]
    intro c member
    -- The text is made of the pieces that were read.
    obtain ⟨piece, among, inside⟩ := List.mem_flatten.mp member
    exact readable.pieces piece (List.mem_reverse.mp among) c inside
  · exact fun child member => readable.children child (List.mem_reverse.mp member)

/-- Readable text leaves an open element readable. -/
theorem addText (readable : e.IsReadable) {chars : List Char} (text : Xml.IsReadable chars) :
    (e.addText chars).IsReadable := by
  unfold OpenElement.addText
  split
  · exact ⟨List.forall_mem_cons.mpr ⟨text, readable.pieces⟩, readable.children⟩
  · exact readable

/-- A readable child leaves an open element readable. -/
theorem addChild (readable : e.IsReadable) {child : Element} (inner : child.IsReadable) :
    (e.addChild child).IsReadable :=
  ⟨readable.pieces, List.forall_mem_cons.mpr ⟨inner, readable.children⟩⟩

end OpenElement.IsReadable

/-- Whether what has been read of all open elements is readable. -/
def ContentState.IsReadable (state : ContentState) : Prop :=
  ∀ e ∈ state.stack, e.IsReadable

/-- Readable text leaves the open elements readable. -/
theorem ContentState.IsReadable.addText {state : ContentState} (readable : state.IsReadable)
    {chars : List Char} (text : Xml.IsReadable chars) : (state.addText chars).IsReadable := by
  unfold ContentState.addText
  -- Text is added to the innermost open element, and outside of all elements it is dropped.
  split
  · exact readable
  · rename_i e outer stacked
    rw [ContentState.IsReadable, stacked] at readable
    obtain ⟨inner, others⟩ := List.forall_mem_cons.mp readable
    exact List.forall_mem_cons.mpr ⟨inner.addText text, others⟩

/-- Whether what has been reached is readable: a root element with what follows it, or open
elements. -/
def Reached.IsReadable : Reached → Prop
  | root element rest => element.IsReadable ∧ Xml.IsReadable rest
  | textEnd state => state.IsReadable
  | inside state => state.IsReadable

/-- A finished element that is readable leaves what has been reached readable. -/
theorem finish_readable {state : ContentState} {outer : List OpenElement} {scope : Scope}
    {element : Element} {rest : List Char} (others : ∀ e ∈ outer, e.IsReadable)
    (finished : element.IsReadable) (text : IsReadable rest) :
    (state.finish outer scope element rest).IsReadable := by
  unfold ContentState.finish
  split
  · -- Either the root element is finished, or the element around takes the finished one.
    exact ⟨finished, text⟩
  · obtain ⟨inner, outermost⟩ := List.forall_mem_cons.mp others
    exact List.forall_mem_cons.mpr ⟨inner.addChild finished, outermost⟩

/-- A start tag opens an element without a text. -/
theorem startTag_readable {context : ContentContext} {frame : Frame} {state : ContentState}
    {tagOn name rest : List Char} {attributes : List RawAttribute} {isEmpty : Bool}
    {reached : Reached} (readable : state.IsReadable) (text : IsReadable rest)
    (read : context.startTag frame state tagOn name attributes isEmpty rest = .ok reached) :
    reached.IsReadable := by
  simp only [ContentContext.startTag, exceptBind_ok_iff] at read
  obtain ⟨opening, _, read⟩ := read
  -- What has just been opened has neither text nor children.
  have fresh : OpenElement.IsReadable
      ⟨name, opening.tag, opening.attributes, [], [], state.scope⟩ := ⟨by simp, by simp⟩
  split at read
  · cases read
    exact finish_readable readable fresh.close text
  · cases read
    exact List.forall_mem_cons.mpr ⟨fresh, readable⟩

/-- An end tag closes the innermost open element. -/
theorem endTag_readable {frame : Frame} {state : ContentState} {tagOn name rest : List Char}
    {reached : Reached} (readable : state.IsReadable) (text : IsReadable rest)
    (read : frame.endTag state tagOn name rest = .ok reached) : reached.IsReadable := by
  -- There is an open element, and it goes by the name of the tag.
  unfold Frame.endTag at read
  split at read
  · cases read
  · rename_i e outer stacked
    rw [ContentState.IsReadable, stacked] at readable
    obtain ⟨inner, others⟩ := List.forall_mem_cons.mp readable
    split at read
    · cases read
    · split at read
      · cases read
        exact finish_readable others inner.close text
      · cases read

/-- The text that a reference stands for is readable, if the declared texts are. -/
theorem entityText_readable {context : ContentContext} {frame : Frame} {name text : List Char}
    (declared : context.declarations.IsReadable)
    (stands : context.entityText frame name = .ok text) : IsReadable text := by
  -- Only an entity with a declared text stands for one.
  unfold ContentContext.entityText at stands
  split at stands
  · split at stands <;> cases stands
  · rename_i body found
    split at stands
    · cases stands
    · split at stands <;> cases stands
      exact declared.entity? found

/-- A character that every document may refer to by a name is one that a document may hold. -/
theorem predefined?_character {name : List Char} {c : Char} (known : predefined? name = some c) :
    isDocumentChar c = true := by
  -- Each predefined name stands for one fixed character.
  unfold predefined? at known
  split at known
  · cases known; decide
  · split at known
    · cases known; decide
    · split at known
      · cases known; decide
      · split at known
        · cases known; decide
        · split at known
          · cases known; decide
          · cases known

/-- Content is readable, if the text and the declared texts are. -/
theorem readContent_readable {context : ContentContext} {depth bound : Nat} {frame : Frame}
    {last : Option Char} {chars : List Char} {state : ContentState} {reached : Reached}
    (declared : context.declarations.IsReadable) (text : IsReadable chars)
    (readable : state.IsReadable)
    (read : readContent context depth bound frame last chars state = .ok reached) :
    reached.IsReadable := by
  -- Each token leaves a readable text and readable open elements; an entity brings its own text.
  have later : ∀ {hasRoom : Nat → List Char → Bool} {count : Nat} {chars rest : List Char}
      {token : Token}, IsReadable chars → scanToken hasRoom count chars = .ok (token, rest) →
        IsReadable rest := fun text scanned => text.subset (scanToken_rest scanned).subset
  fun_induction readContent context depth bound frame last chars state generalizing reached with
  | case1 => cases read
  | case2 =>
    unfold ContentContext.atEnd at read
    split at read
    · cases read
    · split at read
      · cases read
        exact readable
      · cases read
  | case3 => cases read
  | case4 _ _ _ _ _ _ _ _ _ scanned ih =>
    -- The line ends of what is read are unified before it becomes text.
    have data := unifyLineEnds_readable (text.subset (scanToken_data scanned))
    exact ih (later text scanned) (readable.addText data) read
  | case5 _ _ _ _ _ _ _ _ scanned ih => exact ih (later text scanned) readable read
  | case6 => cases read
  | case7 _ _ _ _ _ _ _ _ _ _ scanned ih => exact ih (later text scanned) readable read
  | case8 => cases read
  | case9 _ _ _ _ _ _ _ _ _ _ cut scanned ih =>
    obtain ⟨taken, same, whole⟩ := scanSection_split cut
    rw [List.reverse_nil, List.nil_append] at same
    subst same
    -- A section is a part of the text up to its end mark, and reading goes on after it.
    have inside := later text scanned
    rw [← whole] at inside
    have data := unifyLineEnds_readable (inside.subset (List.subset_append_left _ _))
    refine ih (inside.subset ?_) (readable.addText data) read
    exact fun c member => by simp [member]
  | case10 => cases read
  | case11 _ _ _ _ _ _ _ _ _ scanned ih =>
    -- A reference by number is checked where it is scanned.
    have character := isReadable_single (scanToken_character scanned)
    exact ih (later text scanned) (readable.addText character) read
  | case12 _ _ _ _ _ _ _ _ _ _ _ _ opened scanned ih =>
    exact ih (later text scanned) (startTag_readable readable (later text scanned) opened) read
  | case13 _ _ _ _ _ _ _ _ _ _ _ scanned _ =>
    exact startTag_readable readable (later text scanned) read
  | case14 _ _ _ _ _ _ _ _ _ _ closed scanned ih =>
    exact ih (later text scanned) (endTag_readable readable (later text scanned) closed) read
  | case15 _ _ _ _ _ _ _ _ _ scanned _ =>
    exact endTag_readable readable (later text scanned) read
  | case16 _ _ _ _ _ _ _ _ _ _ known scanned ih =>
    have character := isReadable_single (predefined?_character known)
    exact ih (later text scanned) (readable.addText character) read
  | case17 => cases read
  | case18 => cases read
  | case19 => cases read
  | case20 =>
    rename_i stands _ _ _ _ _ _ inner scanned inside after
    -- What the entity brings is read first, and then what follows the reference.
    have entered := inside (entityText_readable declared stands) readable inner
    exact after (later text scanned) entered read
  | case21 =>
    rename_i stands _ _ _ _ _ _ _ inside
    exact inside (entityText_readable declared stands) readable read

/-- A character that is put in front of decoded ones is one that documents may hold. -/
theorem decodedCons_readable {unitBytes n : Nat} {bytesOn : List Nat} {decoded : Decoded}
    (readable : IsReadable decoded.chars) :
    IsReadable (decoded.cons unitBytes bytesOn n).chars := by
  unfold Decoded.cons
  dsimp only
  split
  · -- Only a character that documents may hold is put in front.
    rename_i allowed
    simp only [Bool.and_eq_true] at allowed
    exact readable.cons allowed.2
  · exact List.forall_mem_nil _

/-- What is decoded as UTF-8 is readable. -/
theorem decodeUtf8_readable (bound : Nat) (bytes : List Nat) :
    IsReadable (decodeUtf8 bound bytes).chars := by
  fun_induction decodeUtf8 bound bytes with
  | case5 => exact decodedCons_readable ‹_›
  | _ => exact List.forall_mem_nil _

/-- What is decoded as UTF-16 is readable. -/
theorem decodeUtf16_readable (bigEndian : Bool) (bytes : List Nat) :
    IsReadable (decodeUtf16 bigEndian bytes).chars := by
  fun_induction decodeUtf16 bigEndian bytes with
  | case3 => exact decodedCons_readable ‹_›
  | case6 => exact decodedCons_readable ‹_›
  | _ => exact List.forall_mem_nil _

/-- What is decoded byte by byte is readable. -/
theorem decodeBytes_readable (upperHalf : Array Char) (bytes : List Nat) :
    IsReadable (decodeBytes upperHalf bytes).chars := by
  fun_induction decodeBytes upperHalf bytes with
  | case3 => exact decodedCons_readable ‹_›
  | _ => exact List.forall_mem_nil _

/-- The source of a text has only characters that a document may hold. -/
theorem ofText_readable (text : String) : IsReadable (Source.ofText text).chars := by
  unfold Source.ofText
  dsimp only
  split
  · split
    · exact List.forall_mem_nil _
    · rename_i charset bytes _
      cases charset with
      | utf8 => exact decodeUtf8_readable _ _
      | utf16 bigEndian => exact decodeUtf16_readable _ _
      | bytes upperHalf => exact decodeBytes_readable _ _
  · -- Reading stops before the first character that no document may hold.
    intro c member
    exact List.all_eq_true.mp List.all_takeWhile c member

/-- The texts of a document without faults are readable, if its characters are. -/
theorem documentRead_readable {source : Source} {document : Document}
    (text : IsReadable source.chars) (read : Document.read source = .ok document) :
    document.root.IsReadable := by
  simp only [Document.read, exceptBind_ok_iff, Except.ok.injEq] at read
  -- The document type comes first, and nothing is declared before it.
  obtain ⟨⟨prolog, chars⟩, before, ⟨root, rest⟩, content, _, _, rfl⟩ := read
  obtain ⟨declared, text⟩ := Doctype.readProlog_readable text (by simp [Doctype.Prolog.empty,
    Declarations.IsReadable]) before
  simp only [readRoot] at content
  split at content
  · cases content
  · rename_i reached
    cases content
    exact (readContent_readable declared text (by simp [ContentState.IsReadable]) reached).1
  · cases content

end AutomationIndex.Xml
