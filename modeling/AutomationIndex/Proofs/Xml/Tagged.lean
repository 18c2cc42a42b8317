import AutomationIndex.Proofs.Xml.Written
import Mathlib.Data.List.TakeWhile

/-! Written tags, and the elements that reading them opens, fills and closes. -/

namespace AutomationIndex.Xml

variable {rest : List Char}

/-- Whether characters are a name without a colon. -/
def isName (chars : List Char) : Bool :=
  chars.head?.any isNameStart && chars.all isNameChar

/-- What may not go on with a name that has no colon. -/
def endsNames (c : Char) : Prop :=
  isNameChar c = false ∧ c ≠ ':'

/-- What may not go on with a name does not stand in one. -/
theorem isName_notMem {name : List Char} (proper : isName name = true) {d : Char}
    (other : isNameChar d = false) : d ∉ name := by
  intro member
  have kept := List.all_eq_true.mp (Bool.and_eq_true_iff.mp proper).2 d member
  simp [other] at kept

/-- The colon does not belong to names. -/
theorem isName_noColon {name : List Char} (proper : isName name = true) : ':' ∉ name :=
  isName_notMem proper (by decide)

/-- A name has a first character. -/
theorem isName_cons {name : List Char} (proper : isName name = true) :
    ∃ c more, name = c :: more ∧ isNameStart c = true := by
  cases name with
  | nil => simp [isName] at proper
  | cons c more =>
    have first : isNameStart c = true := by simpa using (Bool.and_eq_true_iff.mp proper).1
    exact ⟨c, more, rfl, first⟩

/-- A character that begins a name is none that does not. -/
theorem isNameStart_ne {c d : Char} (first : isNameStart c = true) (mark : isNameStart d = false) :
    c ≠ d := by
  rintro rfl
  simp [mark] at first

/-- What begins with a name may begin with a name. -/
theorem needNameStart_name {name : List Char} (proper : isName name = true) :
    needNameStart (name ++ rest) = .ok () := by
  obtain ⟨c, more, rfl, first⟩ := isName_cons proper
  simp [needNameStart, first]

/-- A name is scanned up to what ends it. -/
theorem scanName_written {name : List Char} (proper : isName name = true) {c : Char}
    (ends : isNameChar c = false) : scanName (name ++ c :: rest) = .ok (name, c :: rest) := by
  -- All its characters go on with a name, and the one after it does not.
  have kept : ∀ d ∈ name, isNameChar d = true :=
    List.all_eq_true.mp (Bool.and_eq_true_iff.mp proper).2
  have taken : (name ++ c :: rest).takeWhile isNameChar = name := by
    rw [List.takeWhile_append_of_pos kept, List.takeWhile_cons_of_neg (by simp [ends]),
      List.append_nil]
  simp [scanName, needNameStart_name proper, taken, bind, Except.bind]

/-- A name without a colon is a qualified name. -/
theorem scanQualifiedName_written {name : List Char} (proper : isName name = true) {c : Char}
    (ends : endsNames c) : scanQualifiedName (name ++ c :: rest) = .ok (name, c :: rest) := by
  rw [scanQualifiedName, scanName_written proper ends.1]
  simp only [bind, Except.bind]
  split
  · next same => exact absurd (List.cons.inj same).1 ends.2
  · rfl

/-- An attribute, its name and its value, as it is written after a blank. -/
def attributeText (entry : List Char × List Char) : List Char :=
  ' ' :: (entry.1 ++ '=' :: '"' :: (escaped entry.2 ++ ['"']))

/-- A start tag. -/
def startTagText (name : List Char) (attributes : List (List Char × List Char)) : List Char :=
  '<' :: (name ++ attributes.flatMap attributeText ++ ['>'])

/-- An end tag. -/
def endTagText (name : List Char) : List Char :=
  '<' :: '/' :: (name ++ ['>'])

/-- An element that holds text only. -/
def leafText (name : List Char) (attributes : List (List Char × List Char)) (text : List Char) :
    List Char :=
  startTagText name attributes ++ (escaped text ++ endTagText name)

/-- An element that holds other elements. -/
def elementText (name : List Char) (attributes : List (List Char × List Char))
    (inner : List Char) : List Char :=
  startTagText name attributes ++ (inner ++ endTagText name)

/-- Attributes with proper names, all different, none of which declares a namespace. -/
structure AreAttributes (attributes : List (List Char × List Char)) : Prop where
  names : ∀ entry ∈ attributes, isName entry.1 = true
  declareNothing : ∀ entry ∈ attributes, entry.1 ≠ ['x', 'm', 'l', 'n', 's']
  distinct : (attributes.map Prod.fst).Nodup

/-- Raw attributes that are written for some attributes. -/
def Writes (raws : List RawAttribute) (attributes : List (List Char × List Char)) : Prop :=
  List.Forall₂ (fun raw entry => raw.name = entry.1 ∧ raw.value = escaped entry.2)
    raws attributes

/-- A written attribute is scanned. -/
theorem scanAttribute_written {name : List Char} (proper : isName name = true)
    (value : List Char) :
    ∃ raw, scanAttribute (name ++ '=' :: '"' :: (escaped value ++ '"' :: rest)) = .ok (raw, rest) ∧
      raw.name = name ∧ raw.value = escaped value := by
  -- The name, the equals sign, the quote and the value follow each other without space.
  have scanned : scanQualifiedName (name ++ '=' :: '"' :: (escaped value ++ '"' :: rest)) =
      .ok (name, '=' :: '"' :: (escaped value ++ '"' :: rest)) :=
    scanQualifiedName_written proper ⟨by decide, by decide⟩
  have first : scanAfterSpace (· == '=') ('=' :: '"' :: (escaped value ++ '"' :: rest)) =
      .ok ('=', '"' :: (escaped value ++ '"' :: rest)) := rfl
  have second : scanAfterSpace (fun c => c == '"' || c == '\'')
      ('"' :: (escaped value ++ '"' :: rest)) = .ok ('"', escaped value ++ '"' :: rest) := rfl
  rw [scanAttribute, scanned]
  simp only [bind, Except.bind, first, second, scanValue_escaped]
  exact ⟨_, rfl, rfl, rfl⟩

/-- A name does not end a tag. -/
theorem scanTagEnd?_name {name : List Char} (proper : isName name = true) :
    scanTagEnd? (name ++ rest) = none := by
  obtain ⟨c, more, rfl, first⟩ := isName_cons proper
  have close : c ≠ '>' := isNameStart_ne first (by decide)
  have slash : c ≠ '/' := isNameStart_ne first (by decide)
  rw [List.cons_append, scanTagEnd?]
  all_goals simp [close, slash]

/-- A name does not begin with white space. -/
theorem dropWhile_space_name {name : List Char} (proper : isName name = true) :
    (name ++ rest).dropWhile Text.isSpace = name ++ rest := by
  -- A first character of a name is none of the four blanks.
  obtain ⟨c, more, rfl, first⟩ := isName_cons proper
  have blank : c ≠ ' ' := isNameStart_ne first (by decide)
  have tab : c ≠ '\t' := isNameStart_ne first (by decide)
  have line : c ≠ '\n' := isNameStart_ne first (by decide)
  have back : c ≠ '\r' := isNameStart_ne first (by decide)
  simp [Text.isSpace, blank, tab, line, back]

/-- Written attributes are scanned up to the end of the tag. -/
theorem scanAttributes_written {attributes : List (List Char × List Char)}
    (proper : ∀ entry ∈ attributes, isName entry.1 = true) {bound : Nat}
    (enough : attributes.length < bound) (found : List RawAttribute) :
    ∃ raws, scanAttributes bound found (attributes.flatMap attributeText ++ '>' :: rest) =
      .ok ((found.reverse ++ raws, false), rest) ∧ Writes raws attributes := by
  -- Every attribute takes one step, so there must be more steps than attributes.
  induction attributes generalizing bound found with
  | nil =>
    cases bound with
    | zero => simp at enough
    | succ bound =>
      exact ⟨[], by simp [scanAttributes, scanTagEnd?, bind, Except.bind], .nil⟩
  | cons entry attributes ih =>
    cases bound with
    | zero => simp at enough
    | succ bound =>
    obtain ⟨first, later⟩ := List.forall_mem_cons.mp proper
    obtain ⟨raw, scanned, name, value⟩ : ∃ raw, scanAttribute (entry.1 ++ '=' :: '"' ::
        (escaped entry.2 ++ '"' :: (attributes.flatMap attributeText ++ '>' :: rest))) = _ ∧ _ :=
      scanAttribute_written first entry.2
    obtain ⟨raws, goesOn, writes⟩ := ih later (by simpa using enough) (raw :: found)
    refine ⟨raw :: raws, ?_, .cons ⟨name, value⟩ writes⟩
    -- The blank before the attribute neither ends the tag nor belongs to the name.
    have blank : ∀ chars, scanTagEnd? (' ' :: chars) = none := fun _ => rfl
    have isBlank : Text.isSpace ' ' = true := rfl
    simp only [List.flatMap_cons, attributeText, List.cons_append, List.append_assoc,
      List.nil_append, scanAttributes, blank, isBlank, if_true, dropWhile_space_name first,
      scanTagEnd?_name first, scanned, bind, Except.bind, goesOn]
    simp

/-- A written start tag is one token. -/
theorem scanToken_startTag {hasRoom : Nat → List Char → Bool} {bound : Nat} {name : List Char}
    {attributes : List (List Char × List Char)} (proper : isName name = true)
    (named : ∀ entry ∈ attributes, isName entry.1 = true)
    (enough : attributes.length < bound) :
    ∃ raws, scanToken hasRoom bound (startTagText name attributes ++ rest) =
      .ok (.startTag name raws false, rest) ∧ Writes raws attributes := by
  obtain ⟨raws, scanned, writes⟩ : ∃ raws, scanAttributes bound []
      (attributes.flatMap attributeText ++ '>' :: rest) = _ ∧ _ :=
    scanAttributes_written named enough []
  refine ⟨raws, ?_, writes⟩
  have nameRead : scanQualifiedName (name ++ (attributes.flatMap attributeText ++ '>' :: rest)) =
      .ok (name, attributes.flatMap attributeText ++ '>' :: rest) := by
    cases attributes with
    | nil => exact scanQualifiedName_written proper ⟨by decide, by decide⟩
    | cons entry attributes => exact scanQualifiedName_written proper ⟨by decide, by decide⟩
  -- A name begins with none of the marks of other markup.
  have marked : scanMarkup hasRoom bound
        (name ++ (attributes.flatMap attributeText ++ '>' :: rest)) =
      scanStartTag bound (name ++ (attributes.flatMap attributeText ++ '>' :: rest)) := by
    obtain ⟨c, more, rfl, first⟩ := isName_cons proper
    have exclamation : c ≠ '!' := isNameStart_ne first (by decide)
    have question : c ≠ '?' := isNameStart_ne first (by decide)
    have slash : c ≠ '/' := isNameStart_ne first (by decide)
    rw [List.cons_append, scanMarkup]
    all_goals simp [exclamation, question, slash]
  simp only [startTagText, List.cons_append, List.append_assoc, List.nil_append, scanToken, marked,
    scanStartTag, nameRead, bind, Except.bind, scanned, List.reverse_nil]

/-- A written end tag is one token. -/
theorem scanToken_endTag {hasRoom : Nat → List Char → Bool} {bound : Nat} {name : List Char}
    (proper : isName name = true) :
    scanToken hasRoom bound (endTagText name ++ rest) = .ok (.endTag name, rest) := by
  -- Colons are kept in the names of end tags, but this one has none.
  have kept : ∀ d ∈ name, (isNameChar d || d == ':') = true := by
    intro d member
    simp [List.all_eq_true.mp (Bool.and_eq_true_iff.mp proper).2 d member]
  have taken : (name ++ '>' :: rest).takeWhile (fun c => isNameChar c || c == ':') = name := by
    rw [List.takeWhile_append_of_pos kept, List.takeWhile_cons_of_neg (by decide), List.append_nil]
  simp [endTagText, scanToken, scanMarkup, scanEndTag, needNameStart_name proper, taken, bind,
    Except.bind]

/-- A name without a colon is one part. -/
theorem splitName_plain {name : List Char} (plain : ':' ∉ name) :
    splitName name = (none, name) := by
  have kept : ∀ c ∈ name, (c != ':') = true := by
    intro c member
    simpa using fun same : c = ':' => plain (same ▸ member)
  have taken : name.takeWhile (· != ':') = name := List.takeWhile_eq_self_iff.mpr kept
  simp [splitName, taken]

/-- A name without a colon declares a namespace only if it is the word for that. -/
theorem declaredPrefix?_plain {name : List Char} (plain : ':' ∉ name)
    (other : name ≠ ['x', 'm', 'l', 'n', 's']) : declaredPrefix? name = none := by
  simp [declaredPrefix?, splitName_plain plain, other]

section Opening

variable {declarations : Declarations} {direct : Nat} {place : TagPlace}

/-- A written attribute is taken into account with its value. -/
theorem AttributeState.read_written {state : AttributeState} {raw : RawAttribute}
    {name value : List Char} (named : raw.name = name) (written : raw.value = escaped value)
    (fresh : name ∉ state.seen) :
    AttributeState.read declarations [] direct place state raw =
      state.add place name (String.ofList value) := by
  -- A name that has not been seen is no duplicate.
  have unseen : state.seen.contains name = false := by simpa using fresh
  simp only [AttributeState.read, named, written, unseen, Bool.false_eq_true, if_false]
  rw [attributeValue_escaped rfl]

/-- Written attributes are collected in their order. -/
theorem foldlM_read_written {raws : List RawAttribute}
    {attributes : List (List Char × List Char)} (writes : Writes raws attributes)
    (proper : AreAttributes attributes) {state : AttributeState}
    (fresh : ∀ entry ∈ attributes, entry.1 ∉ state.seen) :
    ∃ seen, raws.foldlM (AttributeState.read declarations [] direct place) state =
      .ok ⟨seen, (attributes.map fun entry => (entry.1, String.ofList entry.2)).reverse ++
        state.reversed, state.scope, state.spent⟩ := by
  -- The names seen so far stay apart from those to come, which is what the induction carries.
  induction writes generalizing state with
  | nil => exact ⟨state.seen, rfl⟩
  | @cons raw entry raws attributes written writes ih =>
    obtain ⟨named, others⟩ := List.forall_mem_cons.mp proper.names
    obtain ⟨plain, later⟩ := List.forall_mem_cons.mp proper.declareNothing
    obtain ⟨apart, distinct⟩ := List.nodup_cons.mp proper.distinct
    obtain ⟨new, newer⟩ := List.forall_mem_cons.mp fresh
    let next : AttributeState := { state with
      seen := entry.1 :: state.seen
      reversed := (entry.1, String.ofList entry.2) :: state.reversed }
    have added : state.add place entry.1 (String.ofList entry.2) = .ok next := by
      simp [next, AttributeState.add, declaredPrefix?_plain (isName_noColon named) plain]
    have unseen : ∀ other ∈ attributes, other.1 ∉ next.seen := by
      intro other member
      rw [List.mem_cons, not_or]
      refine ⟨?_, newer other member⟩
      intro same
      exact apart (same ▸ List.mem_map_of_mem member)
    obtain ⟨seen, folded⟩ := ih ⟨others, later, distinct⟩ unseen
    refine ⟨seen, ?_⟩
    rw [List.foldlM_cons, AttributeState.read_written written.1 written.2 new, added]
    simpa [next, bind, Except.bind] using folded

/-- Attributes without colons keep their names. -/
theorem fullAttributes_plain (scope : Scope) (taken : List String)
    {entries : List (List Char × String)} (plain : ∀ entry ∈ entries, ':' ∉ entry.1) :
    fullAttributes place scope taken entries =
      .ok (entries.map fun entry => (String.ofList entry.1, entry.2)) := by
  -- Without a prefix nothing has to be looked up or compared.
  induction entries with
  | nil => rfl
  | cons entry entries ih =>
    obtain ⟨first, later⟩ := List.forall_mem_cons.mp plain
    simp [fullAttributes, splitName_plain first, ih later, bind, Except.bind]

/-- A name without a colon is in the default namespace. -/
theorem fullTag_plain (scope : Scope) {name : List Char} (plain : ':' ∉ name) :
    fullTag place scope name = .ok (fullName (scope.namespace? []) name) := by
  simp [fullTag, splitName_plain plain]

/-- A written start tag opens an element with the written attributes. -/
theorem openElement_written (undeclared : declarations.attributes = []) {spent : Nat}
    {scope : Scope} {name : List Char} (proper : isName name = true) {raws : List RawAttribute}
    {attributes : List (List Char × List Char)} (writes : Writes raws attributes)
    (named : AreAttributes attributes) :
    openElement declarations direct spent place scope name raws =
      .ok ⟨fullName (scope.namespace? []) name,
        attributes.map fun entry => (String.ofList entry.1, String.ofList entry.2), scope,
        spent⟩ := by
  -- No attributes are declared for the element, so there are no defaults to add.
  have declared : declarations.attributesOf name = [] := by
    simp [Declarations.attributesOf, undeclared]
  obtain ⟨seen, folded⟩ : ∃ seen, raws.foldlM (AttributeState.read declarations [] direct place)
      ⟨[], [], scope, spent⟩ = _ := foldlM_read_written writes named (by simp)
  have plain : ∀ entry ∈ attributes.map (fun entry => (entry.1, String.ofList entry.2)),
      ':' ∉ entry.1 := by
    intro entry member
    obtain ⟨written, within, rfl⟩ := List.mem_map.mp member
    exact isName_noColon (named.names written within)
  simp only [openElement, declared, folded, bind, Except.bind, List.foldlM_nil, pure, Except.pure,
    List.append_nil, List.reverse_reverse, fullAttributes_plain scope [] plain,
    fullTag_plain scope (isName_noColon proper), List.map_map, Function.comp_def]

end Opening

/-- What a start tag settles, however its attributes are placed in the text. -/
def Opens (context : ContentContext) (state : ContentState) (name : List Char)
    (attributes : List (List Char × List Char)) (opening : Opening) : Prop :=
  ∀ direct place raws, Writes raws attributes →
    openElement context.declarations direct state.spent place state.scope name raws = .ok opening

section Taking

variable {context : ContentContext} {frame : Frame} {before between after : ContentState}
  {name : List Char} {attributes : List (List Char × List Char)}

/-- Whether a text takes reading from one state to another, whatever follows the text. -/
def Takes (context : ContentContext) (frame : Frame) (text : List Char)
    (before after : ContentState) : Prop :=
  ∀ depth bound last rest, (text ++ rest).length < bound →
    ∃ bound' last', rest.length < bound' ∧
      readContent context depth bound frame last (text ++ rest) before =
        readContent context depth bound' frame last' rest after

/-- Nothing takes reading nowhere. -/
theorem Takes.refl (state : ContentState) : Takes context frame [] state state :=
  fun _ bound last _ enough => ⟨bound, last, enough, rfl⟩

/-- A text after another goes on from where that one has come. -/
theorem Takes.append {text more : List Char} (first : Takes context frame text before between)
    (second : Takes context frame more between after) :
    Takes context frame (text ++ more) before after := by
  -- The second text is what follows the first one, before the rest.
  intro depth bound last rest enough
  rw [List.append_assoc] at enough ⊢
  obtain ⟨bound', last', shorter, read⟩ := first depth bound last _ enough
  obtain ⟨bound'', last'', shortest, goesOn⟩ := second depth bound' last' rest shorter
  exact ⟨bound'', last'', shortest, read.trans goesOn⟩

/-- Data before markup is added to the innermost element. -/
theorem Takes.afterData {data text : List Char} (nonempty : data ≠ []) (kept : IsData data)
    (begins : text.head? = some '<') {e : OpenElement} {outer : List OpenElement} {scope : Scope}
    {spent : Nat} (takes : Takes context frame text ⟨e.addText data :: outer, scope, spent⟩ after) :
    Takes context frame (data ++ text) ⟨e :: outer, scope, spent⟩ after := by
  intro depth bound last rest enough
  cases bound with
  | zero => simp at enough
  | succ bound =>
  -- The data are one token, which leaves the text and one step less.
  rw [List.append_assoc] at enough ⊢
  have left : (text ++ rest).length < bound := by
    have counted := List.length_pos_iff.mpr nonempty
    rw [List.length_append] at enough
    omega
  have markup : (text ++ rest).head? = some '<' := by
    obtain ⟨more, rfl⟩ := List.head?_eq_some_iff.mp begins
    rfl
  obtain ⟨bound', last', shorter, read⟩ := takes depth bound data.getLast? rest left
  refine ⟨bound', last', shorter, ?_⟩
  rw [readContent_run nonempty kept (.inl markup)]
  exact read

/-- A start tag has at least two characters besides its attributes. -/
theorem length_startTagText (name : List Char) (attributes : List (List Char × List Char)) :
    attributes.length + 2 ≤ (startTagText name attributes).length := by
  -- Each attribute has at least the blank before it.
  have counted : attributes.length ≤ (attributes.flatMap attributeText).length := by
    induction attributes with
    | nil => simp
    | cons entry attributes ih =>
      simp only [List.flatMap_cons, List.length_append, List.length_cons, attributeText]
      omega
  simp only [startTagText, List.length_cons, List.length_append, List.length_nil]
  omega

/-- A start tag opens an element. -/
theorem takes_startTag (proper : isName name = true)
    (named : ∀ entry ∈ attributes, isName entry.1 = true) {opening : Opening}
    (opens : Opens context before name attributes opening) :
    Takes context frame (startTagText name attributes) before
      ⟨⟨name, opening.tag, opening.attributes, [], [], before.scope⟩ :: before.stack,
        opening.scope, opening.spent⟩ := by
  intro depth bound last rest enough
  cases bound with
  | zero => simp at enough
  | succ bound =>
  -- The tag is longer than the number of its attributes, so the steps suffice for them.
  have size := length_startTagText name attributes
  rw [List.length_append] at enough
  obtain ⟨raws, scanned, writes⟩ : ∃ raws, scanToken context.source.hasRoom bound
      (startTagText name attributes ++ rest) = _ ∧ _ := scanToken_startTag proper named (by omega)
  refine ⟨bound, none, by omega, readContent_startTag (by simp [startTagText]) scanned ?_⟩
  simp only [ContentContext.startTag, bind, Except.bind, opens _ _ _ writes, Bool.false_eq_true,
    if_false]

/-- An end tag closes the innermost element and makes it a child of the next one. -/
theorem takes_endTag (proper : isName name = true) {e parent : OpenElement}
    {outer : List OpenElement} {scope : Scope} {spent : Nat} (named : e.name = name) :
    Takes context documentFrame (endTagText name) ⟨e :: parent :: outer, scope, spent⟩
      ⟨parent.addChild e.close :: outer, e.outer, spent⟩ := by
  intro depth bound last rest enough
  cases bound with
  | zero => simp at enough
  | succ bound =>
  -- The element is not the last one open, so closing it makes it a child.
  have size : 0 < (endTagText name).length := by simp [endTagText]
  rw [List.length_append] at enough
  refine ⟨bound, none, by omega, readContent_endTag (by simp [endTagText])
    (scanToken_endTag proper) ?_⟩
  simp [Frame.endTag, documentFrame, named, ContentState.finish]

/-- Text that is added to an element without children is all there when the element is closed. -/
theorem addTexts_childless {e : OpenElement} (childless : e.reversedChildren = [])
    (outer : List OpenElement) (scope : Scope) (spent : Nat) (pieces : List (List Char)) :
    (ContentState.mk (e :: outer) scope spent).addTexts pieces =
      ⟨{ e with reversedText := pieces.reverse ++ e.reversedText } :: outer, scope, spent⟩ := by
  -- The first piece leaves the element childless, so the later ones are added like it.
  induction pieces generalizing e with
  | nil => rfl
  | cons piece pieces ih =>
    have added : e.addText piece = { e with reversedText := piece :: e.reversedText } := by
      simp [OpenElement.addText, childless]
    have goesOn := ih (e := { e with reversedText := piece :: e.reversedText }) childless
    rw [ContentState.addTexts] at goesOn ⊢
    simp only [List.foldl_cons, ContentState.addText, added, goesOn, List.reverse_cons,
      List.append_assoc, List.singleton_append]

/-- The text before the end tag of a childless element is added to it before it is closed. -/
theorem takes_textEnd (proper : isName name = true) {e parent : OpenElement} (named : e.name = name)
    (childless : e.reversedChildren = []) {outer : List OpenElement} {scope : Scope} {spent : Nat}
    (text : List Char) :
    Takes context documentFrame (escaped text ++ endTagText name)
      ⟨e :: parent :: outer, scope, spent⟩
      ⟨parent.addChild
        ⟨e.tag, e.attributes, String.ofList (e.reversedText.reverse.flatten ++ text), []⟩ :: outer,
        e.outer, spent⟩ := by
  intro depth bound last rest enough
  rw [List.append_assoc] at enough ⊢
  -- The text is read in pieces, up to the bracket of the end tag.
  obtain ⟨middle, between, pieces, shorter, whole, filled⟩ :=
    readContent_escaped context depth documentFrame last ('/' :: (name ++ ['>']) ++ rest)
      ⟨e :: parent :: outer, scope, spent⟩ text (List.forall_mem_nil _) enough
  rw [addTexts_childless childless] at filled
  have closes : Takes context documentFrame (endTagText name)
      ⟨{ e with reversedText := pieces.reverse ++ e.reversedText } :: parent :: outer, scope, spent⟩
      _ := takes_endTag proper named
  obtain ⟨bound', last', left, closed⟩ := closes depth middle between rest shorter
  refine ⟨bound', last', left, filled.trans (closed.trans ?_)⟩
  simp only [OpenElement.close, childless, List.reverse_append, List.reverse_reverse,
    List.flatten_append, whole, List.nil_append, List.reverse_nil]

/-- An element that holds text only becomes a child with its attributes and its text. -/
theorem takes_leaf (proper : isName name = true) (named : AreAttributes attributes)
    (undeclared : context.declarations.attributes = []) {parent : OpenElement}
    {outer : List OpenElement} {scope : Scope} {spent : Nat} (text : List Char) :
    Takes context documentFrame (leafText name attributes text) ⟨parent :: outer, scope, spent⟩
      ⟨parent.addChild
        ⟨fullName (scope.namespace? []) name,
          attributes.map fun entry => (String.ofList entry.1, String.ofList entry.2),
          String.ofList text, []⟩ :: outer, scope, spent⟩ := by
  -- The attributes are settled by the start tag; after it only text and the end tag come.
  have opens : Opens context ⟨parent :: outer, scope, spent⟩ name attributes _ :=
    fun _ _ _ writes => openElement_written undeclared proper writes named
  exact (takes_startTag proper named.names opens).append (takes_textEnd proper rfl rfl text)

/-- An element becomes a child with its attributes and with what its content makes of it. -/
theorem takes_element (proper : isName name = true) (named : AreAttributes attributes)
    (undeclared : context.declarations.attributes = []) {parent filled : OpenElement}
    {outer : List OpenElement} {scope : Scope} {spent : Nat} {inner : List Char}
    (takes : Takes context documentFrame inner
      ⟨⟨name, fullName (scope.namespace? []) name,
        attributes.map fun entry => (String.ofList entry.1, String.ofList entry.2), [], [],
        scope⟩ :: parent :: outer, scope, spent⟩ ⟨filled :: parent :: outer, scope, spent⟩)
    (same : filled.name = name) (around : filled.outer = scope) :
    Takes context documentFrame (elementText name attributes inner)
      ⟨parent :: outer, scope, spent⟩ ⟨parent.addChild filled.close :: outer, scope, spent⟩ := by
  -- The start tag leaves the bindings as they are, and so they are after the end tag.
  have opens : Opens context ⟨parent :: outer, scope, spent⟩ name attributes _ :=
    fun _ _ _ writes => openElement_written undeclared proper writes named
  have closed : Takes context documentFrame (endTagText name)
      ⟨filled :: parent :: outer, scope, spent⟩ ⟨parent.addChild filled.close :: outer, scope, spent⟩ :=
    around ▸ takes_endTag proper same
  exact (takes_startTag proper named.names opens).append (takes.append closed)

end Taking

end AutomationIndex.Xml
