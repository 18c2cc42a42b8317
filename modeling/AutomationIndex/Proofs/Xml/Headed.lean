import AutomationIndex.Proofs.Xml.Named
import AutomationIndex.Xml.Charset
import AutomationIndex.Xml.Document

/-! Written documents: a declaration, an instruction and a root element, and what may follow. -/

namespace AutomationIndex.Xml

variable {source : Source} {rest : List Char}

/-- The declaration that documents begin with. -/
def declarationText : List Char :=
  "<?xml version=\"1.0\" encoding=\"utf-8\"?>".toList

/-- An instruction with its data, after a blank if there are any. -/
def instructionText (target data : List Char) : List Char :=
  '<' :: '?' :: (target ++ ((if data.isEmpty then [] else ' ' :: data) ++ ['?', '>']))

/-- A target and data that can be written as an instruction. -/
structure IsInstruction (target data : List Char) : Prop where
  named : isName target = true
  unreserved : target.map Char.toLower ≠ ['x', 'm', 'l']
  unmarked : '?' ∉ data
  begins : data.dropWhile Text.isSpace = data

/-- What comes before a mark is scanned up to it. -/
theorem scanUpTo_written {first second : Char} {inner : List Char} (unmarked : first ∉ inner)
    (found : List Char) : scanUpTo first second found (inner ++ first :: second :: rest) =
      .ok (found.reverse ++ inner, rest) := by
  -- The scan looks two characters ahead, so the last one before the mark is a case of its own.
  induction inner generalizing found with
  | nil => simp [scanUpTo]
  | cons c inner ih =>
    obtain ⟨other, later⟩ := List.ne_and_not_mem_of_not_mem_cons unmarked
    have goesOn := ih later (c :: found)
    cases inner with
    | nil =>
      rw [List.cons_append, List.nil_append, scanUpTo]
      simpa [Ne.symm other] using goesOn
    | cons d inner =>
      rw [List.cons_append, List.cons_append, scanUpTo]
      simpa [Ne.symm other] using goesOn

/-- A written instruction is scanned. -/
theorem scanInstruction_written {target data : List Char} (proper : IsInstruction target data) :
    scanInstruction (target ++ ((if data.isEmpty then [] else ' ' :: data) ++ '?' :: '>' :: rest)) =
      .ok (.processing target data, rest) := by
  -- The target is not the reserved word in any case.
  have checked : ∀ after, checkTarget target after = .ok false := by
    intro after
    have reserved : target ≠ ['x', 'm', 'l'] := by
      rintro rfl
      exact proper.unreserved rfl
    simp [checkTarget, reserved, proper.unreserved]
  -- Without data the closing mark follows the target at once; otherwise a blank comes between.
  cases data with
  | nil =>
    have named : scanName (target ++ '?' :: '>' :: rest) = .ok (target, '?' :: '>' :: rest) :=
      scanName_written proper.named (by decide)
    have solid : Text.isSpace '?' = false := rfl
    simp [scanInstruction, named, solid, checked, bind, Except.bind]
  | cons c data =>
    have named : scanName (target ++ ' ' :: (c :: data ++ '?' :: '>' :: rest)) =
        .ok (target, ' ' :: (c :: data ++ '?' :: '>' :: rest)) :=
      scanName_written proper.named (by decide)
    have blank : Text.isSpace ' ' = true := rfl
    simp only [List.isEmpty_cons, Bool.false_eq_true, if_false, List.cons_append] at named ⊢
    simp only [scanInstruction, named, blank, if_true, checked, bind, Except.bind]
    rw [← List.cons_append, scanUpTo_written proper.unmarked]
    simp [proper.begins]

/-- A line end before markup is space. -/
theorem scanToken_lineEnd (source : Source) (rest : List Char) :
    Doctype.scanToken source ('\n' :: '<' :: rest) = .ok (.space, '<' :: rest) := rfl

/-- A written instruction is one token. -/
theorem scanToken_instruction {target data : List Char} (proper : IsInstruction target data) :
    Doctype.scanToken source (instructionText target data ++ rest) =
      .ok (.instruction (.processing target data), rest) := by
  -- The instruction is scanned up to its closing mark, with or without data.
  have scanned : scanInstruction (target ++ ((if data.isEmpty then [] else ' ' :: data) ++
      '?' :: '>' :: rest)) = _ := scanInstruction_written proper
  simp only [instructionText, List.cons_append, List.append_assoc, List.nil_append] at scanned ⊢
  simp only [Doctype.scanToken, beq_self_eq_true, if_true, Doctype.scanMarkup, scanned, bind,
    Except.bind]

/-- A bracket before a name begins the root element; which characters the name may have is looked at
later. -/
theorem scanToken_elementStart {c : Char} (first : isWideNameStart c = true) :
    Doctype.scanToken source ('<' :: c :: rest) = .ok (.elementStart, '<' :: c :: rest) := by
  -- Which kind of markup a bracket opens is decided by the character after it.
  have kept : isWideNameChar c = true := by simp [isWideNameChar, first]
  have exclamation : c ≠ '!' := isWideNameChar_ne kept (by decide)
  have question : c ≠ '?' := isWideNameChar_ne kept (by decide)
  simp only [Doctype.scanToken, beq_self_eq_true, if_true]
  rw [Doctype.scanMarkup]
  · exact if_pos (isWideNameStart_begins first)
  · exact exclamation
  · exact question

/-- A bracket before a colon begins nothing. -/
theorem scanToken_colonStart (source : Source) (rest : List Char) :
    Doctype.scanToken source ('<' :: ':' :: rest) = .error (.bad (rest.length + 1)) := rfl

/-- A token that may come before the root element contributes what it has to. -/
theorem readProlog_step {chars : List Char} (nonempty : chars ≠ []) {token : Doctype.Token}
    (scanned : Doctype.scanToken source chars = .ok (token, rest)) {prolog next : Doctype.Prolog}
    {phase : Doctype.Phase} {contribution : Doctype.Contribution}
    (stepped : Doctype.step prolog.groups.length prolog.phase token = some (phase, contribution))
    (early : contribution ≠ .rootElement)
    (contributes : { prolog with phase }.contribute source chars rest contribution = .ok next)
    (bound : Nat) :
    Doctype.readProlog source (bound + 1) chars prolog =
      Doctype.readProlog source bound rest next := by
  -- The scan and the step are given, so one round of the loop is left to compute.
  rw [Doctype.readProlog, scanned]
  · simp only [stepped, contributes]
  · exact nonempty

/-- The declaration and an instruction, each on a line of its own, are read up to the root element
and declare nothing. -/
theorem readProlog_written (source : Source) {target data : List Char}
    (proper : IsInstruction target data) {c : Char} (first : isWideNameStart c = true)
    (bound : Nat) :
    ∃ prolog, Doctype.readProlog source (bound + 5)
        (declarationText ++ '\n' :: (instructionText target data ++ '\n' :: '<' :: c :: rest))
        .empty = .ok (prolog, '<' :: c :: rest) ∧
      prolog.declarations = {} ∧ prolog.spent = 0 ∧
      prolog.reversedInstructions = [(target, data)] := by
  -- The declaration has its own phase of the prolog and contributes an encoding, which a text has
  -- no use for.
  have declared : ∀ after, Doctype.scanToken source (declarationText ++ after) =
      .ok (.instruction (.declaration " version=\"1.0\" encoding=\"utf-8\"".toList), after) :=
    fun _ => rfl
  let begun : Doctype.Prolog := { Doctype.Prolog.empty with phase := .afterStart }
  let reached : Doctype.Prolog := { begun with reversedInstructions := [(target, data)] }
  have read : Declaration.read " version=\"1.0\" encoding=\"utf-8\"".toList =
      .ok ⟨some ("utf-8".toList, "utf-8\"".toList), false⟩ := rfl
  have opened (left : List Char) : Doctype.readProlog source (bound + 5) (declarationText ++ left)
      .empty = Doctype.readProlog source (bound + 4) left begun := by
    have nonempty : declarationText ++ left ≠ [] := List.cons_ne_nil _ _
    have stepped : Doctype.step Doctype.Prolog.empty.groups.length Doctype.Prolog.empty.phase
        (.instruction (.declaration " version=\"1.0\" encoding=\"utf-8\"".toList)) =
      some (.afterStart, .xmlDeclaration " version=\"1.0\" encoding=\"utf-8\"".toList) := rfl
    refine readProlog_step nonempty (declared left) stepped (by simp) ?_ (bound + 4)
    simp only [Doctype.Prolog.contribute, read]
    rfl
  -- Line ends between the tokens contribute nothing.
  have passed (prolog : Doctype.Prolog) (begins : prolog.phase = .afterStart) (bound : Nat)
      (left : List Char) : Doctype.readProlog source (bound + 1) ('\n' :: '<' :: left) prolog =
        Doctype.readProlog source bound ('<' :: left) prolog := by
    obtain ⟨phase, _⟩ := prolog
    subst begins
    exact readProlog_step (by simp) (scanToken_lineEnd source left) rfl (by simp) rfl bound
  have instructed (left : List Char) : Doctype.readProlog source (bound + 3)
      (instructionText target data ++ left) begun =
        Doctype.readProlog source (bound + 2) left reached :=
    readProlog_step (by simp [instructionText]) (scanToken_instruction proper) rfl (by simp) rfl
      (bound + 2)
  have found : Doctype.readProlog source (bound + 1) ('<' :: c :: rest) reached =
      .ok (reached, '<' :: c :: rest) := by
    rw [Doctype.readProlog, scanToken_elementStart first]
    · rfl
    · simp
  -- Five tokens are read: the declaration, a line end, the instruction, a line end, and the
  -- bracket.
  refine ⟨reached, ?_, rfl, rfl, rfl⟩
  calc Doctype.readProlog source (bound + 5) (declarationText ++
          '\n' :: (instructionText target data ++ '\n' :: '<' :: c :: rest)) .empty
    _ = Doctype.readProlog source (bound + 4)
          ('\n' :: (instructionText target data ++ '\n' :: '<' :: c :: rest)) begun := opened _
    _ = Doctype.readProlog source (bound + 3)
          (instructionText target data ++ '\n' :: '<' :: c :: rest) begun := passed begun rfl _ _
    _ = Doctype.readProlog source (bound + 2) ('\n' :: '<' :: c :: rest) reached := instructed _
    _ = Doctype.readProlog source (bound + 1) ('<' :: c :: rest) reached := passed reached rfl _ _
    _ = .ok (reached, '<' :: c :: rest) := found

/-- A line end may follow the root element. -/
theorem readEpilog_lineEnd (complete : source.ending = .complete) (bound : Nat) :
    Doctype.readEpilog source (bound + 2) ['\n'] = .ok () := by
  -- Space may stand between; after it the document is complete.
  have scanned : Doctype.scanToken source ['\n'] = .ok (.space, []) := rfl
  rw [Doctype.readEpilog, scanned]
  · simp only [Doctype.between, Option.isSome_some, if_true]
    rw [Doctype.readEpilog]
    · simp only [complete]
    · simp
  · simp

/-- No other element may follow the root element, even after a line end. -/
theorem readEpilog_element {c : Char} (first : isWideNameStart c = true) (bound : Nat) :
    Doctype.readEpilog source (bound + 2) ('\n' :: '<' :: c :: rest) =
      .error ⟨.junkAfterElement, ('<' :: c :: rest).length⟩ := by
  -- Space may stand between; the next token is looked at, and it is no comment or instruction.
  rw [Doctype.readEpilog, scanToken_lineEnd]
  · simp only [Doctype.between, Option.isSome_some, if_true]
    rw [Doctype.readEpilog, scanToken_elementStart first]
    · rfl
    · simp
  · simp

/-- After the root element and a line end, a bracket before a colon is refused at the colon. -/
theorem readEpilog_colon (source : Source) (rest : List Char) (bound : Nat) :
    Doctype.readEpilog source (bound + 2) ('\n' :: '<' :: ':' :: rest) =
      .error ⟨.invalidToken, (':' :: rest).length⟩ := by
  -- Space may stand between; the next token stops before it is complete.
  rw [Doctype.readEpilog, scanToken_lineEnd]
  · simp only [Doctype.between, Option.isSome_some, if_true]
    rw [Doctype.readEpilog, scanToken_colonStart]
    · rfl
    · simp
  · simp

/-- The attribute of a root element that declares its namespace, if it has one. -/
def rootAttributes (uri : Option (List Char)) : List (List Char × List Char) :=
  (uri.map fun uri => (['x', 'm', 'l', 'n', 's'], uri)).toList

/-- Whether a text can be declared as the namespace of names without a colon. -/
structure IsNamespace (uri : List Char) : Prop where
  unbraced : '\x7d' ∉ uri
  notXml : String.ofList uri ≠ xmlNamespace
  notXmlns : String.ofList uri ≠ xmlnsNamespace

/-- Any other text is refused as a default namespace. -/
theorem checkBinding_unsound {uri : List Char} (unsound : ¬ IsNamespace uri) :
    ∃ cause ∈ [Cause.syntaxError, Cause.reservedNamespace],
      checkBinding [] (String.ofList uri) = .error cause := by
  -- A brace is looked for first.
  by_cases unbraced : '\x7d' ∈ uri
  · exact ⟨.syntaxError, by simp, by simp [checkBinding, unbraced]⟩
  · -- Without a brace, it must be one of the two that are reserved.
    have reserved : String.ofList uri = xmlNamespace ∨ String.ofList uri = xmlnsNamespace := by
      by_contra other
      exact unsound ⟨unbraced, fun same => other (.inl same), fun same => other (.inr same)⟩
    exact ⟨.reservedNamespace, by simp, by simp [checkBinding, unbraced, reserved]⟩

/-- The bindings in force within a root element. -/
def rootScope (uri : Option (List Char)) : Scope :=
  (uri.map fun uri => (([] : List Char), String.ofList uri)).toList ++ outerScope

/-- What the start tag of a root element settles. -/
def rootOpening (name : List Char) (uri : Option (List Char)) : Opening :=
  ⟨fullName ((rootScope uri).namespace? []) name, [], rootScope uri, 0⟩

/-- The start tag of a root element declares its namespace. -/
theorem opens_root {context : ContentContext} (undeclared : context.declarations.attributes = [])
    {name : List Char} (proper : isName name = true) {uri : Option (List Char)}
    (sound : ∀ text ∈ uri, IsNamespace text) :
    Opens context ⟨[], outerScope, 0⟩ name (rootAttributes uri) (rootOpening name uri) := by
  -- The only attribute that a root element has declares its namespace.
  intro direct place raws writes
  cases uri with
  | none =>
    exact openElement_written undeclared proper writes
      ⟨List.forall_mem_nil _, List.forall_mem_nil _, List.nodup_nil⟩
  | some uri =>
    obtain ⟨unbraced, notXml, notXmlns⟩ := sound uri rfl
    have declared : context.declarations.attributesOf name = [] := by
      simp [Declarations.attributesOf, undeclared]
    have bound : checkBinding [] (String.ofList uri) = .ok () := by
      simp [checkBinding, unbraced, notXml, notXmlns]
    -- There is one raw attribute, and adding it puts the namespace in force.
    cases writes with
    | cons written rest =>
    cases rest
    have added : AttributeState.read context.declarations [] direct place
        ⟨[], [], outerScope, 0⟩ _ = _ :=
      AttributeState.read_written written.1 written.2 List.not_mem_nil
    have binds : declaredPrefix? ['x', 'm', 'l', 'n', 's'] = some [] := rfl
    simp only [AttributeState.add, binds, bound] at added
    simp only [openElement, declared, List.foldlM_cons, List.foldlM_nil, added, bind, Except.bind,
      pure, Except.pure, List.reverse_nil, fullAttributes, fullTag_plain _ (isName_noColon proper)]
    rfl

/-- A root element, with its end tag on a line of its own. -/
def rootText (name : List Char) (uri : Option (List Char)) (inner : List Char) : List Char :=
  startTagText name (rootAttributes uri) ++ (inner ++ '\n' :: endTagText name)

/-- Whether a text between the tags of a root element makes the root a given element. -/
def Makes (source : Source) (name : List Char) (uri : Option (List Char)) (inner : List Char)
    (root : Element) : Prop :=
  ∃ e scope spent, e.name = name ∧ (e.addText ['\n']).close = root ∧
    Takes ⟨source, {}⟩ documentFrame inner
      ⟨[⟨name, (rootOpening name uri).tag, [], [], [], outerScope⟩], rootScope uri, 0⟩
      ⟨[e], scope, spent⟩

section Whole

variable {target data name inner : List Char} {uri : Option (List Char)} {root : Element}

/-- A root element is read as what its content makes of it, whatever follows. -/
theorem readRoot_written (proper : isName name = true) (sound : ∀ text ∈ uri, IsNamespace text)
    (makes : Makes source name uri inner root) :
    readRoot source {} 0 (rootText name uri inner ++ rest) = .ok (root, rest) := by
  obtain ⟨e, scope, spent, named, rfl, takes⟩ := makes
  have plain : ∀ entry ∈ rootAttributes uri, isName entry.1 = true := by
    cases uri with
    | none => exact List.forall_mem_nil _
    | some uri =>
      have word : isName ['x', 'm', 'l', 'n', 's'] = true := by decide
      exact List.forall_mem_singleton.mpr word
  have undeclared : (⟨source, {}⟩ : ContentContext).declarations.attributes = [] := rfl
  have opened := (takes_startTag proper plain (opens_root undeclared proper sound)).append takes
  obtain ⟨bound, last, enough, read⟩ := opened 1 ((rootText name uri inner ++ rest).length + 1) none
    (['\n'] ++ (endTagText name ++ rest)) (by simp [rootText])
  have long : 2 ≤ bound := by
    simp only [List.length_append, List.length_cons, endTagText] at enough
    omega
  obtain ⟨bound, rfl⟩ := Nat.exists_eq_add_of_le' long
  -- The line end is data of the root element, and then its end tag comes.
  have lined : readContent ⟨source, {}⟩ 1 (bound + 2) documentFrame last
      (['\n'] ++ (endTagText name ++ rest)) ⟨[e], scope, spent⟩ =
        readContent ⟨source, {}⟩ 1 (bound + 1) documentFrame (some '\n') (endTagText name ++ rest)
          ⟨[e.addText ['\n']], scope, spent⟩ :=
    readContent_run (List.cons_ne_nil _ _) (by decide) (.inl rfl)
  have closes : documentFrame.endTag ⟨[e.addText ['\n']], scope, spent⟩ (endTagText name ++ rest)
      name rest = .ok (.root (e.addText ['\n']).close rest) := by
    have kept : (e.addText ['\n']).name = name := by
      unfold OpenElement.addText
      split
      · exact named
      · exact named
    simp [Frame.endTag, documentFrame, kept, ContentState.finish]
  have ended : readContent ⟨source, {}⟩ 1 (bound + 1) documentFrame (some '\n')
      (endTagText name ++ rest) ⟨[e.addText ['\n']], scope, spent⟩ =
        .ok (.root (e.addText ['\n']).close rest) :=
    readContent_rootEnd (by simp [endTagText]) (scanToken_endTag proper) closes
  have whole : startTagText name (rootAttributes uri) ++ inner ++
      (['\n'] ++ (endTagText name ++ rest)) = rootText name uri inner ++ rest := by
    simp [rootText]
  rw [whole] at read
  have result := read.trans (lined.trans ended)
  simp only [readRoot, List.length_nil, Nat.zero_add, result]

/-- A root element with a name that is not read is refused within its name. -/
theorem readRoot_unknown (source : Source) (uri : Option (List Char)) (inner rest : List Char)
    (proper : isWideName name = true) (unknown : isName name = false) :
    ∃ left, readRoot source {} 0 (rootText name uri inner ++ rest) =
      .error ⟨.invalidToken, left⟩ := by
  let within := (rootAttributes uri).flatMap attributeText ++ ['>'] ++
    (inner ++ '\n' :: endTagText name) ++ rest
  -- The bracket and the name come first, and the name is looked at before what follows it.
  have bracket : rootText name uri inner ++ rest = '<' :: (name ++ within) := by
    simp [within, rootText, startTagText]
  obtain ⟨left, scanned⟩ : ∃ left, scanToken source.hasRoom ((name ++ within).length + 1)
      ('<' :: (name ++ within)) = .error (.bad left) := scanToken_unknown proper unknown _
  refine ⟨left, ?_⟩
  rw [bracket, readRoot, List.length_cons, readContent, scanned]
  · rfl
  · simp

/-- A root element whose namespace cannot be declared is refused for that. -/
theorem readRoot_undeclarable (source : Source) (inner rest : List Char)
    (proper : isName name = true) {uri : List Char} (unsound : ¬ IsNamespace uri) :
    ∃ cause ∈ [Cause.syntaxError, Cause.reservedNamespace], ∃ left,
      readRoot source {} 0 (rootText name (some uri) inner ++ rest) = .error ⟨cause, left⟩ := by
  obtain ⟨cause, listed, refused⟩ := checkBinding_unsound unsound
  let within := inner ++ '\n' :: endTagText name ++ rest
  let tag := startTagText name (rootAttributes (some uri))
  have whole : rootText name (some uri) inner ++ rest = tag ++ within := by
    simp [within, tag, rootText]
  have word : isName ['x', 'm', 'l', 'n', 's'] = true := by decide
  have size : (rootAttributes (some uri)).length < (tag ++ within).length := by
    have counted : _ + 2 ≤ tag.length := length_startTagText name (rootAttributes (some uri))
    rw [List.length_append]
    omega
  obtain ⟨raws, scanned, writes⟩ : ∃ raws, scanToken source.hasRoom (tag ++ within).length
      (tag ++ within) = .ok (.startTag name raws false, within) ∧ _ :=
    scanToken_startTag proper (List.forall_mem_singleton.mpr word) size
  -- The declaration is the only attribute, and taking it into account fails.
  have opened (direct : Nat) (place : TagPlace) :
      openElement {} direct 0 place outerScope name raws = .error ⟨cause, place.left⟩ := by
    cases writes with
    | cons written rest =>
    cases rest
    have added : AttributeState.read {} [] direct place ⟨[], [], outerScope, 0⟩ _ = _ :=
      AttributeState.read_written written.1 written.2 List.not_mem_nil
    have binds : declaredPrefix? ['x', 'm', 'l', 'n', 's'] = some [] := rfl
    simp only [AttributeState.add, binds, refused] at added
    have declared : Declarations.attributesOf {} name = [] := rfl
    simp only [openElement, declared, List.foldlM_cons, added, bind, Except.bind]
  refine ⟨cause, listed, (tag ++ within).length, ?_⟩
  rw [whole, readRoot, readContent, scanned]
  · simp only [ContentContext.startTag, bind, Except.bind, opened]
    rfl
  · simp [tag, startTagText]

/-- A document: the declaration, an instruction and a root element, each on a line of its own. -/
def documentText (target data name : List Char) (uri : Option (List Char)) (inner : List Char) :
    List Char :=
  declarationText ++ '\n' :: (instructionText target data ++
    '\n' :: (rootText name uri inner ++ ['\n']))

/-- Reading a written document comes down to reading its root element and what follows that. -/
theorem documentRead_head (instruction : IsInstruction target data)
    (proper : isWideName name = true)
    (written : source.chars = documentText target data name uri inner ++ rest) :
    ∃ bound, Document.read source = (do
      let (root, after) ← readRoot source {} 0 (rootText name uri inner ++ '\n' :: rest)
      Doctype.readEpilog source (bound + 2) after
      .ok ⟨[(String.ofList target, String.ofList (Text.unifyLineEnds data))], root⟩) := by
  -- The root element begins with a bracket and the first character of its name.
  obtain ⟨c, more, begins, first⟩ := isWideName_cons proper
  let within := more ++ (rootAttributes uri).flatMap attributeText ++ ['>'] ++
    (inner ++ '\n' :: endTagText name)
  have bracket : rootText name uri inner = '<' :: c :: within := by
    simp [within, rootText, startTagText, begins]
  have lined : source.chars = declarationText ++ '\n' :: (instructionText target data ++
      '\n' :: '<' :: c :: (within ++ '\n' :: rest)) := by
    rw [written, documentText, bracket]
    simp only [List.append_assoc, List.cons_append, List.nil_append]
  have long : 4 ≤ source.chars.length := by
    have head : 4 ≤ declarationText.length := by decide
    rw [lined, List.length_append]
    omega
  obtain ⟨extra, size⟩ := Nat.exists_eq_add_of_le' long
  obtain ⟨prolog, headed, bare, unspent, instructed⟩ : ∃ prolog, _ :=
    readProlog_written source instruction first extra
  rw [← lined] at headed
  have bound : source.chars.length + 1 = extra + 5 := by omega
  refine ⟨extra + 3, ?_⟩
  -- The prolog declares nothing and has the one instruction.
  simp only [Document.read, bind, Except.bind, bound, headed, bare, unspent, instructed, bracket,
    List.cons_append, List.reverse_cons, List.reverse_nil, List.nil_append, List.map_cons,
    List.map_nil]

/-- Where its root element can be read, only what follows it is left to be read of a document. -/
theorem documentRead_tail (instruction : IsInstruction target data) (proper : isName name = true)
    (sound : ∀ text ∈ uri, IsNamespace text) (makes : Makes source name uri inner root)
    (written : source.chars = documentText target data name uri inner ++ rest) :
    ∃ bound, Document.read source = (do
      Doctype.readEpilog source (bound + 2) ('\n' :: rest)
      .ok ⟨[(String.ofList target, String.ofList (Text.unifyLineEnds data))], root⟩) := by
  -- The head is read without looking at the end, so only the root is filled in.
  obtain ⟨bound, read⟩ := documentRead_head instruction (isWideName_of_isName proper) written
  refine ⟨bound, read.trans ?_⟩
  simp only [readRoot_written proper sound makes, bind, Except.bind]

/-- A document whose root element is refused is refused for the same reason. -/
theorem documentRead_refused (instruction : IsInstruction target data)
    (proper : isWideName name = true)
    (written : source.chars = documentText target data name uri inner ++ rest) {fault : Fault}
    (refused : readRoot source {} 0 (rootText name uri inner ++ '\n' :: rest) = .error fault) :
    Document.read source = .error fault := by
  -- A refused root ends the document, whatever stands behind it.
  obtain ⟨bound, read⟩ := documentRead_head instruction proper written
  rw [refused] at read
  exact read

/-- A written document is read as its instruction and its root element. -/
theorem documentRead_written (instruction : IsInstruction target data) (proper : isName name = true)
    (sound : ∀ text ∈ uri, IsNamespace text) (makes : Makes source name uri inner root)
    (written : source.chars = documentText target data name uri inner)
    (complete : source.ending = .complete) :
    Document.read source =
      .ok ⟨[(String.ofList target, String.ofList (Text.unifyLineEnds data))], root⟩ := by
  -- Nothing stands behind the root but its line end.
  have alone : source.chars = documentText target data name uri inner ++ [] := by
    rw [written, List.append_nil]
  obtain ⟨bound, read⟩ := documentRead_tail instruction proper sound makes alone
  rw [readEpilog_lineEnd complete] at read
  exact read

/-- A written document that another element follows is refused where that element begins. -/
theorem documentRead_followed (instruction : IsInstruction target data)
    (proper : isName name = true) (sound : ∀ text ∈ uri, IsNamespace text)
    (makes : Makes source name uri inner root) {c : Char} (first : isWideNameStart c = true)
    (written : source.chars = documentText target data name uri inner ++ '<' :: c :: rest) :
    Document.read source = .error ⟨.junkAfterElement, ('<' :: c :: rest).length⟩ := by
  -- What stands behind the root is looked at once the root is complete.
  obtain ⟨bound, read⟩ := documentRead_tail instruction proper sound makes written
  rw [readEpilog_element first] at read
  exact read

/-- A written document that a bracket and a colon follow is refused at the colon. -/
theorem documentRead_colon (instruction : IsInstruction target data) (proper : isName name = true)
    (sound : ∀ text ∈ uri, IsNamespace text) (makes : Makes source name uri inner root)
    (written : source.chars = documentText target data name uri inner ++ '<' :: ':' :: rest) :
    Document.read source = .error ⟨.invalidToken, (':' :: rest).length⟩ := by
  obtain ⟨bound, read⟩ := documentRead_tail instruction proper sound makes written
  rw [readEpilog_colon] at read
  exact read

end Whole

section Readable

instance (chars : List Char) : Decidable (IsReadable chars) :=
  List.decidableBAll _ chars

/-- The characters between the controls and those that are no characters may stand in documents. -/
theorem isDocumentChar_between {c : Char} (above : 0x20 ≤ c.toNat) (below : c.toNat ≤ 0xd7a3) :
    isDocumentChar c = true := by
  have low : ¬ c.toNat < 0x20 := by omega
  have notFffe : c.toNat ≠ 0xFFFE := by omega
  have notFfff : c.toNat ≠ 0xFFFF := by omega
  simp [isDocumentChar, low, notFffe, notFfff]

/-- A name is readable. -/
theorem isName_readable {name : List Char} (proper : isName name = true) : IsReadable name :=
  isWideName_readable (isWideName_of_isName proper)

/-- A readable text is readable as it is written. -/
theorem escaped_readable {text : List Char} (readable : IsReadable text) :
    IsReadable (escaped text) := by
  have bodies : ∀ entry ∈ references, IsReadable ('&' :: entry.2) := by decide
  intro c member
  -- A character is written as it is or as a reference, and all the references are readable.
  obtain ⟨d, among, within⟩ := List.mem_flatMap.mp member
  rcases escapedChar_cases d with ⟨-, written⟩ | ⟨body, listed, written⟩
  · rw [written, List.mem_singleton] at within
    exact readable c (within ▸ among)
  · rw [written] at within
    exact bodies _ listed c within

/-- A start tag is readable, if the name and the values in it are. -/
theorem startTagText_readable {name : List Char} (called : IsReadable name)
    {attributes : List (List Char × List Char)}
    (readable : ∀ entry ∈ attributes, isName entry.1 = true ∧ IsReadable entry.2) :
    IsReadable (startTagText name attributes) := by
  -- An attribute is a blank, its name, an equals sign and its escaped value in quotes.
  have values : IsReadable (attributes.flatMap attributeText) := by
    intro c member
    obtain ⟨entry, listed, within⟩ := List.mem_flatMap.mp member
    obtain ⟨named, value⟩ := readable entry listed
    have closed : IsReadable (escaped entry.2 ++ ['"']) :=
      (escaped_readable value).append (by decide)
    have whole : IsReadable (attributeText entry) :=
      ((isName_readable named).append ((closed.cons (by decide)).cons (by decide))).cons (by decide)
    exact whole c within
  exact ((called.append values).append (by decide)).cons (by decide)

/-- An end tag is readable, if the name in it is. -/
theorem endTagText_readable {name : List Char} (called : IsReadable name) :
    IsReadable (endTagText name) :=
  ((called.append (by decide)).cons (by decide)).cons (by decide)

/-- A document is readable, if what it is written for is. -/
theorem documentText_readable {target data name inner : List Char} {uri : Option (List Char)}
    (instruction : IsInstruction target data) (told : IsReadable data)
    (called : IsReadable name) (namespaced : ∀ text ∈ uri, IsReadable text)
    (within : IsReadable inner) : IsReadable (documentText target data name uri inner) := by
  -- The parts are readable one by one, and so are the line ends between them.
  have heading : IsReadable (instructionText target data) := by
    refine (((isName_readable instruction.named).append (.append ?_ (by decide))).cons
      (by decide)).cons (by decide)
    split
    · exact List.forall_mem_nil _
    · exact told.cons (by decide)
  have attributes : ∀ entry ∈ rootAttributes uri, isName entry.1 = true ∧ IsReadable entry.2 := by
    intro entry member
    obtain ⟨text, given, rfl⟩ : ∃ text ∈ uri, (['x', 'm', 'l', 'n', 's'], text) = entry := by
      simpa [rootAttributes] using member
    have word : isName ['x', 'm', 'l', 'n', 's'] = true := by decide
    exact ⟨word, namespaced text given⟩
  have root : IsReadable (rootText name uri inner) :=
    (startTagText_readable called attributes).append
      (within.append ((endTagText_readable called).cons (by decide)))
  have declared : IsReadable declarationText := by decide
  exact declared.append ((heading.append ((root.append (by decide)).cons (by decide))).cons
    (by decide))

end Readable

/-- A text that begins with an instruction is its own source, up to what no document may hold. -/
theorem ofText_instruction (rest : List Char) :
    (Source.ofText (String.ofList ('<' :: '?' :: rest))).mark = [] ∧
      (Source.ofText (String.ofList ('<' :: '?' :: rest))).chars =
        ('<' :: '?' :: rest).takeWhile isDocumentChar ∧
      (IsReadable rest →
        (Source.ofText (String.ofList ('<' :: '?' :: rest))).ending = .complete) := by
  have plain : Source.ofText (String.ofList ('<' :: '?' :: rest)) =
      Source.ofChars ('<' :: '?' :: rest) := by
    simp only [Source.ofText, String.toList_ofList]
    rfl
  -- No byte order mark comes before the bracket, and no declared encoding counts in a text.
  have unmarked : ('<' :: '?' :: rest).takeWhile (· == Char.ofNat 0xFEFF) = [] := rfl
  rw [plain]
  simp only [Source.ofChars, unmarked, List.take_nil, List.length_nil, List.drop_zero, true_and]
  intro readable
  have whole : ('<' :: '?' :: rest).takeWhile isDocumentChar = '<' :: '?' :: rest := by
    have all : IsReadable ('<' :: '?' :: rest) := (readable.cons (by decide)).cons (by decide)
    exact List.takeWhile_eq_self_iff.mpr all
  simp [whole]

/-- A written document of readable parts, taken as a text, is read as its instruction and its root
element. -/
theorem documentRead_ofText {target data name inner : List Char} {uri : Option (List Char)}
    {root : Element} (instruction : IsInstruction target data) (told : IsReadable data)
    (proper : isName name = true) (sound : ∀ text ∈ uri, IsNamespace text ∧ IsReadable text)
    (within : IsReadable inner) {text : String}
    (written : text.toList = documentText target data name uri inner)
    (makes : Makes (Source.ofText text) name uri inner root) :
    Document.read (Source.ofText text) =
      .ok ⟨[(String.ofList target, String.ofList (Text.unifyLineEnds data))], root⟩ := by
  -- All of the text is readable, so the source is the whole text and complete.
  have readable : IsReadable text.toList := by
    rw [written]
    exact documentText_readable instruction told (isName_readable proper)
      (fun uri given => (sound uri given).2) within
  obtain ⟨more, begins⟩ : ∃ more, text.toList = '<' :: '?' :: more := ⟨_, written⟩
  obtain ⟨-, chars, complete⟩ := ofText_instruction more
  rw [← begins, String.ofList_toList] at chars complete
  have ended : IsReadable more := by
    rw [begins] at readable
    exact readable.subset fun c member => by simp [member]
  have whole : text.toList.takeWhile isDocumentChar = text.toList :=
    List.takeWhile_eq_self_iff.mpr readable
  exact documentRead_written instruction proper (fun uri given => (sound uri given).1) makes
    ((chars.trans whole).trans written) (complete ended)

end AutomationIndex.Xml
