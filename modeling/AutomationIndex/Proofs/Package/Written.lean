import AutomationIndex.Proofs.Package.Versions

/-! Written package files: what they declare is what reading them gives. -/

namespace AutomationIndex

open Xml

/-- A namespace in front of a name makes no difference to its local name. -/
theorem localName_namespaced (uri : Option String) (name : List Char) :
    localName (fullName uri name) = localName (String.ofList name) := by
  cases uri with
  | none => rfl
  | some uri =>
    -- Read from its end, the name comes first, and then the brace that ends the namespace.
    have spelt : (fullName (some uri) name).toList.reverse =
        name.reverse ++ '\x7d' :: ('\x7b' :: uri.toList).reverse := by
      simp [fullName]
    have stopped : ('\x7d' :: ('\x7b' :: uri.toList).reverse).takeWhile (· != '\x7d') = [] :=
      List.takeWhile_cons_of_neg (by decide)
    rw [localName, spelt, List.takeWhile_append, stopped, List.append_nil, localName,
      String.toList_ofList]
    split
    · next whole => rw [(List.takeWhile_prefix _).eq_of_length whole]
    · rfl

/-- The local part of a full name is what stands after its namespace. -/
theorem localName_fullName (uri : Option String) {name : List Char} (plain : '\x7d' ∉ name) :
    localName (fullName uri name) = String.ofList name := by
  have kept : ∀ c ∈ name.reverse, (c != '\x7d') = true := by
    intro c member
    simpa using fun same : c = '\x7d' => plain (same ▸ List.mem_reverse.mp member)
  have taken := List.takeWhile_eq_self_iff.mpr kept
  rw [localName_namespaced, localName, String.toList_ofList, taken, List.reverse_reverse]

namespace ChildObject

/-- Whether an object can be declared: it has a type and a name without blanks around it, its other
texts are not empty, and documents may hold all their characters. -/
structure IsDeclarable (o : ChildObject) : Prop where
  type_ne : o.type ≠ ""
  name_ne : o.name ≠ ""
  name_strip : Text.strip o.name = o.name
  description_ne : o.description ≠ some ""
  language_ne : o.language ≠ some ""
  type_readable : IsReadable o.type.toList
  name_readable : IsReadable o.name.toList
  description_readable : ∀ text ∈ o.description, IsReadable text.toList
  language_readable : ∀ text ∈ o.language, IsReadable text.toList

/-- The attributes that declare an object. -/
def declared (o : ChildObject) : List (List Char × List Char) :=
  ("Type".toList, o.type.toList) ::
    ((o.language.map fun text => ("Language".toList, text.toList)).toList ++
      ((o.description.map fun text => ("Description".toList, text.toList)).toList ++
        if o.isReference then [("Reference".toList, "true".toList)] else []))

/-- The line that declares an object. -/
def line (o : ChildObject) : List Char :=
  "    ".toList ++ leafText "Object".toList o.declared o.name.toList

/-- The element that declares an object in a namespace. -/
def element (uri : Option String) (o : ChildObject) : Element :=
  ⟨fullName uri "Object".toList,
    o.declared.map fun entry => (String.ofList entry.1, String.ofList entry.2),
    String.ofList o.name.toList, []⟩

/-- The names of the attributes are among four. -/
theorem declared_names (o : ChildObject) : (o.declared.map Prod.fst).Sublist
    ["Type".toList, "Language".toList, "Description".toList, "Reference".toList] := by
  obtain ⟨type, name, description, isReference, language⟩ := o
  cases language <;> cases description <;> cases isReference <;> simp [declared]

/-- The attributes have proper names. -/
theorem declared_areAttributes (o : ChildObject) : AreAttributes o.declared where
  names := by
    intro entry member
    -- All names come from a list of four, which can be checked one by one.
    have among := o.declared_names.subset (List.mem_map_of_mem member)
    have proper : ∀ name ∈ ["Type".toList, "Language".toList, "Description".toList,
        "Reference".toList], isName name = true := by decide
    exact proper _ among
  declareNothing := by
    intro entry member
    have among := o.declared_names.subset (List.mem_map_of_mem member)
    have other : ∀ name ∈ ["Type".toList, "Language".toList, "Description".toList,
        "Reference".toList], name ≠ ['x', 'm', 'l', 'n', 's'] := by decide
    exact other _ among
  distinct := o.declared_names.nodup (by decide)

/-- The attributes of the element give back what they were written for. -/
theorem element_attributes (uri : Option String) (o : ChildObject) :
    (o.element uri).attribute? "Type" = some o.type ∧
      (o.element uri).attribute? "Language" = o.language ∧
      (o.element uri).attribute? "Description" = o.description ∧
      (o.element uri).attribute? "Reference" = if o.isReference then some "true" else none := by
  obtain ⟨type, name, description, isReference, language⟩ := o
  -- There is one case for each choice of the optional texts and of the flag.
  cases language <;> cases description <;> cases isReference <;>
    simp [Element.attribute?, Element.attributes, element, declared]

/-- The element that declares an object is read as the object. -/
theorem read_element (uri : Option String) {o : ChildObject} (sound : o.IsDeclarable)
    (position : Nat) : ChildObject.read position (o.element uri) = .ok o := by
  obtain ⟨type, language, description, reference⟩ := element_attributes uri o
  have tag : (o.element uri).name = "Object" := localName_fullName uri (by decide)
  have childless : (o.element uri).children = [] := rfl
  have name : Text.strip (o.element uri).text = o.name := by
    simpa [element, Element.text] using sound.name_strip
  -- A text that is there and not empty is kept.
  have kept : ∀ text : Option String, text ≠ some "" → Attribute.nonempty text = text := by
    intro text full
    cases text with
    | none => rfl
    | some text =>
      have other : text ≠ "" := fun same => full (same ▸ rfl)
      simp [Attribute.nonempty, other]
  have typed : Attribute.nonempty (some o.type) = some o.type :=
    kept _ fun same => sound.type_ne (Option.some.inj same)
  have flag : Attribute.flag (if o.isReference then some "true" else none) = o.isReference := by
    cases o.isReference <;> rfl
  simp only [ChildObject.read, tag, childless, type, typed, name, language, description, reference,
    kept _ sound.language_ne, kept _ sound.description_ne, flag]
  simp [sound.name_ne]

/-- The elements that declare objects are read as the objects, in order. -/
theorem readObjects_elements (uri : Option String) {objects : List ChildObject}
    (sound : ∀ o ∈ objects, o.IsDeclarable) (position : Nat) :
    readObjects position (objects.map (element uri)) = .ok objects := by
  -- The flag is written only where it is set.
  induction objects generalizing position with
  | nil => rfl
  | cons o objects ih =>
    obtain ⟨first, others⟩ := List.forall_mem_cons.mp sound
    simp [readObjects, read_element uri first, ih others, bind, Except.bind]

/-- The line of an object that can be declared is readable. -/
theorem IsDeclarable.line_readable {o : ChildObject} (sound : o.IsDeclarable) :
    IsReadable o.line := by
  obtain ⟨type, name, description, isReference, language⟩ := o
  have values : ∀ entry ∈ declared ⟨type, name, description, isReference, language⟩,
      IsReadable entry.2 := by
    -- The values are the texts of the object and the word for the flag.
    refine List.forall_mem_cons.mpr ⟨sound.type_readable, List.forall_mem_append.mpr ⟨?_,
      List.forall_mem_append.mpr ⟨?_, ?_⟩⟩⟩
    · simpa using sound.language_readable
    · simpa using sound.description_readable
    · cases isReference
      · exact List.forall_mem_nil _
      · exact List.forall_mem_singleton.mpr (by decide)
  have word : IsReadable "Object".toList := by decide
  have tag := startTagText_readable word fun entry member =>
    ⟨(declared_areAttributes _).names entry member, values entry member⟩
  have indent : IsReadable "    ".toList := by decide
  exact indent.append (tag.append ((escaped_readable sound.name_readable).append
    (endTagText_readable (by decide))))

end ChildObject

/-- The lines of an object list, within its tags. -/
def objectsText (objects : List ChildObject) : List Char :=
  "\n  ".toList ++ (startTagText "Objects".toList [] ++
    '\n' :: (['\n'].intercalate (objects.map ChildObject.line) ++
      ("\n  ".toList ++ endTagText "Objects".toList)))

section Lists

variable {context : ContentContext} {outer : List OpenElement} {scope : Scope} {spent : Nat}

/-- Data in an element is added to its text, or it is not kept. -/
theorem addText_cases (e : OpenElement) (data : List Char) :
    ∃ pieces, e.addText data = { e with reversedText := pieces } := by
  unfold OpenElement.addText
  split
  · exact ⟨_, rfl⟩
  · exact ⟨_, rfl⟩

/-- Object lines become children of the element that is open. -/
theorem takes_lines (undeclared : context.declarations.attributes = []) (objects : List ChildObject)
    (e : OpenElement) :
    ∃ pieces, Takes context documentFrame
      (objects.flatMap fun o => '\n' :: o.line) ⟨e :: outer, scope, spent⟩
      ⟨{ e with
        reversedText := pieces
        reversedChildren := (objects.map (ChildObject.element (scope.namespace? []))).reverse ++
          e.reversedChildren } :: outer, scope, spent⟩ := by
  -- Each line adds one child; only the text between the lines may be dropped.
  induction objects generalizing e with
  | nil => exact ⟨e.reversedText, .refl _⟩
  | cons o objects ih =>
    obtain ⟨pieces, added⟩ := addText_cases e "\n    ".toList
    obtain ⟨later, rest⟩ := ih
      { e with
        reversedText := pieces
        reversedChildren := o.element (scope.namespace? []) :: e.reversedChildren }
    -- The line end and the indent before a leaf are data of the element around it.
    have indent : IsData "\n    ".toList := by decide
    have leaf : Takes context documentFrame (leafText "Object".toList o.declared o.name.toList)
        ⟨e.addText "\n    ".toList :: outer, scope, spent⟩
        ⟨(e.addText "\n    ".toList).addChild (o.element (scope.namespace? [])) :: outer, scope,
          spent⟩ :=
      takes_leaf (by decide) o.declared_areAttributes undeclared o.name.toList
    have line : Takes context documentFrame ('\n' :: o.line) ⟨e :: outer, scope, spent⟩
        ⟨(e.addText "\n    ".toList).addChild (o.element (scope.namespace? [])) :: outer, scope,
          spent⟩ :=
      leaf.afterData (List.cons_ne_nil _ _) indent rfl
    rw [added] at line
    refine ⟨later, ?_⟩
    have both := line.append rest
    simpa only [List.flatMap_cons, List.map_cons, List.reverse_cons, List.append_assoc,
      List.singleton_append] using both

/-- The end tag of an element, after data, makes it a child of the element around it. -/
theorem takes_closing {name data : List Char} (proper : isName name = true) (some : data ≠ [])
    (kept : IsData data) (e parent : OpenElement) (named : e.name = name) :
    ∃ text, Takes context documentFrame (data ++ endTagText name)
      ⟨e :: parent :: outer, scope, spent⟩
      ⟨{ parent with
        reversedChildren := ⟨e.tag, e.attributes, text, e.reversedChildren.reverse⟩ ::
          parent.reversedChildren } :: outer, e.outer, spent⟩ := by
  -- The text of the element no longer matters, for it has children.
  obtain ⟨pieces, added⟩ := addText_cases e data
  have ended : Takes context documentFrame (endTagText name)
      ⟨{ e with reversedText := pieces } :: parent :: outer, scope, spent⟩
      ⟨{ parent with
        reversedChildren := ⟨e.tag, e.attributes, String.ofList pieces.reverse.flatten,
          e.reversedChildren.reverse⟩ :: parent.reversedChildren } :: outer, e.outer, spent⟩ :=
    takes_endTag proper named
  refine ⟨String.ofList pieces.reverse.flatten, Takes.afterData some kept rfl ?_⟩
  rw [added]
  exact ended

/-- The text of an object list with objects has a line for each between its tags. -/
theorem objectsText_cons (o : ChildObject) (objects : List ChildObject) :
    objectsText (o :: objects) = "\n  ".toList ++ startTagText "Objects".toList [] ++
      ((o :: objects).flatMap (fun o => '\n' :: o.line) ++
        ("\n  ".toList ++ endTagText "Objects".toList)) := by
  -- Joined by line ends and after one more, the lines each have a line end before them.
  have lines : '\n' :: ['\n'].intercalate ((o :: objects).map ChildObject.line) =
      (o :: objects).flatMap fun o => '\n' :: o.line := by
    rw [cons_intercalate (by simp), List.flatMap_map]
  rw [objectsText, ← lines]
  simp

/-- The object list becomes a child of the element that is open. -/
theorem takes_objects (undeclared : context.declarations.attributes = [])
    (objects : List ChildObject) (e : OpenElement) :
    ∃ pieces text, Takes context documentFrame (objectsText objects) ⟨e :: outer, scope, spent⟩
      ⟨{ e with
        reversedText := pieces
        reversedChildren := ⟨fullName (scope.namespace? []) "Objects".toList, [], text,
          objects.map (ChildObject.element (scope.namespace? []))⟩ :: e.reversedChildren } :: outer,
        scope, spent⟩ := by
  obtain ⟨pieces, added⟩ := addText_cases e "\n  ".toList
  let list : OpenElement :=
    ⟨"Objects".toList, fullName (scope.namespace? []) "Objects".toList, [], [], [], scope⟩
  let around : OpenElement := { e with reversedText := pieces }
  have isList : isName "Objects".toList = true := by decide
  have bare : AreAttributes [] := ⟨List.forall_mem_nil _, List.forall_mem_nil _, List.nodup_nil⟩
  have opened : Takes context documentFrame ("\n  ".toList ++ startTagText "Objects".toList [])
      ⟨e :: outer, scope, spent⟩ ⟨list :: around :: outer, scope, spent⟩ := by
    have opens : Opens context ⟨e.addText "\n  ".toList :: outer, scope, spent⟩ "Objects".toList []
        ⟨fullName (scope.namespace? []) "Objects".toList, [], scope, spent⟩ :=
      fun _ _ _ writes => openElement_written undeclared isList writes bare
    have tag : Takes context documentFrame (startTagText "Objects".toList []) _ _ :=
      takes_startTag isList bare.names opens
    rw [added] at tag
    refine Takes.afterData (by decide) (by decide) rfl ?_
    rw [added]
    exact tag
  cases objects with
  | nil =>
    -- Without objects, the line ends around the missing lines are one run of data.
    obtain ⟨text, closed⟩ : ∃ text, Takes context documentFrame
        ("\n\n  ".toList ++ endTagText "Objects".toList)
        ⟨list :: around :: outer, scope, spent⟩ _ :=
      takes_closing isList (by decide) (by decide) list around rfl
    exact ⟨pieces, text, opened.append closed⟩
  | cons o objects =>
    obtain ⟨filled, lines⟩ : ∃ filled, Takes context documentFrame
        ((o :: objects).flatMap fun o => '\n' :: o.line)
        ⟨list :: around :: outer, scope, spent⟩ _ :=
      takes_lines undeclared (o :: objects) list
    obtain ⟨text, closed⟩ : ∃ text, Takes context documentFrame
        ("\n  ".toList ++ endTagText "Objects".toList) _ _ :=
      takes_closing isList (by decide) (by decide)
        { list with
          reversedText := filled
          reversedChildren := ((o :: objects).map
            (ChildObject.element (scope.namespace? []))).reverse ++ [] }
        around rfl
    refine ⟨pieces, text, ?_⟩
    have whole := opened.append (lines.append closed)
    simp only [List.append_nil, List.reverse_reverse] at whole
    rw [objectsText_cons]
    exact whole

end Lists

/-- What a package file is to declare: a root element with a name and any namespace, versions and
objects that can be written in a document. -/
structure PackageOutline where
  rootType : String
  uri : Option String
  header : Header
  objects : List ChildObject
  rootType_name : isWideName rootType.toList = true
  uri_readable : ∀ text ∈ uri, IsReadable text.toList
  header_sound : header.IsSound
  objects_sound : ∀ o ∈ objects, o.IsDeclarable

namespace PackageOutline

variable (outline : PackageOutline)

/-- Whether the root element is one that is read: its name is no later one, and its namespace can be
declared. -/
structure IsSupported : Prop where
  named : isName outline.rootType.toList = true
  namespaced : ∀ text ∈ outline.uri, IsNamespace text.toList

/-- The characters of the file. -/
def chars : List Char :=
  documentText "AutomationStudio".toList outline.header.data outline.rootType.toList
    (outline.uri.map String.toList) (objectsText outline.objects)

/-- The text of the file. -/
def text : String :=
  String.ofList outline.chars

/-- What holds of the namespace of the file holds of its characters. -/
theorem forall_namespaces {P : List Char → Prop} (held : ∀ text ∈ outline.uri, P text.toList) :
    ∀ chars ∈ outline.uri.map String.toList, P chars := by
  intro chars member
  obtain ⟨uri, given, rfl⟩ : ∃ uri ∈ outline.uri, uri.toList = chars := by
    simpa using member
  exact held uri given

/-- The lines of the objects are readable. -/
theorem objectsText_readable : IsReadable (objectsText outline.objects) := by
  have lines : ∀ o ∈ outline.objects, IsReadable o.line :=
    fun o member => (outline.objects_sound o member).line_readable
  have opening : IsReadable (startTagText "Objects".toList []) :=
    startTagText_readable (by decide) (List.forall_mem_nil _)
  have closing : IsReadable ("\n  ".toList ++ endTagText "Objects".toList) :=
    .append (by decide) (endTagText_readable (by decide))
  -- The line ends between the objects stand before each line but the first.
  have joined : IsReadable (['\n'].intercalate (outline.objects.map ChildObject.line)) := by
    intro c member
    cases listed : outline.objects with
    | nil => simp [listed] at member
    | cons o objects =>
      have among : c ∈ '\n' :: ['\n'].intercalate (outline.objects.map ChildObject.line) :=
        List.mem_cons_of_mem _ member
      rw [cons_intercalate (by simp [listed])] at among
      obtain ⟨line, written, within⟩ := List.mem_flatMap.mp among
      obtain ⟨declared, present, rfl⟩ := List.mem_map.mp written
      exact (lines declared present).cons (by decide) c within
  have start : IsReadable "\n  ".toList := by decide
  exact start.append (opening.append ((joined.append closing).cons (by decide)))

/-- What the versions of the file say is readable. -/
theorem data_readable : IsReadable outline.header.data := by
  refine Header.data_forall outline.header_sound (fun c number => ?_) (by decide)
  rw [Bool.or_eq_true, beq_iff_eq] at number
  rcases number with digit | rfl
  · obtain ⟨least, most⟩ := Text.isDigit_range digit
    exact isDocumentChar_between (by omega) (by omega)
  · decide

/-- The file is readable. -/
theorem chars_readable : IsReadable outline.chars :=
  documentText_readable (Header.data_isInstruction outline.header_sound) outline.data_readable
    (isWideName_readable outline.rootType_name) (outline.forall_namespaces outline.uri_readable)
    outline.objectsText_readable

/-- The root element of the file has the type of the file and nothing in it but one list, which
declares its objects. -/
theorem makes_root (known : isName outline.rootType.toList = true) (source : Source) :
    ∃ root, Makes source outline.rootType.toList
      (outline.uri.map String.toList) (objectsText outline.objects) root ∧
    root.name = outline.rootType ∧ declaredObjects root = .ok outline.objects ∧
      ∀ name, name ≠ "Objects" → root.childrenNamed name = [] := by
  let uri := outline.uri.map String.toList
  let opened : OpenElement := ⟨outline.rootType.toList,
    (rootOpening outline.rootType.toList uri).tag, [], [], [], outerScope⟩
  have undeclared : (⟨source, {}⟩ : ContentContext).declarations.attributes = [] := rfl
  obtain ⟨pieces, text, takes⟩ : ∃ pieces text, Takes ⟨source, {}⟩ documentFrame
      (objectsText outline.objects) ⟨[opened], rootScope uri, 0⟩ _ :=
    takes_objects undeclared outline.objects opened
  -- The root is the element that the list fills; it has that list and no other child.
  refine ⟨_, ⟨_, _, _, rfl, rfl, takes⟩, ?_, ?_⟩
  · have unbraced : '\x7d' ∉ outline.rootType.toList := isName_notMem known (by decide)
    have named := localName_fullName ((rootScope uri).namespace? []) unbraced
    rw [String.ofList_toList] at named
    exact named
  · let list : Element := ⟨fullName ((rootScope uri).namespace? []) "Objects".toList, [], text,
      outline.objects.map (ChildObject.element ((rootScope uri).namespace? []))⟩
    have listed : list.name = "Objects" := localName_fullName _ (by decide)
    -- Where a name is asked for, the list answers to its own only.
    have only (e : OpenElement) (childless : e.reversedChildren = [list]) (name : String) :
        (e.addText ['\n']).close.childrenNamed name = if name = "Objects" then [list] else [] := by
      have children : (e.addText ['\n']).close.children = [list] := by
        simp [OpenElement.addText, OpenElement.close, Element.children, childless]
      rw [Element.childrenNamed, children]
      by_cases same : name = "Objects"
      · simp [listed, same]
      · simp [listed, same, Ne.symm same]
    refine ⟨?_, fun name other => (only _ rfl name).trans (if_neg other)⟩
    rw [declaredObjects, only _ rfl, if_pos rfl]
    exact ChildObject.readObjects_elements _ outline.objects_sound 0

/-- A written package file is read as what it declares, with no other section. -/
theorem read_text (supported : outline.IsSupported) : ∃ root,
    PackageDocument.read (Source.ofText outline.text) =
        .ok ⟨outline.rootType, outline.objects, outline.header, root⟩ ∧
      ∀ name, name ≠ "Objects" → root.childrenNamed name = [] := by
  -- The texts around the root element are proper, and the content makes the root element.
  have instruction := Header.data_isInstruction outline.header_sound
  have written : outline.text.toList = outline.chars := by rw [text, String.toList_ofList]
  have sound : ∀ uri ∈ outline.uri.map String.toList, IsNamespace uri ∧ IsReadable uri :=
    outline.forall_namespaces fun uri given =>
      ⟨supported.namespaced uri given, outline.uri_readable uri given⟩
  obtain ⟨root, makes, named, declared, only⟩ :=
    outline.makes_root supported.named (Source.ofText outline.text)
  have read := documentRead_ofText instruction outline.data_readable supported.named sound
    outline.objectsText_readable written makes
  refine ⟨root, ?_, only⟩
  simp only [PackageDocument.read, MarkedUp.read, read,
    Header.headerText_written outline.header_sound, declared, named]

/-- A package with a plain object and a reference that has markup and a line end in its name. -/
def sample : PackageOutline where
  rootType := "Package"
  uri := some "urn:as"
  header := ⟨some "4.12", some "4.9", none⟩
  objects :=
    [⟨"Task", "Main", some "\"Main\"", false, some "C"⟩, ⟨"File", "\\A<B>\n&C.h", none, true, none⟩]
  rootType_name := by decide
  uri_readable := by
    rintro text ⟨⟩
    decide
  header_sound := ⟨by rintro v ⟨⟩; decide, by rintro v ⟨⟩; decide, by rintro v ⟨⟩⟩
  -- The objects have all their texts, and those of the second one must be escaped.
  objects_sound := by
    refine List.forall_mem_cons.mpr ⟨?_, List.forall_mem_singleton.mpr ?_⟩
    · exact ⟨by decide, by decide, by decide, by decide, by decide, by decide, by decide,
        by rintro text ⟨⟩; decide, by rintro text ⟨⟩; decide⟩
    · exact ⟨by decide, by decide, by decide, by decide, by decide, by decide, by decide,
        by rintro text ⟨⟩, by rintro text ⟨⟩⟩

/-- The root element of that package is one that is read. -/
theorem sample_isSupported : sample.IsSupported where
  named := by decide
  namespaced := by
    rintro text ⟨⟩
    exact ⟨by decide, by decide, by decide⟩

end PackageOutline

end AutomationIndex
