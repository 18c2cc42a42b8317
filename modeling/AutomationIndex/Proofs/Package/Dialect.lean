import AutomationIndex.Proofs.Package.Written
import AutomationIndex.Proofs.Text.Case

/-! Which documents declare objects properly, what they declare, and where all others break the
layout of declarations. -/

namespace AutomationIndex

namespace Attribute

/-- Whether a value spells the word that sets a flag, up to the case of letters and to blanks around
it. -/
def SpellsTrue (value : String) : Prop :=
  ∃ before word after, value.toList = before ++ word ++ after ∧
    (∀ c ∈ before, Text.isBlank c = true) ∧ (∀ c ∈ after, Text.isBlank c = true) ∧
    List.Forall₂ (fun c letter => c = letter ∨ c = letter.toUpper) word Text.trueLetters

/-- A value becomes the word, stripped and in small letters, exactly if it spells the word. -/
theorem spellsTrue_iff {value : String} :
    Text.toSmall (Text.strip value) = "true" ↔ SpellsTrue value := by
  rw [Text.toSmall_true_iff, Text.strip, String.toList_ofList]
  constructor
  · intro spelled
    obtain ⟨before, after, split, first, last⟩ := Text.stripChars_split value.toList
    exact ⟨before, _, after, split, first, last, spelled⟩
  · rintro ⟨before, word, after, split, first, last, spelled⟩
    -- No letter of the word is blank, so only what is around it is stripped.
    have visible := Text.visible_of_trueLetters spelled fun _ => id
    rwa [split, Text.stripChars_of_visible first visible last]

/-- A flag is set exactly if its value is there and spells the word. -/
theorem flag_iff {value : Option String} :
    flag value = true ↔ ∃ text, value = some text ∧ SpellsTrue text := by
  cases value with
  | none => simp [flag, flag?]
  | some text =>
    -- A value that spells something else sets no flag.
    simp only [Option.some.injEq, exists_eq_left', ← spellsTrue_iff, flag, flag?, Option.map_some]
    split <;> simp_all

/-- What is there and not empty. -/
theorem nonempty_eq_some_iff {value : Option String} {text : String} :
    nonempty value = some text ↔ value = some text ∧ text ≠ "" := by
  simp [nonempty, Option.filter_eq_some_iff]

end Attribute

namespace Xml.Element

/-- Whether an element is a proper declaration of an object. -/
structure IsDeclaration (element : Element) : Prop where
  named : element.name = "Object"
  childless : element.children = []
  typed : ∃ type, element.attribute? "Type" = some type ∧ type ≠ ""
  visible : ∃ c ∈ element.text.toList, Text.isBlank c = false

/-- Whether an element declares an object: what its attributes and its text say is what the object
has, and what is empty is not there. -/
structure Declares (element : Element) (object : ChildObject) : Prop where
  type_eq : element.attribute? "Type" = some object.type
  name_eq : object.name = Text.strip element.text
  description_iff : ∀ text, object.description = some text ↔
    element.attribute? "Description" = some text ∧ text ≠ ""
  language_iff : ∀ text, object.language = some text ↔
    element.attribute? "Language" = some text ∧ text ≠ ""
  isReference_iff : object.isReference = true ↔
    ∃ text, element.attribute? "Reference" = some text ∧ Attribute.SpellsTrue text

/-- The ways in which an element at a position in the list of objects is no proper declaration. The
first of them that applies counts. -/
inductive Offends (position : Nat) (element : Element) : LayoutFault → Prop where
  | otherName (other : element.name ≠ "Object") :
      Offends position element (.unexpectedElement element.name position)
  | nested (named : element.name = "Object") (inner : element.children ≠ []) :
      Offends position element (.nestedElement position)
  | untyped (named : element.name = "Object") (childless : element.children = [])
      (none : ∀ type, element.attribute? "Type" = some type → type = "") :
      Offends position element (.noType position)
  | unnamed {type : String} (named : element.name = "Object") (childless : element.children = [])
      (typed : element.attribute? "Type" = some type) (some : type ≠ "")
      (blank : ∀ c ∈ element.text.toList, Text.isBlank c = true) :
      Offends position element (.noName type position)

/-- The ways in which a root element breaks the layout of declarations, with the number that is
reported: that of the lists of objects if there are several, and otherwise the position of the first
element in the list that is no proper declaration. -/
inductive Breaks (root : Element) : LayoutFault → Nat → Prop where
  | severalLists (several : 2 ≤ (root.childrenNamed "Objects").length) :
      Breaks root (.severalObjectLists root.name (root.childrenNamed "Objects").length)
        (root.childrenNamed "Objects").length
  | declaration {objects element : Element} {before after : List Element} {fault : LayoutFault}
      (list : root.childrenNamed "Objects" = [objects])
      (parted : objects.children = before ++ element :: after)
      (sound : ∀ other ∈ before, other.IsDeclaration) (offends : Offends before.length element fault) :
      Breaks root fault before.length

/-- Whether a root element keeps to the layout of declarations: it has at most one list of objects,
and this has only proper declarations. -/
structure IsInDialect (root : Element) : Prop where
  single : (root.childrenNamed "Objects").length ≤ 1
  declarations : ∀ objects ∈ root.childrenNamed "Objects", ∀ element ∈ objects.children,
    element.IsDeclaration

variable {element root : Element} {position number : Nat} {fault : LayoutFault}

/-- What offends is no proper declaration. -/
theorem Offends.not_isDeclaration (offends : Offends position element fault) :
    ¬ element.IsDeclaration := by
  rintro ⟨named, childless, ⟨type, typed, some⟩, c, inside, visible⟩
  -- Each way to offend denies one of the four conditions.
  cases offends with
  | otherName other => exact other named
  | nested _ inner => exact inner childless
  | untyped _ _ none => exact some (none type typed)
  | unnamed _ _ _ _ blank => simp [blank c inside] at visible

/-- What breaks the layout does not keep to it. -/
theorem Breaks.not_isInDialect (breaks : Breaks root fault number) : ¬ root.IsInDialect := by
  rintro ⟨single, declarations⟩
  cases breaks with
  | severalLists several => omega
  | @declaration objects element before after _ list parted sound offends =>
    exact offends.not_isDeclaration (declarations objects (by simp [list]) element (by simp [parted]))

end Xml.Element

/-- An element is read as the object that it declares, or is refused for the first way in which it is
no proper declaration. -/
theorem ChildObject.read_cases (position : Nat) (element : Xml.Element) :
    (∃ object, ChildObject.read position element = .ok object ∧ element.IsDeclaration ∧
      element.Declares object) ∨
    ∃ fault, ChildObject.read position element = .error fault ∧ element.Offends position fault := by
  unfold ChildObject.read
  -- The conditions are asked for one after the other, and the first that fails is told.
  split
  · rename_i other
    exact .inr ⟨_, rfl, .otherName (by simpa using other)⟩
  rename_i same
  have named : element.name = "Object" := by simpa using same
  split
  · rename_i inner
    exact .inr ⟨_, rfl, .nested named (by simpa using inner)⟩
  rename_i empty
  have childless : element.children = [] := by simpa using empty
  cases typed : Attribute.nonempty (element.attribute? "Type") with
  | none =>
    refine .inr ⟨_, rfl, .untyped named childless fun type written => ?_⟩
    by_contra some
    simpa [typed] using Attribute.nonempty_eq_some_iff.mpr ⟨written, some⟩
  | some type =>
    obtain ⟨written, some⟩ := Attribute.nonempty_eq_some_iff.mp typed
    dsimp only
    split
    · rename_i none
      have blank := Text.strip_eq_empty_iff.mp (by simpa using none)
      exact .inr ⟨_, rfl, .unnamed named childless written some blank⟩
    · rename_i shown
      have visible : ∃ c ∈ element.text.toList, Text.isBlank c = false := by
        have some : ¬ Text.strip element.text = "" := by simpa using shown
        simpa [Text.strip_eq_empty_iff] using some
      exact .inl ⟨_, rfl, ⟨named, childless, ⟨type, written, some⟩, visible⟩, written, rfl,
        fun _ => Attribute.nonempty_eq_some_iff, fun _ => Attribute.nonempty_eq_some_iff,
        Attribute.flag_iff⟩

/-- The elements of a list are read as the objects that they declare, or the first of them that is no
proper declaration is refused at its position. -/
theorem readObjects_cases (position : Nat) (elements : List Xml.Element) :
    (∃ objects, readObjects position elements = .ok objects ∧
      (∀ element ∈ elements, element.IsDeclaration) ∧
      List.Forall₂ Xml.Element.Declares elements objects) ∨
    ∃ fault before element after, readObjects position elements = .error fault ∧
      elements = before ++ element :: after ∧ (∀ other ∈ before, other.IsDeclaration) ∧
      element.Offends (position + before.length) fault := by
  induction elements generalizing position with
  | nil => exact .inl ⟨[], rfl, List.forall_mem_nil _, .nil⟩
  | cons first rest ih =>
    -- An element is only looked at after those before it have been read.
    rcases ChildObject.read_cases position first with
      ⟨object, read, sound, declares⟩ | ⟨fault, failed, offends⟩
    · rcases ih (position + 1) with ⟨objects, others, proper, rest⟩ |
        ⟨fault, before, element, after, failed, parted, proper, offends⟩
      · refine .inl ⟨object :: objects, ?_, List.forall_mem_cons.mpr ⟨sound, proper⟩,
          .cons declares rest⟩
        simp [readObjects, read, others, bind, Except.bind]
      · refine .inr ⟨fault, first :: before, element, after, ?_, by simp [parted],
          List.forall_mem_cons.mpr ⟨sound, proper⟩, ?_⟩
        · simp [readObjects, read, failed, bind, Except.bind]
        · rwa [List.length_cons, Nat.add_comm before.length, ← Nat.add_assoc]
    · refine .inr ⟨fault, [], first, rest, ?_, rfl, List.forall_mem_nil _, offends⟩
      simp [readObjects, failed, bind, Except.bind]

/-- The objects that a root element declares are read from its only list, or it breaks the layout. -/
theorem declaredObjects_cases (root : Xml.Element) :
    (∃ objects, declaredObjects root = .ok objects ∧ root.IsInDialect ∧
      List.Forall₂ Xml.Element.Declares ((root.childrenNamed "Objects").flatMap (·.children))
        objects) ∨
    ∃ fault number, declaredObjects root = .error fault ∧ root.Breaks fault number := by
  unfold declaredObjects
  -- One case for each number of lists: none, one, or several.
  match lists : root.childrenNamed "Objects" with
  | [] => exact .inl ⟨[], rfl, ⟨by simp [lists], by simp [lists]⟩, .nil⟩
  | [objects] =>
    rcases readObjects_cases 0 objects.children with
      ⟨read, all, proper, declares⟩ | ⟨fault, before, element, after, failed, parted, sound, offends⟩
    · refine .inl ⟨read, all, ⟨by simp [lists], ?_⟩, by simpa using declares⟩
      simpa [lists] using proper
    · rw [Nat.zero_add] at offends
      exact .inr ⟨fault, before.length, failed, .declaration lists parted sound offends⟩
  | first :: second :: others =>
    refine .inr ⟨_, (first :: second :: others).length, rfl, ?_⟩
    rw [← lists]
    exact .severalLists (by simp [lists])

/-- The wording of what breaks the layout has the number that is reported. -/
theorem Xml.Element.Breaks.reported {root : Xml.Element} {fault : LayoutFault} {number : Nat}
    (breaks : root.Breaks fault number) :
    ∃ front back, fault.message = front ++ toString number ++ back := by
  -- Each fault carries one number, and its wording has it in the middle.
  cases breaks with
  | severalLists several =>
    unfold LayoutFault.message
    exact ⟨_, "", (String.append_empty).symm⟩
  | declaration _ _ _ offends =>
    cases offends <;>
    · unfold LayoutFault.message
      exact ⟨_, _, rfl⟩

/-- A well-formed document is read as a package exactly if its root keeps to the layout of
declarations. Then there is one object for each element of the list, in document order, with what the
element declares; otherwise the layout is at fault, and the number of lists is reported if there are
several of them, and else the position of the first element that is no proper declaration. -/
theorem PackageDocument.read_dialect {source : Xml.Source} {document : Xml.Document}
    (parsed : Xml.Document.read source = .ok document) :
    ((∃ package, PackageDocument.read source = .ok package) ↔ document.root.IsInDialect) ∧
    (∀ package, PackageDocument.read source = .ok package →
      package.root = document.root ∧ package.rootType = document.root.name ∧
      List.Forall₂ Xml.Element.Declares
        ((document.root.childrenNamed "Objects").flatMap (·.children)) package.children) ∧
    ∀ fault, PackageDocument.read source = .error fault → ∃ layout number,
      fault = .layout layout ∧ document.root.Breaks layout number ∧
      ∃ front back, fault.message = front ++ toString number ++ back := by
  -- The markup is sound, so only the declarations can be at fault.
  simp only [PackageDocument.read, MarkedUp.read, parsed]
  rcases declaredObjects_cases document.root with
    ⟨objects, read, proper, declares⟩ | ⟨fault, number, failed, breaks⟩
  · simp only [read]
    refine ⟨iff_of_true ⟨_, rfl⟩ proper, ?_, by simp⟩
    rintro _ ⟨⟩
    exact ⟨rfl, rfl, declares⟩
  · simp only [failed]
    refine ⟨iff_of_false (by simp) breaks.not_isInDialect, by simp, ?_⟩
    rintro _ ⟨⟩
    obtain ⟨front, back, wording⟩ := breaks.reported
    exact ⟨fault, number, rfl, breaks, front, back, by rw [ContentFault.message, wording]⟩

/-- A document that is read as a package is well-formed, and has the root of the package. -/
theorem PackageDocument.parsed_of_read {source : Xml.Source} {package : PackageDocument}
    (read : PackageDocument.read source = .ok package) :
    ∃ document, Xml.Document.read source = .ok document ∧ document.root = package.root := by
  -- The markup is read first, and the package keeps the root that it gives.
  unfold PackageDocument.read MarkedUp.read at read
  cases parsed : Xml.Document.read source with
  | error fault => simp [parsed] at read
  | ok document =>
    simp only [parsed] at read
    split at read
    · cases read
    · cases read
      exact ⟨document, rfl, rfl⟩

/-- The two objects of a written package keep to the layout, the second of them as a reference. -/
theorem PackageDocument.read_dialect_sample : ∃ document,
    Xml.Document.read (Xml.Source.ofText PackageOutline.sample.text) = .ok document ∧
      document.root.IsInDialect ∧ List.Forall₂ Xml.Element.Declares
        ((document.root.childrenNamed "Objects").flatMap (·.children))
        [⟨"Task", "Main", some "\"Main\"", false, some "C"⟩,
          ⟨"File", "\\A<B>\n&C.h", none, true, none⟩] := by
  -- The sample reads, so its document parses and each clause of `read_dialect` applies to it.
  obtain ⟨root, read, -⟩ := PackageOutline.sample.read_text PackageOutline.sample_isSupported
  obtain ⟨document, parsed, -⟩ := PackageDocument.parsed_of_read read
  obtain ⟨accepts, declared, -⟩ := PackageDocument.read_dialect parsed
  exact ⟨document, parsed, accepts.mp ⟨_, read⟩, (declared _ read).2.2⟩

end AutomationIndex
