import AutomationIndex.Proofs.Package.Acceptance
import AutomationIndex.Proofs.Package.Written

/-! What is recovered from written package files, and which of them are refused. -/

namespace AutomationIndex.PackageOutline

open Xml

variable (outline : PackageOutline) {after : List Text.Point} {rest : List Char} {content : String}

/-- A content that is taken in and begins with the file is the file and further characters. -/
theorem exists_rest (taken : intake (Text.pointsOf outline.text ++ after) = .ok content) :
    ∃ rest, after = rest.map Text.Point.char ∧ content.toList = outline.chars ++ rest := by
  obtain ⟨whole, -⟩ := intake_ok_iff.mp taken
  obtain ⟨chars, rest, parted, first, second⟩ := List.map_eq_append_iff.mp whole.symm
  -- Code points that are characters are the same only for the same characters.
  have same : chars = outline.text.toList :=
    List.map_injective_iff.mpr (fun _ _ => Text.Point.char.inj) first
  exact ⟨rest, second.symm, by rw [parted, same, text, String.toList_ofList]⟩

/-- The source of such a content has the file and what is readable of the further characters. -/
theorem source_chars (written : content.toList = outline.chars ++ rest) :
    (Source.ofText content).mark = [] ∧
      (Source.ofText content).chars = outline.chars ++ rest.takeWhile isDocumentChar := by
  obtain ⟨more, begins⟩ : ∃ more, outline.chars = '<' :: '?' :: more := ⟨_, rfl⟩
  obtain ⟨unmarked, chars, -⟩ := ofText_instruction (more ++ rest)
  have same : String.ofList ('<' :: '?' :: (more ++ rest)) = content := by
    rw [← String.toList_inj, String.toList_ofList, written, begins]
    rfl
  -- The file is readable, so reading stops no earlier than after it.
  have cut : ('<' :: '?' :: (more ++ rest)).takeWhile isDocumentChar =
      outline.chars ++ rest.takeWhile isDocumentChar := by
    rw [← List.cons_append, ← List.cons_append, ← begins,
      List.takeWhile_append_of_pos outline.chars_readable]
  rw [same] at unmarked chars
  exact ⟨unmarked, chars.trans cut⟩

/-- A bracket and a character of a document behind the file are part of the source. -/
theorem source_chars_bracket {c : Char} (kept : isDocumentChar c = true)
    (written : content.toList = outline.chars ++ '<' :: c :: rest) :
    (Source.ofText content).mark = [] ∧
      (Source.ofText content).chars =
        outline.chars ++ '<' :: c :: rest.takeWhile isDocumentChar := by
  have bracket : isDocumentChar '<' = true := by decide
  obtain ⟨unmarked, chars⟩ := outline.source_chars written
  rw [List.takeWhile_cons_of_pos bracket, List.takeWhile_cons_of_pos kept] at chars
  exact ⟨unmarked, chars⟩

/-- A fault in front of the last characters of a source is where the others end. -/
theorem locate_before {source : Source} (unmarked : source.mark = []) {before last : List Char}
    (written : source.chars = before ++ last) (cause : Cause) :
    source.locate ⟨cause, last.length⟩ = ⟨cause, Place.after before⟩ := by
  rw [Source.locate, Fault.locate, unmarked, written]
  simp

/-- A package file is refused where its markup is. -/
theorem read_refused {source : Source} {fault : Fault}
    (refused : Document.read source = .error fault) :
    PackageDocument.read source = .error (.markup (source.locate fault)) := by
  simp only [PackageDocument.read, MarkedUp.read, refused]

/-- A written file that another element follows is refused where that element begins. -/
theorem read_followed (supported : outline.IsSupported) {c : Char}
    (first : isWideNameStart c = true)
    (written : content.toList = outline.chars ++ '<' :: c :: rest) :
    PackageDocument.read (Source.ofText content) =
      .error (.markup ⟨.junkAfterElement, Place.after outline.chars⟩) := by
  -- The first character of a name belongs to a document, so the reader meets it before anything
  -- else.
  have kept : isDocumentChar c = true :=
    isDocumentChar_wideNameChar (by simp [isWideNameChar, first])
  obtain ⟨unmarked, chars⟩ := outline.source_chars_bracket kept written
  obtain ⟨root, makes, -⟩ := outline.makes_root supported.named (Source.ofText content)
  have refused := documentRead_followed (Header.data_isInstruction outline.header_sound)
    supported.named (outline.forall_namespaces supported.namespaced) makes first chars
  rw [read_refused refused, locate_before unmarked chars]

/-- A written file that a bracket and a colon follow is refused at the colon. -/
theorem read_colon (supported : outline.IsSupported)
    (written : content.toList = outline.chars ++ '<' :: ':' :: rest) :
    PackageDocument.read (Source.ofText content) =
      .error (.markup ⟨.invalidToken, Place.after (outline.chars ++ ['<'])⟩) := by
  have colon : isDocumentChar ':' = true := by decide
  obtain ⟨unmarked, chars⟩ := outline.source_chars_bracket colon written
  obtain ⟨root, makes, -⟩ := outline.makes_root supported.named (Source.ofText content)
  have refused := documentRead_colon (Header.data_isInstruction outline.header_sound)
    supported.named (outline.forall_namespaces supported.namespaced) makes chars
  -- The fault lies behind the bracket.
  rw [List.append_cons] at chars
  rw [read_refused refused, locate_before unmarked chars]

/-- A written file with any other root element is refused, whatever follows it, for its name or its
namespace. -/
theorem read_unsupported (unsupported : ¬ outline.IsSupported)
    (written : content.toList = outline.chars ++ rest) :
    ∃ cause ∈ [Cause.invalidToken, Cause.syntaxError, Cause.reservedNamespace], ∃ place,
      PackageDocument.read (Source.ofText content) = .error (.markup ⟨cause, place⟩) := by
  have instruction := Header.data_isInstruction outline.header_sound
  obtain ⟨-, chars⟩ := outline.source_chars written
  -- The name is looked at first, and the namespace of a name that is not read does not matter.
  cases named : isName outline.rootType.toList with
  | false =>
    obtain ⟨left, refused⟩ := readRoot_unknown (Source.ofText content)
      (outline.uri.map String.toList) (objectsText outline.objects)
      ('\n' :: rest.takeWhile isDocumentChar) outline.rootType_name named
    have read := read_refused
      (documentRead_refused instruction outline.rootType_name chars refused)
    exact ⟨.invalidToken, by simp, _, read⟩
  | true =>
    obtain ⟨uri, given, unsound⟩ : ∃ uri ∈ outline.uri, ¬ IsNamespace uri.toList := by
      by_contra sound
      refine unsupported ⟨named, fun uri given => ?_⟩
      by_contra unsound
      exact sound ⟨uri, given, unsound⟩
    obtain ⟨cause, listed, left, refused⟩ := readRoot_undeclarable (Source.ofText content)
      (objectsText outline.objects) ('\n' :: rest.takeWhile isDocumentChar) named unsound
    have declared : outline.uri.map String.toList = some uri.toList := by
      rw [Option.mem_def.mp given, Option.map_some]
    have read := read_refused
      (documentRead_refused instruction outline.rootType_name chars (by rw [declared]; exact refused))
    exact ⟨cause, List.mem_cons_of_mem _ listed, _, read⟩

/-- A written package file that is taken in is read as what it declares, if its root element is one
that is read; where another element follows, it has no single root element. No name begins with a
colon under namespaces, and all other root elements are refused as invalid. -/
theorem read_compared (taken : intake (Text.pointsOf outline.text ++ after) = .ok content) :
    let read := PackageDocument.read (Source.ofText content)
    (outline.IsSupported →
      (after = [] → ∃ root,
        read = .ok ⟨outline.rootType, outline.objects, outline.header, root⟩) ∧
      ∀ c more, after = .char '<' :: .char c :: more →
        (isWideNameStart c = true →
          read = .error (.markup ⟨.junkAfterElement, Place.after outline.chars⟩)) ∧
        (c = ':' →
          read = .error (.markup ⟨.invalidToken, Place.after (outline.chars ++ ['<'])⟩))) ∧
    (¬ outline.IsSupported →
      ∃ cause ∈ [Cause.invalidToken, Cause.syntaxError, Cause.reservedNamespace], ∃ place,
        read = .error (.markup ⟨cause, place⟩)) ∧
    Cause.junkAfterElement.isAboutRoot = true ∧
    ∀ cause ∈ [Cause.invalidToken, Cause.syntaxError, Cause.reservedNamespace],
      cause.isAboutRoot = false := by
  intro read
  obtain ⟨rest, follows, written⟩ := outline.exists_rest taken
  refine ⟨fun supported => ⟨?_, ?_⟩, fun unsupported => outline.read_unsupported unsupported written,
    rfl, by decide⟩
  · rintro rfl
    -- Nothing follows, so the content is the text of the file.
    have alone : content = outline.text := by
      rw [← String.toList_inj, written, List.map_eq_nil_iff.mp follows.symm, List.append_nil, text,
        String.toList_ofList]
    obtain ⟨root, whole, -⟩ := outline.read_text supported
    exact ⟨root, by rw [← whole, ← alone]⟩
  · rintro c more rfl
    obtain ⟨first, others, rfl, bracket, later⟩ := List.map_eq_cons_iff.mp follows.symm
    obtain ⟨second, others, rfl, begun, -⟩ := List.map_eq_cons_iff.mp later
    cases bracket
    cases begun
    refine ⟨fun start => outline.read_followed supported start written, ?_⟩
    rintro rfl
    exact outline.read_colon supported written

/-- A text has at least as many bytes as characters and at most four times as many. -/
theorem utf8ByteSize_bounds (chars : List Char) :
    chars.length ≤ (String.ofList chars).utf8ByteSize ∧
      (String.ofList chars).utf8ByteSize ≤ 4 * chars.length := by
  -- A character takes one byte at least and four at most.
  induction chars with
  | nil => simp
  | cons c chars ih =>
    have parted : String.ofList (c :: chars) = String.singleton c ++ String.ofList chars := by simp
    have least : 0 < (String.singleton c).utf8ByteSize := by simp [Char.utf8Size_pos]
    have most : (String.singleton c).utf8ByteSize ≤ 4 := by simp [Char.utf8Size_le_four]
    rw [parted, String.utf8ByteSize_append, List.length_cons]
    omega

/-- That file, and that file with an element after it. -/
theorem read_compared_sample :
    sample.chars = [
        "<?xml version=\"1.0\" encoding=\"utf-8\"?>\n",
        "<?AutomationStudio Version=4.12 FileVersion=\"4.9\"?>\n",
        "<Package xmlns=\"urn:as\">\n", "  <Objects>\n",
        "    <Object Type=\"Task\" Language=\"C\"",
        " Description=\"&quot;Main&quot;\">Main</Object>\n",
        "    <Object Type=\"File\" Reference=\"true\">", "\\A&lt;B&gt;&#10;&amp;C.h</Object>\n",
        "  </Objects>\n", "</Package>\n"].flatMap String.toList ∧
      (∃ root, PackageDocument.read (Source.ofText sample.text) =
        .ok ⟨"Package", sample.objects, ⟨some "4.12", some "4.9", none⟩, root⟩) ∧
      PackageDocument.read (Source.ofText (sample.text ++ "<Package/>")) =
        .error (.markup ⟨.junkAfterElement, ⟨9, 0⟩⟩) := by
  have place : Place.after sample.chars = ⟨9, 0⟩ := by decide +kernel
  -- The limit is far above the size of the sample, whatever its characters take.
  have size : sample.text.utf8ByteSize ≤ 4 * 400 := by
    have few : sample.chars.length ≤ 400 := by decide +kernel
    exact (utf8ByteSize_bounds sample.chars).2.trans (Nat.mul_le_mul_left 4 few)
  have alone : intake (Text.pointsOf sample.text ++ []) = .ok sample.text :=
    intake_ok_iff.mpr ⟨List.append_nil _, size.trans (by decide)⟩
  have followed : intake (Text.pointsOf sample.text ++ Text.pointsOf "<Package/>") =
      .ok (sample.text ++ "<Package/>") := by
    have more : "<Package/>".utf8ByteSize = 10 := by decide
    refine intake_ok_iff.mpr ⟨by simp [Text.pointsOf], ?_⟩
    rw [String.utf8ByteSize_append, more, intakeLimit]
    omega
  refine ⟨by decide +kernel, ?_, ?_⟩
  · exact ((sample.read_compared alone).1 sample_isSupported).1 rfl
  · rw [← place]
    have first : isWideNameStart 'P' = true := by decide
    exact (((sample.read_compared followed).1 sample_isSupported).2 'P' _ rfl).1 first

/-- The sample with a name that begins with a letter of the last edition only. -/
def ligated : PackageOutline :=
  { sample with rootType := "\u0132x", rootType_name := by decide }

/-- The sample with a namespace that a name could not be told apart from. -/
def braced : PackageOutline :=
  { sample with uri := some "urn:\x7d", uri_readable := by rintro text ⟨⟩; decide }

/-- The sample with a namespace that is reserved. -/
def reserved : PackageOutline :=
  { sample with uri := some xmlNamespace, uri_readable := by rintro text ⟨⟩; decide }

/-- Not every written file is read as what it declares: some names and namespaces are refused. Nor has
every file that a bracket and a first character of a name follow no single root element: a colon is
no valid first character, and what follows may be what the parser does not take in. -/
theorem read_unrecovered :
    (∀ outline ∈ [ligated, braced, reserved], ∃ cause place,
      PackageDocument.read (Source.ofText outline.text) = .error (.markup ⟨cause, place⟩) ∧
        cause.isAboutRoot = false) ∧
    PackageDocument.read (Source.ofText (sample.text ++ "<:b/>")) =
      .error (.markup ⟨.invalidToken, ⟨9, 1⟩⟩) ∧
    (∃ fault, intake (Text.pointsOf sample.text ++ [.char '<', .char 'b', .half 0]) =
      .error fault) ∧
    intake (Text.pointsOf (sample.text ++ "<b" ++
      String.ofList (List.replicate (intakeLimit + 1) ' '))) = .error .oversized := by
  refine ⟨fun outline listed => ?_, ?_, ?_, ?_⟩
  -- Each of the three outlines misses one condition: on the name, on braces or on reserved
  -- namespaces.
  · have unsupported : ¬ outline.IsSupported := by
      rintro ⟨named, namespaced⟩
      simp only [List.mem_cons, List.not_mem_nil, or_false] at listed
      obtain rfl | rfl | rfl := listed
      · exact absurd named (by decide)
      · exact absurd (namespaced _ rfl).unbraced (by decide)
      · exact (namespaced _ rfl).notXml String.ofList_toList
    -- The outline's text stands alone here, with nothing behind its end.
    have written : outline.text.toList = outline.chars ++ [] := by
      rw [text, String.toList_ofList, List.append_nil]
    obtain ⟨cause, among, place, read⟩ := outline.read_unsupported unsupported written
    have invalid : ∀ cause ∈ [Cause.invalidToken, Cause.syntaxError, Cause.reservedNamespace],
        cause.isAboutRoot = false := by decide
    exact ⟨cause, place, read, invalid cause among⟩
  -- Only under namespaces no name begins with a colon.
  · have place : Place.after (sample.chars ++ ['<']) = ⟨9, 1⟩ := by decide +kernel
    have written : (sample.text ++ "<:b/>").toList =
        sample.chars ++ '<' :: ':' :: "b/>".toList := by
      rw [String.toList_append, text, String.toList_ofList]
      rfl
    rw [← place]
    exact sample.read_colon sample_isSupported written
  · exact intake_error_iff.mpr (.inl ⟨0, by simp⟩)
  -- The blanks alone are more bytes than the intake takes.
  · have bytes := utf8ByteSize_bounds (List.replicate (intakeLimit + 1) ' ')
    have encoded := Text.encode_ok_iff.mpr (rfl : Text.pointsOf (sample.text ++ "<b" ++
      String.ofList (List.replicate (intakeLimit + 1) ' ')) = _)
    rw [List.length_replicate] at bytes
    rw [intake, encoded]
    refine if_pos ?_
    rw [String.utf8ByteSize_append]
    omega

end AutomationIndex.PackageOutline
