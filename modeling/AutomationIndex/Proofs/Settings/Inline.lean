import AutomationIndex.Proofs.Scan.Complete
import AutomationIndex.Proofs.Settings.Opening
import AutomationIndex.Proofs.Text.Encoding

/-! Settings as a text and the same text in a file. -/

namespace AutomationIndex.Settings

/-- The first character of a text that is not blank. -/
def firstMark? (text : String) : Option Char :=
  (text.toList.dropWhile Text.isBlank).head?

/-- Whether a source is the path of a file, as such or as a text that is no settings. -/
inductive Source.IsPathOf (l : Location) : Source → Prop where
  | path : IsPathOf l (.path l)
  | text {spelling : String} (plain : isInline spelling = false)
      (spelled : Location.posix spelling = l) : IsPathOf l (.text spelling)

/-- Whether two answers are the same but for the place of a fault in a JSON text, which each counts
in its own writing of the text. -/
inductive SameBesidesPlace (chars : List Char) :
    Except SourceFault Settings → Except SourceFault Settings → Prop where
  | same (answer : Except SourceFault Settings) : SameBesidesPlace chars answer answer
  | refused (cause : Json.Cause) {left : List Char} (within : left <:+ chars) :
      SameBesidesPlace chars
        (.error (.syntaxFault .json (Json.Fault.message chars ⟨cause, left.length⟩)))
        (.error (.syntaxFault .json (Json.Fault.message (Text.unifyLineEnds chars)
          ⟨cause, (Text.unifyLineEnds left).length⟩)))

variable {disk : Disk} {l : Location} {text : String} {source : Source} {format : Format}
  {fields : List (String × Json)}

/-- A bracket is opened by a brace or a square one. -/
theorem opensBracket_iff :
    opensBracket text = true ↔ firstMark? text = some '{' ∨ firstMark? text = some '[' := by
  unfold opensBracket firstMark?
  cases text.toList.dropWhile Text.isBlank <;> simp

/-- A text that opens a bracket is settings. -/
theorem isInline_of_opensBracket (opens : opensBracket text = true) : isInline text = true := by
  simp [isInline, opens]

/-- Settings as a text are in the format that it seems to be in. -/
theorem load_text (inline : isInline text = true) :
    load disk (.text text) = ofText (guessFormat text) text := by
  rw [load, if_pos inline]

/-- The settings in a file are in the format that its suffix tells, with unified line ends. -/
theorem load_file (told : formatOfSuffix? l = some format)
    (held : disk.bytesOf l = .ok text.toUTF8.toList) (named : source.IsPathOf l) :
    load disk source = ofText format (String.ofList (Text.unifyLineEnds text.toList)) := by
  -- A file that can be read is there, so neither kind of source takes the inline path.
  have isFile : disk.isFile l = .ok true := by
    unfold Disk.bytesOf at held
    split at held
    · cases held
    · next located => exact Disk.isFile_true_iff.mpr ⟨_, _, located⟩
    · cases held
  -- A path and a text that spells one open the same file.
  have opened : load disk source = ofFile disk l := by
    cases named with
    | path => simp only [load, ofFileOrText, isFile]
    | text plain spelled =>
      subst spelled
      simp only [load, plain, Bool.false_eq_true, if_false, ofFileOrText, isFile]
  rw [opened, ofFile, held]
  simp only [Disk.plainText_toUTF8, told]
  rfl

/-- Fields in a JSON text begin with a brace. -/
theorem firstMark?_of_json (read : fieldsOf .json text = .ok fields) :
    firstMark? text = some '{' := by
  -- The blanks of the format are among the blanks that are skipped before the first mark.
  have blank : ∀ c, Text.isSpace c = true → Text.isBlank c = true := by
    intro c space
    simp only [Text.isSpace, Bool.or_eq_true, beq_iff_eq] at space
    obtain ((rfl | rfl) | rfl) | rfl := space <;> rfl
  have object : Json.read text.toList = .ok (.object fields) := by
    unfold fieldsOf at read
    dsimp only at read
    split at read
    · next found =>
      cases read
      exact found
    all_goals cases read
  -- An accepted text reads as an object, and that begins with a brace.
  obtain ⟨after, opens⟩ := Json.read_object object
  rw [firstMark?, ← dropWhile_dropWhile_of_imp blank, ← Json.skipSpace, opens]
  rfl

/-- A text that gives no fields is refused, but not with complaints about fields. -/
theorem fieldsOf_error {fault : SourceFault} (refused : fieldsOf format text = .error fault)
    (told : List Complaint) : fault ≠ .complaints told := by
  unfold fieldsOf at refused
  split at refused <;> split at refused <;> cases refused <;> simp

/-- A text that begins with a square bracket is refused as JSON. -/
theorem fieldsOf_json_refused (square : firstMark? text = some '[') :
    ∃ fault, fieldsOf .json text = .error fault := by
  cases read : fieldsOf .json text with
  | error fault => exact ⟨fault, rfl⟩
  | ok fields =>
    rw [firstMark?_of_json read] at square
    cases square

/-- Fields are refused with complaints only. -/
theorem ofFields_ne_error {fault : SourceFault} (other : ∀ told, fault ≠ .complaints told) :
    ofFields fields ≠ .error fault := by
  unfold ofFields
  cases check fields with
  | ok settings => simp [Except.mapError]
  | error told => simpa [Except.mapError] using (other told).symm

/-- A TOML document that opens a bracket opens a square one. -/
theorem firstMark?_of_toml (kept : '\r' ∉ text.toList) (read : Toml.read text = .ok fields)
    (opens : opensBracket text = true) : firstMark? text = some '[' := by
  refine (opensBracket_iff.mp opens).resolve_left fun brace => ?_
  have begins := Toml.read_begins kept read brace
  revert begins
  decide

/-- A JSON text gives the same with unified line ends, but for the places of faults. -/
theorem ofText_json_unified (text : String) :
    SameBesidesPlace text.toList (ofText .json text)
      (ofText .json (String.ofList (Text.unifyLineEnds text.toList))) := by
  unfold ofText fieldsOf
  dsimp only
  rw [String.toList_ofList]
  -- Unifying line ends changes no value, and a refusal only in the place it names.
  obtain ⟨value, read, read'⟩ | ⟨cause, left, within, read, read'⟩ :=
    Json.read_unifyLineEnds text.toList
  · rw [read, read']
    cases value <;> exact .same _
  · rw [read, read']
    cases cause <;> first | exact .refused _ within | exact .same _

/-- Settings as a text and in a file with that text: in TOML they mean the same unless the text
opens a bracket, for which it is taken for JSON and refused; in JSON they mean the same, and where
line ends are unified in the file, faults are told at the place that they have there. -/
theorem inline_compared (held : disk.bytesOf l = .ok text.toUTF8.toList)
    (named : source.IsPathOf l) :
    (formatOfSuffix? l = some .toml → '\r' ∉ text.toList →
      '\n' ∈ text.toList ∨ '=' ∈ text.toList →
        (opensBracket text = false → load disk (.text text) = load disk source) ∧
        ∀ fields, Toml.read text = .ok fields →
          load disk source = ofFields fields ∧
          (opensBracket text = true → firstMark? text = some '[' ∧
            ∃ fault, load disk (.text text) = .error fault ∧ load disk source ≠ .error fault)) ∧
    (formatOfSuffix? l = some .json → firstMark? text = some '{' →
      SameBesidesPlace text.toList (load disk (.text text)) (load disk source) ∧
      ('\r' ∉ text.toList → load disk (.text text) = load disk source)) := by
  constructor
  · intro toml kept lines
    -- A line end or an equals sign keeps the text from being looked for as a file.
    have inline : isInline text = true := by
      rw [isInline, Bool.or_eq_true, Bool.or_eq_true, List.contains_iff_mem, List.contains_iff_mem]
      exact .inl lines
    have inFile := load_file toml held named
    rw [Text.unifyLineEnds_eq_self kept, String.ofList_toList] at inFile
    rw [load_text inline, inFile]
    refine ⟨fun plain => ?_, fun fields read => ?_⟩
    · rw [guessFormat, plain]
      rfl
    have whole : ofText .toml text = ofFields fields := by
      rw [ofText, fieldsOf, read]
      rfl
    refine ⟨whole, fun opens => ?_⟩
    -- A TOML document never opens a brace, so the bracket that sends it to the JSON reader is
    -- square.
    have square := firstMark?_of_toml kept read opens
    obtain ⟨fault, refused⟩ := fieldsOf_json_refused square
    refine ⟨square, fault, ?_, ?_⟩
    · rw [guessFormat, if_pos opens, ofText, refused]
      rfl
    · -- The fields that the file gives can only be complained about.
      rw [whole]
      exact ofFields_ne_error fun told => fieldsOf_error refused told
  · intro json brace
    -- A brace settles the format of the text, and the suffix that of the file.
    have opens := opensBracket_iff.mpr (.inl brace)
    rw [load_text (isInline_of_opensBracket opens), load_file json held named, guessFormat,
      if_pos opens]
    refine ⟨ofText_json_unified text, fun kept => ?_⟩
    rw [Text.unifyLineEnds_eq_self kept, String.ofList_toList]

/-- A TOML text that begins with a table. -/
def tableText : String :=
  "[scan]\nmax_workers = 3\n"

/-- A TOML text that begins with a comment. -/
def commentedText : String :=
  "# workers\n" ++ tableText

/-- A JSON text that begins with a line end of two characters. -/
def objectText : String :=
  "\r\n\x7b\"scan\": \x7b\"max_workers\": 3\x7d\x7d"

/-- The three texts in files. -/
def textsDisk : Disk where
  root := .directory [("commented.toml", .file commentedText.toUTF8.toList),
    ("object.json", .file objectText.toUTF8.toList), ("table.toml", .file tableText.toUTF8.toList)]
  working := []

/-- A text that begins with a table is refused, though the file with it gives settings. -/
theorem bracket_refused_textsDisk :
    load textsDisk (.text tableText) =
        .error (.syntaxFault .json "Expecting value: line 1 column 2 (char 1)") ∧
      load textsDisk (.path (Disk.locationOf ["table.toml"])) =
        .ok { scan := { maxWorkers := 3 } } := by
  decide +kernel

/-- A text that begins with a comment means the same in a file, one that begins with a table does
not, and an object does. -/
theorem inline_compared_textsDisk :
    load textsDisk (.text commentedText) =
        load textsDisk (.path (Disk.locationOf ["commented.toml"])) ∧
      (∃ fault, load textsDisk (.text tableText) = .error fault ∧
        load textsDisk (.path (Disk.locationOf ["table.toml"])) ≠ .error fault) ∧
      SameBesidesPlace objectText.toList (load textsDisk (.text objectText))
        (load textsDisk (.path (Disk.locationOf ["object.json"]))) := by
  have commented : textsDisk.bytesOf (Disk.locationOf ["commented.toml"]) =
      .ok commentedText.toUTF8.toList := by decide +kernel
  have table : textsDisk.bytesOf (Disk.locationOf ["table.toml"]) =
      .ok tableText.toUTF8.toList := by decide +kernel
  have object : textsDisk.bytesOf (Disk.locationOf ["object.json"]) =
      .ok objectText.toUTF8.toList := by decide +kernel
  have document : (Toml.read tableText).isOk = true := by decide +kernel
  -- The three texts are the three outcomes: the same, refused only inline, and the same but the
  -- place.
  refine ⟨?_, ?_, ?_⟩
  · exact ((inline_compared commented .path).1 (by decide +kernel) (by decide +kernel)
      (by decide +kernel)).1 (by decide +kernel)
  · cases read : Toml.read tableText with
    | error fault =>
      rw [read] at document
      cases document
    | ok fields =>
      exact (((inline_compared table .path).1 (by decide +kernel) (by decide +kernel)
        (by decide +kernel)).2 fields read).2 (by decide +kernel) |>.2
  · exact ((inline_compared object .path).2 (by decide +kernel) (by decide +kernel)).1

end AutomationIndex.Settings
