import AutomationIndex.Proofs.Disk.Rewritten
import AutomationIndex.Proofs.Settings.Inline

/-! Settings in a file that is told by its path, and by a text that spells the path. -/

namespace AutomationIndex.Settings

variable {disk : Disk} {l : Location} {spelling text : String} {place : Place} {bytes : List UInt8}

/-- A text is settings by a line end or an equals sign anywhere, or a bracket at its start. -/
theorem isInline_iff :
    isInline spelling = true ↔ '\n' ∈ spelling.toList ∨ '=' ∈ spelling.toList ∨
      firstMark? spelling = some '{' ∨ firstMark? spelling = some '[' := by
  simp only [isInline, Bool.or_eq_true, List.contains_iff_mem, opensBracket_iff, or_assoc]

/-- The path of a file is read as the file. -/
theorem ofFileOrText_file (located : disk.find l = .ok ⟨place, .file bytes⟩) (text : String) :
    ofFileOrText disk l text = ofFile disk l := by
  have isFile : disk.isFile l = .ok true := Disk.isFile_true_iff.mpr ⟨_, _, located⟩
  rw [ofFileOrText, isFile]

/-- A file gives what its text gives in the format that the suffix tells, or the text itself. -/
theorem ofFile_text (held : disk.bytesOf l = .ok text.toUTF8.toList) (kept : '\r' ∉ text.toList) :
    ofFile disk l = ofText ((formatOfSuffix? l).getD (guessFormat text)) text := by
  rw [ofFile, held]
  simp only [Disk.plainText_toUTF8, Text.unifyLineEnds_eq_self kept, String.ofList_toList,
    Except.mapError, Bind.bind, Except.bind]

/-- Whatever a suffix tells, there are texts that give settings in a file and texts that do not. -/
theorem exists_ofText (told : Option Format) :
    (∃ text : String, '\r' ∉ text.toList ∧
      (ofText (told.getD (guessFormat text)) text).isOk = true) ∧
    ∃ text : String, '\r' ∉ text.toList ∧
      (ofText (told.getD (guessFormat text)) text).isOk = false := by
  refine ⟨?_, "[", by decide, ?_⟩
  · -- The empty object is JSON, and the empty text is TOML.
    obtain _ | _ | _ := told
    · exact ⟨"\x7b\x7d", by decide, by decide⟩
    · exact ⟨"\x7b\x7d", by decide, by decide⟩
    · exact ⟨"", by decide, by decide⟩
  · -- A bracket alone is refused in both formats.
    obtain _ | _ | _ := told <;> decide

/-- Whatever an answer is, and whatever a suffix tells, some text in a file gives another one. -/
theorem exists_ofText_ne (told : Option Format) (answer : Except SourceFault Settings) :
    ∃ text : String, '\r' ∉ text.toList ∧
      ofText (told.getD (guessFormat text)) text ≠ answer := by
  -- One text is accepted and another refused, so at least one of them differs from any answer.
  obtain ⟨⟨given, kept, accepted⟩, other, kept', refused⟩ := exists_ofText told
  cases answer with
  | ok settings =>
    refine ⟨other, kept', fun same => ?_⟩
    rw [same] at refused
    cases refused
  | error fault =>
    refine ⟨given, kept, fun same => ?_⟩
    rw [same] at accepted
    cases accepted

/-- A file told by its path, and by a text that spells the path. The path is always read as the
file, and so is the text unless a line end, an equals sign or a bracket at its start mark it as
settings; then it is read itself, whatever the disk holds. So both agree, whatever is written in the
file, exactly if the text has none of these marks. -/
theorem spelled_compared (spelled : Location.posix spelling = l)
    (located : disk.find l = .ok ⟨place, .file bytes⟩) :
    load disk (.path l) = ofFile disk l ∧
    (isInline spelling = false → load disk (.text spelling) = load disk (.path l)) ∧
    (isInline spelling = true →
      ∀ other, load other (.text spelling) = ofText (guessFormat spelling) spelling) ∧
    (isInline spelling = true ↔ '\n' ∈ spelling.toList ∨ '=' ∈ spelling.toList ∨
      firstMark? spelling = some '{' ∨ firstMark? spelling = some '[') ∧
    ((∀ content, load (disk.putAt place (.file content)) (.text spelling) =
        load (disk.putAt place (.file content)) (.path l)) ↔ isInline spelling = false) := by
  have agree : ∀ {disk : Disk} {bytes : List UInt8}, isInline spelling = false →
      disk.find l = .ok ⟨place, .file bytes⟩ →
        load disk (.text spelling) = load disk (.path l) := by
    intro disk bytes plain located
    rw [load, load, plain, spelled, ofFileOrText_file located, ofFileOrText_file located]
    rfl
  refine ⟨ofFileOrText_file located _, fun plain => agree plain located,
    fun inline other => load_text inline, isInline_iff, fun always => ?_, fun plain content =>
      agree plain (Disk.find_rewritten content located)⟩
  by_contra inline
  rw [Bool.not_eq_false] at inline
  -- The text gives one answer, and the file can be written so that it gives another.
  obtain ⟨text, kept, differs⟩ := exists_ofText_ne (formatOfSuffix? l)
    (ofText (guessFormat spelling) spelling)
  have same := always text.toUTF8.toList
  have written := Disk.find_rewritten text.toUTF8.toList located
  rw [load_text inline, load, ofFileOrText_file written,
    ofFile_text (Disk.bytesOf_rewritten _ located) kept] at same
  exact differs same.symm

/-- The text of settings with a level. -/
def levelText : String :=
  "log_level = \"ERROR\"\n"

/-- A file with settings in a directory with an equals sign in its name, and a link to it. -/
def markedDisk : Disk where
  root := .directory [
    ("env=prod", .directory [("cfg.toml", .file levelText.toUTF8.toList)]),
    ("plain.toml", .link "env=prod/cfg.toml")]

/-- A path through the directory is taken for settings as a text, and for the file as a path. By the
link the file is found either way, whatever it holds. -/
theorem spelled_compared_markedDisk :
    (∃ content, load (markedDisk.putAt ["env=prod", "cfg.toml"] (.file content))
        (.text "/env=prod/cfg.toml") ≠
      load (markedDisk.putAt ["env=prod", "cfg.toml"] (.file content))
        (.path (.posix "/env=prod/cfg.toml"))) ∧
    ∀ content, load (markedDisk.putAt ["env=prod", "cfg.toml"] (.file content))
        (.text "/plain.toml") =
      load (markedDisk.putAt ["env=prod", "cfg.toml"] (.file content))
        (.path (.posix "/plain.toml")) := by
  have straight : markedDisk.find (.posix "/env=prod/cfg.toml") =
      .ok ⟨["env=prod", "cfg.toml"], .file levelText.toUTF8.toList⟩ := by rfl
  have linked : markedDisk.find (.posix "/plain.toml") =
      .ok ⟨["env=prod", "cfg.toml"], .file levelText.toUTF8.toList⟩ := by rfl
  -- The marked path is taken for inline text and the plain link to the same file is not.
  obtain ⟨-, -, -, -, marked⟩ := spelled_compared rfl straight
  obtain ⟨-, -, -, -, plain⟩ := spelled_compared rfl linked
  refine ⟨?_, plain.mpr (by decide)⟩
  by_contra never
  push Not at never
  exact absurd (marked.mp never) (by decide)

/-- The path of a file with settings is refused as a text, though the file gives settings. -/
theorem path_refused_markedDisk :
    load markedDisk (.path (.posix "/env=prod/cfg.toml")) = .ok { logLevel := .error } ∧
      load markedDisk (.text "/env=prod/cfg.toml") =
        .error (.syntaxFault .toml "Invalid statement (at line 1, column 1)") := by
  decide +kernel

end AutomationIndex.Settings
