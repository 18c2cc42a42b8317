import AutomationIndex.Json.Basic
import AutomationIndex.Log

/-! The settings of an index: how projects are found, and how what is known of them is told. -/

namespace AutomationIndex

/-- Whether a text can match the name of a file: it is not empty and has no separators. -/
def isNamePattern (text : String) : Bool :=
  !text.toList.isEmpty && text.toList.all fun c => c != '/' && c != '\\'

/-- The pattern for files that describe projects can match the name of a file. -/
theorem isNamePattern_standard : isNamePattern "*.apj" = true := by decide

/-- The usual number of workers is within the bounds. -/
theorem workers_standard : 1 ≤ 8 ∧ 8 ≤ 64 := by decide

/-- How projects are found. -/
structure ScanSettings where
  /-- Which files describe projects. -/
  projectFilePattern : String := "*.apj"
  /-- What a search leaves out, by patterns. -/
  ignorePatterns : List String := []
  /-- Directories of built files, which a search leaves out beside a project's descriptor. -/
  outputDirectories : List String := ["Temp", "Binaries", "Diagnosis"]
  /-- Whether the ignore file of a searched directory counts. -/
  respectGitignore : Bool := true
  /-- How many projects may be read at a time. -/
  maxWorkers : Nat := 8
  pattern_isName : isNamePattern projectFilePattern = true := by
    first | exact isNamePattern_standard | decide
  workers_bounded : 1 ≤ maxWorkers ∧ maxWorkers ≤ 64 := by
    first | exact workers_standard | decide
  deriving DecidableEq, Repr

/-- The settings of an index. -/
structure Settings where
  scan : ScanSettings := {}
  /-- Whether an include directory that repeats the one before it is left out. -/
  dedupeIncludeDirectories : Bool := true
  logLevel : LogLevel := .warning
  deriving DecidableEq, Repr

/-- The settings for searching as a value. -/
def ScanSettings.toJson (scan : ScanSettings) : Json :=
  .object [("project_file_pattern", .text scan.projectFilePattern),
    ("ignore_patterns", .texts scan.ignorePatterns),
    ("project_output_dirs", .texts scan.outputDirectories),
    ("respect_gitignore", .bool scan.respectGitignore), ("max_workers", .int scan.maxWorkers)]

/-- Settings as a value. -/
def Settings.toJson (settings : Settings) : Json :=
  .object [("scan", settings.scan.toJson),
    ("build", .object [("dedupe_adjacent_include_dirs", .bool settings.dedupeIncludeDirectories)]),
    ("log_level", .text settings.logLevel.name)]

end AutomationIndex
