import AutomationIndex.Settings.Coercion

/-! Checking settings: every setting is looked at, and all complaints are told. -/

namespace AutomationIndex.Settings

/-- A step from a value to one of its parts. -/
inductive Step where
  | key (name : String)
  | index (position : Nat)
  deriving DecidableEq, Repr

/-- An objection to the value at a place. -/
structure Complaint where
  place : List Step
  objection : Objection
  deriving DecidableEq, Repr

/-- What was checked, or all complaints about it. -/
abbrev Checked := Except (List Complaint)

/-- A complaint about a part as one about the whole. -/
def Complaint.under (step : Step) (complaint : Complaint) : Complaint :=
  { complaint with place := step :: complaint.place }

/-- The complaints of a check. -/
def complaintsOf {α : Type} : Checked α → List Complaint
  | .ok _ => []
  | .error complaints => complaints

/-- An objection as the only complaint. -/
def checked {α : Type} (result : Except Objection α) : Checked α :=
  result.mapError fun objection => [⟨[], objection⟩]

/-- Checks the value of a key; a setting that is missing keeps its default. -/
def checkField {α : Type} (fields : List (String × Json)) (name : String) (default : α)
    (check : Json → Checked α) : Checked α :=
  -- A setting that is absent takes its default unchecked; a complaint is put under the name of the
  -- setting.
  match Json.lookup name fields with
  | none => .ok default
  | some value => (check value).mapError fun complaints => complaints.map (·.under (.key name))

/-- Complaints about the keys that are not known, in order. -/
def unknownKeys (known : List String) (fields : List (String × Json)) : List Complaint :=
  (fields.filter fun field => !known.contains field.1).map fun field =>
    ⟨[.key field.1], .unknownKey⟩

/-- Checks texts from a position of a list on. -/
def checkTextsFrom : Nat → List Json → Checked (List String)
  | _, [] => .ok []
  | position, item :: items =>
    match textOf item, checkTextsFrom (position + 1) items with
    | .ok text, .ok texts => .ok (text :: texts)
    -- One wrong item spoils the list, and the others are still looked at.
    | .ok _, .error complaints => .error complaints
    | .error objection, others =>
      .error (⟨[.index position], objection⟩ :: complaintsOf others)

/-- Checks a list of texts. -/
def checkTexts : Json → Checked (List String)
  | .list items => checkTextsFrom 0 items
  | _ => .error [⟨[], .notList⟩]

/-- Checks the settings for searching. -/
def checkScan : Json → Checked ScanSettings
  | .object fields =>
    let pattern := checkField fields "project_file_pattern" ⟨"*.apj", by decide⟩
      fun value => checked (namePatternOf value)
    let ignored := checkField fields "ignore_patterns" [] checkTexts
    let output := checkField fields "project_output_dirs" ["Temp", "Binaries", "Diagnosis"]
      checkTexts
    let gitignore := checkField fields "respect_gitignore" true fun value => checked (flagOf value)
    let workers := checkField fields "max_workers" ⟨8, by decide⟩
      fun value => checked (workersOf value)
    let unknown := unknownKeys ["project_file_pattern", "ignore_patterns", "project_output_dirs",
      "respect_gitignore", "max_workers"] fields
    -- Complaints come in the order of the settings, and unknown keys after them.
    match pattern, ignored, output, gitignore, workers, unknown with
    | .ok pattern, .ok ignored, .ok output, .ok gitignore, .ok workers, [] =>
      .ok ⟨pattern.1, ignored, output, gitignore, workers.1, pattern.2, workers.2⟩
    | _, _, _, _, _, _ =>
      .error (complaintsOf pattern ++ complaintsOf ignored ++ complaintsOf output ++
        complaintsOf gitignore ++ complaintsOf workers ++ unknown)
  | _ => .error [⟨[], .notSection "ScanConfig"⟩]

/-- Checks the settings for build information. -/
def checkBuild : Json → Checked Bool
  | .object fields =>
    let dedupe := checkField fields "dedupe_adjacent_include_dirs" true
      fun value => checked (flagOf value)
    match dedupe, unknownKeys ["dedupe_adjacent_include_dirs"] fields with
    -- The complaints about the values come before those about the unknown names.
    | .ok dedupe, [] => .ok dedupe
    | _, unknown => .error (complaintsOf dedupe ++ unknown)
  | _ => .error [⟨[], .notSection "BuildConfig"⟩]

/-- Checks settings; keys that are not known are passed over at the top. -/
def check (fields : List (String × Json)) : Checked Settings :=
  let scan := checkField fields "scan" {} checkScan
  let build := checkField fields "build" true checkBuild
  let level := checkField fields "log_level" .warning fun value => checked (logLevelOf value)
  -- Every section is checked before any complaint is told, so all of them are told at once.
  match scan, build, level with
  | .ok scan, .ok build, .ok level => .ok ⟨scan, build, level⟩
  | _, _, _ => .error (complaintsOf scan ++ complaintsOf build ++ complaintsOf level)

/-- The heading over complaints. -/
def heading (complaints : List Complaint) : String :=
  match complaints with
  | [_] => "1 validation error for IndexerConfig"
  | complaints => toString complaints.length ++ " validation errors for IndexerConfig"

end AutomationIndex.Settings
