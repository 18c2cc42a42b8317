import AutomationIndex.Proofs.Settings.NormalForm

/-! Which keys of given settings count: an undeclared key inside a part is complained about, and one
beside the parts is passed over without a word. -/

namespace AutomationIndex

/-- The value at the end of a path of keys. -/
def Json.at? : List String → Json → Option Json
  | [], value => some value
  | key :: keys, value => (value.field? key).bind (at? keys)

namespace Settings

open Json (at? lookup)

/-- A part of settings that has keys of its own. -/
inductive Part where
  | scan
  | build
  deriving DecidableEq, Repr

/-- The key of a part. -/
def Part.name : Part → String
  | scan => "scan"
  | build => "build"

/-- The keys that are declared for a part. -/
def Part.keys : Part → List String
  | scan => ["project_file_pattern", "ignore_patterns", "project_output_dirs", "respect_gitignore",
      "max_workers"]
  | build => ["dedupe_adjacent_include_dirs"]

/-- The keys that are declared for settings as a whole. -/
def topKeys : List String :=
  ["scan", "build", "log_level"]

/-- What a value is told as once it has been taken for the setting at a path of keys. -/
inductive Taken : List String → Json → Json → Prop where
  | part (part : Part) (given told : List (String × Json)) :
      Taken [part.name] (.object given) (.object told)
  | pattern (pattern : String) :
      Taken [Part.scan.name, "project_file_pattern"] (.text pattern) (.text pattern)
  | ignored (patterns : List String) :
      Taken [Part.scan.name, "ignore_patterns"] (.texts patterns) (.texts patterns)
  | output (directories : List String) :
      Taken [Part.scan.name, "project_output_dirs"] (.texts directories) (.texts directories)
  | gitignore {value : Json} {flag : Bool} (read : flagOf value = .ok flag) :
      Taken [Part.scan.name, "respect_gitignore"] value (.bool flag)
  | workers {value : Json} {count : Int} (read : integerOf value = .ok count) :
      Taken [Part.scan.name, "max_workers"] value (.int count)
  | dedupe {value : Json} {flag : Bool} (read : flagOf value = .ok flag) :
      Taken [Part.build.name, "dedupe_adjacent_include_dirs"] value (.bool flag)
  | level {value : Json} {level : LogLevel} (read : logLevelOf value = .ok level) :
      Taken ["log_level"] value (.text level.name)

variable {α : Type} {disk : Disk} {fields : List (String × Json)} {name key : String}
  {keys known : List String} {value found : Json} {default taken : α} {read : Json → Checked α}
  {complaint : Complaint} {scan : ScanSettings} {dedupe : Bool} {settings : Settings}

/-- Only an object has values at the ends of paths that go on. -/
theorem at?_of_plain (plain : ∀ fields, value ≠ .object fields)
    (given : at? keys value = some found) : keys = [] ∧ value = found := by
  -- Only an object is entered, so a plain value is reached by the empty path alone.
  cases keys with
  | nil => exact ⟨rfl, Option.some.inj given⟩
  | cons key keys =>
    cases value with
    | object fields => exact absurd rfl (plain fields)
    | _ => cases given

/-- A path into an object begins with one of its keys. -/
theorem at?_cons_object :
    at? (key :: keys) (.object fields) = some found ↔
      ∃ value, lookup key fields = some value ∧ at? keys value = some found := by
  simp [at?, Json.field?, Option.bind_eq_some_iff]

/-- A key that an object has leads to a value. -/
theorem exists_lookup {field : String × Json} (given : field ∈ fields) :
    ∃ value, lookup field.1 fields = some value := by
  have present : (fields.find? fun other => other.1 == field.1).isSome :=
    List.find?_isSome.mpr ⟨field, given, beq_self_eq_true _⟩
  obtain ⟨other, located⟩ := Option.isSome_iff_exists.mp present
  exact ⟨other.2, by rw [lookup, located, Option.map_some]⟩

/-- A key that leads to a value is one of the object's. -/
theorem mem_of_lookup (given : lookup key fields = some value) : (key, value) ∈ fields := by
  obtain ⟨field, located, rfl⟩ := Option.map_eq_some_iff.mp given
  have named : field.1 = key := by simpa using List.find?_some located
  exact named ▸ List.mem_of_find?_eq_some located

/-- Dropping fields of other keys does not change where a key leads. -/
theorem lookup_filter {keep : String × Json → Bool} (kept : ∀ value, keep (key, value) = true) :
    lookup key (fields.filter keep) = lookup key fields := by
  -- What is dropped is not what is looked for.
  have same : ∀ field : String × Json,
      (keep field && field.1 == key) = (field.1 == key) := by
    intro ⟨other, value⟩
    by_cases equal : other = key
    · simp [equal, kept value]
    · simp [equal]
  simp only [lookup, List.find?_filter, ← Bool.and_eq_true, same, Bool.decide_eq_true]

/-- What was taken for a setting that is given is what its value was read as. -/
theorem checkField_ok (accepted : checkField fields name default read = .ok taken)
    (given : lookup name fields = some value) : read value = .ok taken := by
  rw [checkField, given] at accepted
  exact mapError_ok_iff.mp accepted

/-- A path of keys through a setting that is taken from no object ends at the setting. -/
theorem checkField_end (accepted : checkField fields name default read = .ok taken)
    (plain : ∀ fields, read (.object fields) ≠ .ok taken)
    (given : lookup name fields = some value) (onward : at? keys value = some found) :
    keys = [] ∧ value = found ∧ read found = .ok taken := by
  have isTaken := checkField_ok accepted given
  obtain ⟨rfl, rfl⟩ := at?_of_plain (fun fields same => plain fields (same ▸ isTaken)) onward
  exact ⟨rfl, rfl, isTaken⟩

/-- A complaint about the value of a key is one about the whole, at that key. -/
theorem mem_complaintsOf_checkField (default : α) (given : lookup name fields = some value)
    (complained : complaint ∈ complaintsOf (read value)) :
    complaint.under (.key name) ∈ complaintsOf (checkField fields name default read) := by
  simp only [checkField, given]
  -- `checkField` puts the field's name in front of each complaint of its value.
  cases outcome : read value with
  | ok taken => simp [outcome, complaintsOf] at complained
  | error complaints =>
    rw [outcome] at complained
    exact List.mem_map_of_mem complained

/-- Every key that is not known is complained about. -/
theorem mem_unknownKeys {field : String × Json} (given : field ∈ fields)
    (unknown : field.1 ∉ known) : ⟨[.key field.1], .unknownKey⟩ ∈ unknownKeys known fields := by
  have kept : field ∈ fields.filter fun field => !known.contains field.1 := by
    simpa [given] using unknown
  exact List.mem_map_of_mem kept

/-- Keys that are no settings for searching are complained about, whatever else is. -/
theorem complaintsOf_checkScan (fields : List (String × Json)) :
    unknownKeys Part.scan.keys fields ⊆ complaintsOf (checkScan (.object fields)) := by
  intro complaint unknown
  rw [checkScan]
  split
  · next none => exact absurd unknown (by rw [Part.keys, none]; simp)
  · exact List.mem_append_right _ unknown

/-- Keys that are no settings for build information are complained about. -/
theorem complaintsOf_checkBuild (fields : List (String × Json)) :
    unknownKeys Part.build.keys fields ⊆ complaintsOf (checkBuild (.object fields)) := by
  intro complaint unknown
  rw [checkBuild]
  split
  · next none => exact absurd unknown (by rw [Part.keys, none]; simp)
  · exact List.mem_append_right _ unknown

/-- All complaints about the settings are those about their parts. -/
theorem complaintsOf_check (fields : List (String × Json)) :
    complaintsOf (check fields) =
      complaintsOf (checkField fields "scan" {} checkScan) ++
      complaintsOf (checkField fields "build" true checkBuild) ++
      complaintsOf (checkField fields "log_level" .warning
        fun value => checked (logLevelOf value)) := by
  -- The check reports all three fields together, whichever of them complain.
  rw [check]
  split
  · next scan build level => rw [scan, build, level]; rfl
  · rfl

/-- Settings are accepted if all their parts are. -/
theorem check_ok (accepted : check fields = .ok settings) :
    checkField fields "scan" {} checkScan = .ok settings.scan ∧
      checkField fields "build" true checkBuild = .ok settings.dedupeIncludeDirectories ∧
      checkField fields "log_level" .warning (fun value => checked (logLevelOf value)) =
        .ok settings.logLevel := by
  -- Acceptance leaves one branch, in which the three fields have been accepted.
  rw [check] at accepted
  split at accepted
  · next scan build level =>
    cases accepted
    exact ⟨scan, build, level⟩
  · cases accepted

/-- Settings for searching are accepted if each of them is and no other key is given. -/
theorem checkScan_ok (accepted : checkScan (.object fields) = .ok scan) :
    checkField fields "project_file_pattern" ⟨"*.apj", by decide⟩
        (fun value => checked (namePatternOf value)) =
          .ok ⟨scan.projectFilePattern, scan.pattern_isName⟩ ∧
      checkField fields "ignore_patterns" [] checkTexts = .ok scan.ignorePatterns ∧
      checkField fields "project_output_dirs" ["Temp", "Binaries", "Diagnosis"] checkTexts =
        .ok scan.outputDirectories ∧
      checkField fields "respect_gitignore" true (fun value => checked (flagOf value)) =
        .ok scan.respectGitignore ∧
      checkField fields "max_workers" ⟨8, by decide⟩ (fun value => checked (workersOf value)) =
        .ok ⟨scan.maxWorkers, scan.workers_bounded⟩ ∧
      unknownKeys Part.scan.keys fields = [] := by
  -- Acceptance leaves one branch, in which no field complains and no key is left over.
  rw [checkScan] at accepted
  split at accepted
  · next pattern ignored output gitignore workers none =>
    cases accepted
    exact ⟨pattern, ignored, output, gitignore, workers, none⟩
  · cases accepted

/-- The setting for build information is accepted if no other key is given. -/
theorem checkBuild_ok (accepted : checkBuild (.object fields) = .ok dedupe) :
    checkField fields "dedupe_adjacent_include_dirs" true (fun value => checked (flagOf value)) =
        .ok dedupe ∧
      unknownKeys Part.build.keys fields = [] := by
  rw [checkBuild] at accepted
  split at accepted
  · next read none =>
    cases accepted
    exact ⟨read, none⟩
  · cases accepted

/-- Where no key is complained about, those that lead to values are known. -/
theorem known_of_lookup (none : unknownKeys known fields = [])
    (given : lookup key fields = some value) : key ∈ known := by
  by_contra unknown
  have complained := mem_unknownKeys (mem_of_lookup given) unknown
  rw [none] at complained
  cases complained

/-- Only a list of texts is taken for texts, and as they are. -/
theorem checkTexts_ok {texts : List String} (accepted : checkTexts value = .ok texts) :
    value = .texts texts := by
  -- The position only tells where an item is wrong, so the induction is over any.
  have items : ∀ (items : List Json) (position : Nat) (texts : List String),
      checkTextsFrom position items = .ok texts → items = texts.map .text := by
    intro items
    induction items with
    | nil =>
      intro position texts accepted
      cases accepted
      rfl
    | cons item items ih =>
      intro position texts accepted
      rw [checkTextsFrom] at accepted
      split at accepted
      · next text others first rest =>
        cases accepted
        cases item with
        | text given =>
          cases first
          rw [List.map_cons, ← ih _ _ rest]
        | _ => cases first
      all_goals cases accepted
  cases value with
  | list given => exact congrArg Json.list (items given 0 texts accepted)
  | _ => cases accepted

/-- Only a text is taken for a name pattern, and as it is. -/
theorem namePatternOf_ok {pattern : { text : String // isNamePattern text = true }}
    (accepted : namePatternOf value = .ok pattern) : value = .text pattern.1 := by
  -- Only a text is taken for a pattern, and it is taken as it is.
  cases value with
  | text given =>
    rw [namePatternOf, textOf] at accepted
    split at accepted
    · cases accepted
    · next text same =>
      split at accepted
      · cases same
        cases accepted
        rfl
      · cases accepted
  | _ => cases accepted

/-- A number of workers is the whole number that a value is taken for. -/
theorem workersOf_ok {workers : { n : Nat // 1 ≤ n ∧ n ≤ 64 }}
    (accepted : workersOf value = .ok workers) : integerOf value = .ok (workers.1 : Int) := by
  -- Both bounds are passed, so the natural number is the integer that was read.
  rw [workersOf] at accepted
  split at accepted
  · cases accepted
  · next count read =>
    split at accepted
    · cases accepted
    split at accepted
    · cases accepted
    · next low high =>
      cases accepted
      rw [read, Int.toNat_of_nonneg (by omega)]

/-- What was taken without an objection. -/
theorem checked_ok {result : Except Objection α} (accepted : checked result = .ok taken) :
    result = .ok taken :=
  mapError_ok_iff.mp accepted

/-- Every path of keys into the settings for searching is told with what was taken there. -/
theorem checkScan_keeps (accepted : checkScan value = .ok scan)
    (given : at? keys value = some found) :
    ∃ told, Taken (Part.scan.name :: keys) found told ∧ at? keys scan.toJson = some told := by
  cases value with
  | object fields =>
    cases keys with
    | nil =>
      -- The path of the part itself leads to all that is told of it.
      cases given
      exact ⟨_, .part .scan _ _, rfl⟩
    | cons key keys =>
      obtain ⟨pattern, ignored, output, gitignore, workers, none⟩ := checkScan_ok accepted
      obtain ⟨value, field, onward⟩ := at?_cons_object.mp given
      have declared := known_of_lookup none field
      -- Each setting is taken from a value that is no object, so that its path ends there.
      simp only [Part.keys, List.mem_cons, List.not_mem_nil, or_false] at declared
      obtain rfl | rfl | rfl | rfl | rfl := declared
      · obtain ⟨rfl, -, isTaken⟩ := checkField_end pattern (fun _ => nofun) field onward
        exact ⟨_, namePatternOf_ok (checked_ok isTaken) ▸ .pattern _, rfl⟩
      · obtain ⟨rfl, -, isTaken⟩ := checkField_end ignored (fun _ => nofun) field onward
        exact ⟨_, checkTexts_ok isTaken ▸ .ignored _, rfl⟩
      · obtain ⟨rfl, -, isTaken⟩ := checkField_end output (fun _ => nofun) field onward
        exact ⟨_, checkTexts_ok isTaken ▸ .output _, rfl⟩
      · obtain ⟨rfl, -, isTaken⟩ := checkField_end gitignore (fun _ => nofun) field onward
        exact ⟨_, .gitignore (checked_ok isTaken), rfl⟩
      · obtain ⟨rfl, -, isTaken⟩ := checkField_end workers (fun _ => nofun) field onward
        exact ⟨_, .workers (workersOf_ok (checked_ok isTaken)), rfl⟩
  | _ => cases accepted

/-- Every path of keys into the setting for build information is told with what was taken there. -/
theorem checkBuild_keeps (accepted : checkBuild value = .ok dedupe)
    (given : at? keys value = some found) :
    ∃ told, Taken (Part.build.name :: keys) found told ∧
      at? keys (.object [("dedupe_adjacent_include_dirs", .bool dedupe)]) = some told := by
  -- The section itself is kept as a whole; below it stands its one setting.
  cases value with
  | object fields =>
    cases keys with
    | nil =>
      cases given
      exact ⟨_, .part .build _ _, rfl⟩
    | cons key keys =>
      obtain ⟨taken, none⟩ := checkBuild_ok accepted
      obtain ⟨value, field, onward⟩ := at?_cons_object.mp given
      have declared := known_of_lookup none field
      -- An undeclared key would have been a complaint, and the section was accepted.
      simp only [Part.keys, List.mem_singleton] at declared
      subst declared
      obtain ⟨rfl, -, isTaken⟩ := checkField_end taken (fun _ => nofun) field onward
      exact ⟨_, .dedupe (checked_ok isTaken), rfl⟩
  | _ => cases accepted

/-- Every path of keys that begins with a declared one is told with what was taken there. -/
theorem check_keeps (accepted : check fields = .ok settings) (declared : key ∈ topKeys)
    (given : at? (key :: keys) (.object fields) = some found) :
    ∃ told, Taken (key :: keys) found told ∧ at? (key :: keys) settings.toJson = some told := by
  -- An accepted mapping has three accepted fields, and a declared key is one of their names.
  obtain ⟨scan, build, level⟩ := check_ok accepted
  obtain ⟨value, field, onward⟩ := at?_cons_object.mp given
  simp only [topKeys, List.mem_cons, List.not_mem_nil, or_false] at declared
  obtain rfl | rfl | rfl := declared
  · exact checkScan_keeps (checkField_ok scan field) onward
  · exact checkBuild_keeps (checkField_ok build field) onward
  · obtain ⟨rfl, -, isTaken⟩ := checkField_end level (fun _ => nofun) field onward
    exact ⟨_, .level (checked_ok isTaken), rfl⟩

/-- Settings are told under the declared keys only. -/
theorem declared_of_told (told : at? (key :: keys) settings.toJson = some found) :
    key ∈ topKeys := by
  obtain ⟨value, field, -⟩ := at?_cons_object.mp told
  have member := mem_of_lookup field
  simp only [List.mem_cons, Prod.mk.injEq, List.not_mem_nil, or_false] at member
  obtain ⟨rfl, -⟩ | ⟨rfl, -⟩ | ⟨rfl, -⟩ := member <;> decide

/-- Fields that are not declared make no difference beside the parts. -/
theorem check_filter (fields : List (String × Json)) :
    check (fields.filter fun field => topKeys.contains field.1) = check fields := by
  -- Only the three declared keys are ever looked up.
  have same : ∀ name ∈ topKeys, lookup name (fields.filter fun field =>
      topKeys.contains field.1) = lookup name fields :=
    fun name declared => lookup_filter fun _ => List.contains_iff_mem.mpr declared
  simp only [check, checkField, same "scan" (by decide), same "build" (by decide),
    same "log_level" (by decide)]

/-- An undeclared key inside a part is complained about. -/
theorem mem_complaintsOf_check (part : Part) {inner : List (String × Json)}
    (given : lookup part.name fields = some (.object inner)) {field : String × Json}
    (within : field ∈ inner) (undeclared : field.1 ∉ part.keys) :
    ⟨[.key part.name, .key field.1], .unknownKey⟩ ∈ complaintsOf (check fields) := by
  have unknown := mem_unknownKeys within undeclared
  -- The complaints of a section stay complaints of the whole, in the order of the three fields.
  rw [complaintsOf_check]
  cases part with
  | scan =>
    have inPart := mem_complaintsOf_checkField {} given (complaintsOf_checkScan inner unknown)
    exact List.mem_append_left _ (List.mem_append_left _ inPart)
  | build =>
    have inPart := mem_complaintsOf_checkField true given (complaintsOf_checkBuild inner unknown)
    exact List.mem_append_left _ (List.mem_append_right _ inPart)

/-- Keys that settings do not declare. Inside a part one is always refused, at its place; beside the
parts it never makes a difference, and where there are no others the defaults are accepted. So accepted
fields are told in full, every path of keys with what was taken for its value, exactly if all their
keys beside the parts are declared; otherwise the paths from declared keys still are, and the others
are dropped. -/
theorem load_declared (disk : Disk) (fields : List (String × Json)) :
    (∀ part : Part, ∀ inner, lookup part.name fields = some (.object inner) →
      ∀ field ∈ inner, field.1 ∉ part.keys →
        ∃ complaints, load disk (.value fields) = .error (.complaints complaints) ∧
          ⟨[.key part.name, .key field.1], .unknownKey⟩ ∈ complaints) ∧
    load disk (.value (fields.filter fun field => topKeys.contains field.1)) =
      load disk (.value fields) ∧
    ((∀ field ∈ fields, field.1 ∉ topKeys) → load disk (.value fields) = .ok {}) ∧
    ∀ settings, load disk (.value fields) = .ok settings →
      ((∀ key keys found, at? (key :: keys) (.object fields) = some found →
          ∃ told, Taken (key :: keys) found told ∧
            at? (key :: keys) settings.toJson = some told) ↔
        ∀ field ∈ fields, field.1 ∈ topKeys) ∧
      ∀ key keys found, at? (key :: keys) (.object fields) = some found →
        (key ∈ topKeys → ∃ told, Taken (key :: keys) found told ∧
          at? (key :: keys) settings.toJson = some told) ∧
        (key ∉ topKeys → at? (key :: keys) settings.toJson = none) := by
  refine ⟨fun part inner given field within undeclared => ?_, ?_, fun undeclared => ?_,
    fun settings loaded => ?_⟩
  -- An undeclared key inside a part is among the complaints, so the check has failed.
  · have complained := mem_complaintsOf_check part given within undeclared
    cases outcome : check fields with
    | ok settings =>
      rw [outcome] at complained
      cases complained
    | error complaints =>
      rw [outcome] at complained
      exact ⟨complaints, by rw [load, ofFields, outcome]; rfl, complained⟩
  -- The check asks for the three parts by name and never meets the other keys.
  · rw [load, load, ofFields, ofFields, check_filter]
  -- Without any declared key nothing is left of the fields, and nothing is the defaults.
  · have dropped : (fields.filter fun field => topKeys.contains field.1) = [] :=
      List.filter_eq_nil_iff.mpr fun field member => by simpa using undeclared field member
    rw [load, ofFields, ← check_filter, dropped]
    rfl
  -- Accepted settings are those of a successful check, which tells what it took for each declared
  -- key.
  · have accepted : check fields = .ok settings := mapError_ok_iff.mp loaded
    refine ⟨⟨fun kept field member => ?_, fun declared key keys found given => ?_⟩,
      fun key keys found given => ⟨fun declared => check_keeps accepted declared given,
        fun undeclared => ?_⟩⟩
    · -- What is told of a key of the fields tells that it is declared.
      obtain ⟨value, given⟩ := exists_lookup member
      obtain ⟨told, -, isTold⟩ := kept field.1 [] value (at?_cons_object.mpr ⟨value, given, rfl⟩)
      exact declared_of_told isTold
    · obtain ⟨value, given', -⟩ := at?_cons_object.mp given
      exact check_keeps accepted (declared _ (mem_of_lookup given')) given
    · exact Option.eq_none_iff_forall_ne_some.mpr fun told isTold =>
        undeclared (declared_of_told isTold)

/-- Fields with a part that is spelled wrong. -/
def misspelledFields : List (String × Json) :=
  [("scna", .object [("max_workers", .int 3)]), ("build", .object [])]

/-- A part that is spelled wrong is dropped, and the settings keep their defaults. -/
theorem load_declared_misspelled :
    load textsDisk (.value [("build", .object [])]) = load textsDisk (.value misspelledFields) ∧
      at? ["scna", "max_workers"] (Settings.toJson {}) = none := by
  obtain ⟨-, filtered, -, told⟩ := load_declared textsDisk misspelledFields
  exact ⟨filtered, ((told {} (by decide)).2 "scna" ["max_workers"] (.int 3) rfl).2
    (by decide)⟩

/-- Fields with an undeclared key beside the parts are accepted, though the key is told nowhere. -/
theorem undeclared_dropped :
    load textsDisk (.value misspelledFields) = .ok {} ∧
      at? ["scna", "max_workers"] (.object misspelledFields) = some (.int 3) ∧
      at? ["scna"] (Settings.toJson {}) = none :=
  ⟨by decide, rfl, rfl⟩

end Settings

end AutomationIndex
