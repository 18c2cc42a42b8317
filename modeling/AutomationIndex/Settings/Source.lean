import AutomationIndex.Disk.Read
import AutomationIndex.Settings.Check
import AutomationIndex.Toml.Document

/-! Where settings come from: values, texts and files in two formats. -/

namespace AutomationIndex.Settings

/-- A format of settings. -/
inductive Format where
  | json
  | toml
  deriving DecidableEq, Repr

/-- What settings are made from. -/
inductive Source where
  | default
  | value (fields : List (String × Json))
  /-- A text, which is either settings or the path of a file. -/
  | text (text : String)
  | path (l : Location)
  /-- Something that settings are not made from, by the name of its kind. -/
  | other (kind : String)

/-- Why no settings come out of a source. -/
inductive SourceFault where
  | unsupported (kind : String)
  | noFile (path : Location)
  | syntaxFault (format : Format) (message : String)
  | tooManyDigits (count : Nat)
  | noMapping
  | undecodable (fault : Text.Utf8Fault)
  | disk (fault : DiskFault)
  | complaints (complaints : List Complaint)
  deriving DecidableEq, Repr

/-- The name of a format. -/
def Format.name : Format → String
  | json => "JSON"
  | toml => "TOML"

/-- The wording of a fault; of complaints, the heading. -/
def SourceFault.message : SourceFault → String
  | unsupported kind => "Unsupported config source type: <class '" ++ kind ++ "'>"
  | noFile path => "Configuration file not found: " ++ path.text
  | syntaxFault format message => "Invalid " ++ format.name ++ " configuration: " ++ message
  | tooManyDigits count => (Json.Cause.tooManyDigits count).message
  | noMapping => "Top-level configuration must be a mapping/dict"
  | undecodable fault => fault.message
  | disk fault => fault.message
  | complaints told => heading told

/-- Whether the first character that is not blank opens an object or a list. -/
def opensBracket (text : String) : Bool :=
  match text.toList.dropWhile Text.isBlank with
  | c :: _ => c == '\x7b' || c == '['
  | [] => false

/-- The format that a text seems to be in. -/
def guessFormat (text : String) : Format :=
  if opensBracket text then .json else .toml

/-- The format that the suffix of a file's name tells, in any case. -/
def formatOfSuffix? (l : Location) : Option Format :=
  match Text.toSmall l.suffix with
  | ".toml" => some .toml
  | ".tml" => some .toml
  | ".json" => some .json
  | _ => none

/-- Whether a text is settings and not the path of a file. -/
def isInline (text : String) : Bool :=
  text.toList.contains '\n' || text.toList.contains '=' || opensBracket text

/-- The fields that a text in a format writes. -/
def fieldsOf (format : Format) (text : String) : Except SourceFault (List (String × Json)) :=
  match format with
  | .json =>
    match Json.read text.toList with
    | .ok (.object fields) => .ok fields
    | .ok _ => .error .noMapping
    -- Too long a number is no fault of syntax.
    | .error ⟨.tooManyDigits count, _⟩ => .error (.tooManyDigits count)
    | .error fault => .error (.syntaxFault .json (fault.message text.toList))
  | .toml =>
    match Toml.read text with
    | .ok fields => .ok fields
    | .error (.tooManyDigits count, _) => .error (.tooManyDigits count)
    | .error (_, message) => .error (.syntaxFault .toml message)

/-- The settings that fields make. -/
def ofFields (fields : List (String × Json)) : Except SourceFault Settings :=
  (check fields).mapError .complaints

/-- The settings that a text in a format writes. -/
def ofText (format : Format) (text : String) : Except SourceFault Settings := do
  ofFields (← fieldsOf format text)

/-- The settings in a file, the format of which its suffix tells or its text. -/
def ofFile (disk : Disk) (l : Location) : Except SourceFault Settings :=
  match disk.bytesOf l with
  | .error cause => .error (.disk (Disk.faultAt l cause))
  | .ok bytes => do
    let text ← (Disk.plainText bytes).mapError SourceFault.undecodable
    -- The suffix decides the format; without a known one the text does.
    ofText ((formatOfSuffix? l).getD (guessFormat text)) text

/-- The settings in the file at a location; where there is no file and the suffix asks for none, the
text is read itself. -/
def ofFileOrText (disk : Disk) (l : Location) (text : String) : Except SourceFault Settings :=
  match disk.isFile l with
  | .error fault => .error (.disk fault)
  | .ok true => ofFile disk l
  | .ok false =>
    -- A name that ends like a file's is not taken for settings.
    if (formatOfSuffix? l).isSome then .error (.noFile l) else ofText (guessFormat text) text

/-- The settings that a source gives. -/
def load (disk : Disk) : Source → Except SourceFault Settings
  | .default => .ok {}
  | .value fields => ofFields fields
  | .text text =>
    -- The text is asked first, so a path that looks like settings is never looked up.
    if isInline text then ofText (guessFormat text) text
    else ofFileOrText disk (.posix text) text
  | .path l => ofFileOrText disk l l.text
  | .other kind => .error (.unsupported kind)

end AutomationIndex.Settings
