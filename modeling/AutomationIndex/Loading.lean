import AutomationIndex.Log
import AutomationIndex.Package.Role
import AutomationIndex.Project.Descriptor
import AutomationIndex.Project.UserSettings
import AutomationIndex.Text.Point

/-! Loading a project's files: a file at fault yields nothing, and one record says why. -/

namespace AutomationIndex

/-- Why a file could not be read. -/
inductive ReadProblem where
  | missing
  | denied
  | failed
  deriving DecidableEq, Repr

/-- That a file could not be read, in the words of whoever should have read it. -/
structure ReadFault where
  problem : ReadProblem
  message : String
  deriving DecidableEq, Repr

/-- The record about a file of a kind that could not be loaded. -/
def loadFailure (kind : String) (file : Location) (reason : String) : LogRecord :=
  ⟨.error, "asindexer.files",
    "Failed to read " ++ kind ++ " file from path '" ++ file.text ++ "': " ++ reason⟩

/-- What a file is, given the answer to reading it; nothing and a record where it is at fault. -/
def loadFile {ε α : Type} (kind : String) (file : Location) (answer : Except ReadFault String)
    (read : Location → Xml.Source → Except ContentFault α) : Logged ε (Option α) :=
  match answer with
  -- Either fault leaves one record and no value: the caller goes on with the next file.
  | .error fault => ⟨[loadFailure kind file fault.message], .ok none⟩
  | .ok content =>
    match read file (Xml.Source.ofText content) with
    | .error fault => ⟨[loadFailure kind file fault.message], .ok none⟩
    | .ok a => ⟨[], .ok (some a)⟩

/-- Why the parser does not take in what a host hands over as the content of a file. -/
inductive IntakeFault where
  | unencodable (fault : Text.EncodeFault)
  | oversized
  deriving DecidableEq, Repr

/-- The wording of an intake fault. -/
def IntakeFault.message : IntakeFault → String
  | unencodable fault => fault.message
  | oversized => "size does not fit in an int"

/-- The most bytes that the parser takes in at once. -/
def intakeLimit : Nat := 0x7fffffff

/-- The text that the parser takes in. -/
def intake (points : List Text.Point) : Except IntakeFault String :=
  match Text.encode points with
  | .error fault => .error (.unencodable fault)
  | .ok text => if text.utf8ByteSize > intakeLimit then .error .oversized else .ok text

/-- What a file is, given a host's answer to reading it. A content that the parser does not take in
is no content fault: nothing is recorded, and loading itself fails. -/
def loadHosted {α : Type} (kind : String) (file : Location)
    (answer : Except ReadFault (List Text.Point))
    (read : Location → Xml.Source → Except ContentFault α) : Logged IntakeFault (Option α) :=
  match answer with
  | .error fault => loadFile kind file (.error fault) read
  | .ok points =>
    -- A text that is not taken in is no failure of the file: it ends the whole call.
    match intake points with
    | .error fault => .fail fault
    | .ok content => loadFile kind file (.ok content) read

/-- A package file in its role. -/
def Package.load (role : Role) (file : Location) (answer : Except ReadFault (List Text.Point)) :
    Logged IntakeFault (Option Package) :=
  loadHosted role.kind file answer (Package.read role)

/-- A project descriptor. -/
def Descriptor.load (file : Location) (answer : Except ReadFault (List Text.Point)) :
    Logged IntakeFault (Option Descriptor) :=
  loadHosted "project" file answer Descriptor.read

/-- The settings of a user. -/
def UserSettings.load (file : Location) (answer : Except ReadFault (List Text.Point)) :
    Logged IntakeFault (Option UserSettings) :=
  loadHosted "user settings" file answer UserSettings.read

end AutomationIndex
