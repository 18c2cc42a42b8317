import AutomationIndex.Disk.Way
import AutomationIndex.Loading
import AutomationIndex.Text.Utf8

/-! Reading files of a disk. -/

namespace AutomationIndex.Disk

/-- The bytes of a file. -/
def bytesOf (disk : Disk) (l : Location) : Except DiskCause (List UInt8) :=
  match disk.find l with
  | .error cause => .error cause
  | .ok ⟨_, .file bytes⟩ => .ok bytes
  | .ok _ => .error .isDirectory

/-- The text of bytes with unified line ends, less a byte order mark. -/
def markedText (bytes : List UInt8) : Except Text.Utf8Fault String :=
  (Text.decodeUtf8 (Text.dropMark bytes)).map fun chars => String.ofList (Text.unifyLineEnds chars)

/-- The text of bytes with unified line ends, a byte order mark included. -/
def plainText (bytes : List UInt8) : Except Text.Utf8Fault String :=
  (Text.decodeUtf8 bytes).map fun chars => String.ofList (Text.unifyLineEnds chars)

/-- That a file could not be read for another reason than that it is missing or denied. -/
def readFailure (l : Location) (reason : String) : ReadFault :=
  ⟨.failed, "Failed to read " ++ l.text ++ ": " ++ reason⟩

/-- The answer to reading a project's file. A path that no file can have is a fault of its own. -/
def readText (disk : Disk) (l : Location) : Except DiskFault (Except ReadFault String) :=
  match disk.bytesOf l with
  | .error .nullCharacter => .error (faultAt l .nullCharacter)
  | .error .notFound => .ok (.error ⟨.missing, "File not found: " ++ l.text⟩)
  -- A directory is there and cannot be read, which is what a denial means.
  | .error .isDirectory => .ok (.error ⟨.denied, "Cannot read file: " ++ l.text⟩)
  | .error cause => .ok (.error (readFailure l (faultAt l cause).message))
  | .ok bytes =>
    .ok ((markedText bytes).mapError fun fault => readFailure l fault.message)

/-- What a file of a disk is; nothing and a record where it is at fault. -/
def load {α : Type} (disk : Disk) (kind : String) (file : Location)
    (read : Location → Xml.Source → Except ContentFault α) : Logged DiskFault (Option α) :=
  match disk.readText file with
  | .error fault => .fail fault
  | .ok answer => loadFile kind file answer read

end AutomationIndex.Disk
