import AutomationIndex.Disk.Read

/-! Ignore files: the patterns that a directory's `.gitignore` lists. -/

namespace AutomationIndex.Scan

/-- How many bytes of a file are read at a time. -/
def blockSize : Nat := 8192

/-- The number of bytes that have been read when a fault shows itself. -/
def bytesBefore (size : Nat) (fault : Text.Utf8Fault) : Nat :=
  match fault.cause with
  -- A block with a fault in it gives no lines at all.
  | .start => fault.position / blockSize * blockSize
  | .continuation => (fault.position + fault.bytes.length) / blockSize * blockSize
  | .truncated => size

/-- The characters of the lines that are complete. A carriage return may be half of a line end. -/
def completeLines (chars : List Char) : List Char :=
  let chars := if chars.getLast? == some '\r' then chars.dropLast else chars
  Text.dropEndWhile (fun c => c != '\n' && c != '\r') chars

/-- The readable characters of an ignore file: all, or the lines complete before a fault. -/
def readableLines (bytes : List UInt8) : List Char :=
  match Text.decodePrefix bytes with
  | (chars, none) => chars
  | (_, some fault) =>
    -- The lines before the damaged one are used; the line itself may be incomplete and is dropped.
    completeLines (Text.decodePrefix (bytes.take (bytesBefore bytes.length fault))).1

/-- The patterns of the lines of a text; comments and exceptions are passed over. -/
def patternsOf (chars : List Char) : List String :=
  ((Text.runsBetween (· == '\n') (Text.unifyLineEnds chars)).map Text.stripChars).filter isPattern
    |>.map String.ofList
where
  /-- Whether a line is a pattern. -/
  isPattern (line : List Char) : Bool :=
    match line with
    | [] => false
    | c :: _ => c != '#' && c != '!'

/-- The patterns that a directory's ignore file lists. -/
def gitignorePatterns (disk : Disk) (root : Location) : Except DiskFault (List String) := do
  let file := root / ".gitignore"
  -- A file that cannot be read sets no rules, as a missing one.
  if ← disk.isFile file then
    match disk.bytesOf file with
    | .ok bytes => return patternsOf (readableLines bytes)
    | .error _ => return []
  else return []

end AutomationIndex.Scan
