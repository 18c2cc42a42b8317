import AutomationIndex.Command.Layout
import AutomationIndex.Command.Run

/-! The program: looks at the disk as far as the command line asks, runs, and prints. -/

namespace AutomationIndex.Command

/-- The path of a place. -/
def pathOf (place : Place) : String :=
  (Disk.locationOf place).text

/-- Whether a run reads the files with a name. -/
def isRead (pattern name : String) : Bool :=
  Wildcard.fits name pattern || [".pkg", ".set", ".gitignore"].any fun ending =>
    ending.toList.isSuffixOf name.toList

/-- What stands at an entry of a directory: directories are empty unless they are read whole. Links
that lead nowhere, and what is no file, do not count. -/
partial def nodeAt? (pattern : String) (whole : Bool) (entry : IO.FS.DirEntry) :
    IO (Option Node) := do
  try
    match (← entry.path.symlinkMetadata).type with
    | .symlink => return some (.link (← IO.FS.realPath entry.path).toString)
    | .file =>
      if isRead pattern entry.fileName then
        return some (.file (← IO.FS.readBinFile entry.path).toList)
      else return some (.file [])
    | .dir =>
      if whole then
        let found ← (← entry.path.readDir).toList.filterMapM fun inner => do
          return (← nodeAt? pattern whole inner).map fun node => (inner.fileName, node)
        return some (.directory found)
      else return some (.directory [])
    | .other => return none
  catch _ => return none

/-- Puts the entries of a directory on a disk, next to those that are there. -/
def listInto (pattern : String) (disk : Disk) (place : Place) : IO Disk := do
  try
    let entries ← (← IO.FS.realPath (pathOf place)).readDir
    entries.foldlM (fun disk entry => do
      let inner := place ++ [entry.fileName]
      -- What was looked at before keeps its node.
      if (disk.root.at? inner).isSome then return disk
      match ← nodeAt? pattern false entry with
      | some node => return disk.putAt inner node
      | none => return disk) disk
  catch _ => return disk

/-- Puts what stands along a way on a disk, links included. -/
partial def lookAlong (pattern : String) (disk : Disk) (here : Place) (names : List String) :
    IO Disk := do
  let disk ← listInto pattern disk here
  match names with
  | [] => return disk
  | ".." :: names => lookAlong pattern disk here.dropLast names
  | name :: names =>
    match disk.root.at? (here ++ [name]) with
    | some (.link target) => lookAlong pattern disk [] ((Location.posix target).segments ++ names)
    | some (.directory _) => lookAlong pattern disk (here ++ [name]) names
    | _ => return disk

/-- Puts what stands along the way to a location on a disk. -/
def lookAt (pattern : String) (disk : Disk) (l : Location) : IO Disk :=
  lookAlong pattern disk (if l.root == "" then disk.working else []) l.segments

/-- Puts the bytes of a file on a disk. -/
def readInto (disk : Disk) (l : Location) : IO Disk := do
  match disk.find l with
  | .ok ⟨place, .file _⟩ =>
    try return disk.putAt place (.file (← IO.FS.readBinFile (pathOf place)).toList)
    catch _ => return disk
  | _ => return disk

/-- Puts all that is below locations on a disk, and below what links there lead to. -/
partial def readTrees (pattern : String) (disk : Disk) (done : List Place) :
    List Location → IO Disk
  | [] => return disk
  | l :: rest => do
    let disk ← lookAt pattern disk l
    match disk.find l with
    | .ok ⟨_, .file _⟩ => readTrees pattern (← readInto disk l) done rest
    | .ok ⟨place, .directory _⟩ =>
      if done.any (·.isPrefixOf place) then readTrees pattern disk done rest
      else
        let entries ← (← IO.FS.realPath (pathOf place)).readDir
        let found ← entries.toList.filterMapM fun entry => do
          return (← nodeAt? pattern true entry).map fun node => (entry.fileName, node)
        let tree := Node.directory found
        readTrees pattern (disk.putAt place tree) (place :: done)
          (rest ++ tree.targets.map Location.posix)
    | _ => readTrees pattern disk done rest

/-- The disk as far as a command looks at it. -/
def surveyFor (disk : Disk) (request : Request) (task : Task) : IO Disk := do
  let source := request.settings.getD ""
  let disk ← readInto (← lookAt "" disk (.posix source)) (.posix source)
  let disk ← lookAt "" disk (.posix (request.logFile.getD ""))
  -- Only the settings tell which files the trees are listed for.
  let settings := (Settings.load disk (.text source)).toOption.getD {}
  let pattern := settings.scan.projectFilePattern
  match task with
  | .scan roots => readTrees pattern disk [] (homed disk roots)
  | .info path roots =>
    match homed disk [path] with
    | l :: _ =>
      let disk ← lookAt pattern disk l
      -- Without roots the search starts from the project that the command itself will guess.
      let guessed :=
        match disk.resolve l with
        | .ok l => (guessRoot disk settings.scan l).toOption.toList
        | .error _ => []
      readTrees pattern disk [] (if roots.isEmpty then guessed else homed disk roots)
    | [] => return disk
where
  /-- The locations of paths with home directories filled in. -/
  homed (disk : Disk) (paths : List String) : List Location :=
    paths.filterMap fun path => (disk.expandHome (.posix path)).toOption

/-- The names and the home directories of the users that a list of accounts tells. -/
def accountsOf (text : String) : List (String × String) :=
  (Text.fields '\n' text).filterMap fun line =>
    match Text.fields ':' line with
    -- An entry of another shape is passed over.
    | [name, _, _, _, _, home, _] => some (name, home)
    | _ => none

/-- An empty disk, looked at from the working directory of the program and for its user. -/
def bareDisk : IO Disk := do
  let accounts ← try IO.FS.readFile "/etc/passwd" catch _ => pure ""
  return {
    working := (Location.posix (← IO.currentDir).toString).segments
    home := (← IO.getEnv "HOME").getD "/"
    accounts := accountsOf accounts }

/-- The line that tells a log record. -/
def recordLine (record : LogRecord) : String :=
  "[" ++ record.speaker ++ "] [" ++ record.level.name ++ "] " ++ record.message

/-- Writes log records to the end of a file. -/
def appendRecords (path : String) (records : List LogRecord) : IO Unit :=
  IO.FS.withFile path .append fun handle =>
    records.forM fun record => handle.putStrLn (recordLine record)

/-- Tells the outcome of a run and gives its exit code. -/
def tell (logged : Logged RunFault Outcome) : IO UInt32 := do
  -- The records stand on the error stream, in the order they were made.
  for record in logged.records do
    IO.eprintln (recordLine record)
  match logged.result with
  | .error fault =>
    IO.eprintln fault.message
    return 1
  | .ok outcome =>
    IO.print outcome.output
    for printed in outcome.printed do
      IO.println printed.text
    IO.eprint (outcome.complaint.getD "")
    return outcome.exitCode.toUInt32

/-- Runs the program on the arguments of a command line. -/
def runProgram (arguments : List String) : IO UInt32 := do
  let disk ← bareDisk
  match readRequest arguments with
  | .error _ => tell (run disk arguments).2
  | .ok request => do
    let disk ←
      match request.task with
      | some task => surveyFor disk request task
      | none => lookAt "" disk (.posix (request.logFile.getD ""))
    let logged := (run disk arguments).2
    -- The records go into the file only where the run has an outcome.
    match request.logFile, logged.result with
    | some path, .ok _ => if path != "" then appendRecords path logged.records
    | _, _ => pure ()
    tell logged

end AutomationIndex.Command

/-- Runs the program. -/
def main (arguments : List String) : IO UInt32 :=
  AutomationIndex.Command.runProgram arguments
