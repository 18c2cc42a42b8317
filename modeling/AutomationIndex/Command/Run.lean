import AutomationIndex.Command.Output
import AutomationIndex.Disk.Change
import AutomationIndex.Settings.Source
import AutomationIndex.Workspace.Index

/-! Running the program: settings are loaded, a workspace is scanned, and the answer is told. -/

namespace AutomationIndex.Command

/-- What ends a run without an outcome. -/
inductive RunFault where
  | disk (fault : DiskFault)
  | index (fault : IndexFault)
  deriving DecidableEq, Repr

/-- The wording of a fault. -/
def RunFault.message : RunFault → String
  | disk fault => fault.message
  | index fault => fault.message

/-- The part of the program that carries out a command. -/
def Task.speaker : Task → String
  | scan _ => "asindexer.cli.scan"
  | info _ _ => "asindexer.cli.info"

/-- A resolved location, or the fault of a run. -/
def resolved {α : Type} (result : Except ResolveFault α) : Logged RunFault α :=
  .ofExcept (result.mapError fun fault => .index (.resolve fault))

/-- Lists the projects of a workspace. -/
def runScan (disk : Disk) (settings : Settings) (asJson : Bool) (roots : List String) :
    Logged RunFault Outcome := do
  let index ← resolved (Index.create disk (roots.map Location.posix) settings)
  let index ← (index.update disk).mapFault .index
  return succeed asJson (projectsJson index.known) (projectsPrinted index.known)

/-- The nearest of some directories that holds a project file. -/
def nearest? (disk : Disk) (scan : ScanSettings) :
    List Location → Except SearchFault (Option Location)
  | [] => .ok none
  -- The directories come from the inside out, so the first one with a match is the nearest.
  | directory :: outer => do
    match ← Scan.findFiles disk scan.omissions directory scan.projectFilePattern with
    | [] => nearest? disk scan outer
    | _ => return some directory

/-- The root of a workspace for a location, where none is given: the nearest enclosing directory
that holds a project file, or else the working directory. -/
def guessRoot (disk : Disk) (scan : ScanSettings) (l : Location) :
    Except SearchFault Location := do
  let start := if ← (disk.isDirectory l).mapError SearchFault.disk then l else l.parent
  return (← nearest? disk scan start.ancestors).getD (Disk.locationOf disk.working)

/-- Tells that a command fails. -/
def failWith (task : Task) (message : String) : Logged RunFault Outcome := do
  .record .error task.speaker message
  return { exitCode := 1 }

/-- Describes a location. -/
def runInfo (disk : Disk) (settings : Settings) (asJson : Bool) (task : Task) (path : String)
    (roots : List String) : Logged RunFault Outcome := do
  let l ← resolved (disk.resolveNamed (.posix path))
  let roots ←
    if roots.isEmpty then do
      let root ← .ofExcept ((guessRoot disk settings.scan l).mapError fun fault =>
        .index (.search fault))
      pure [root]
    else pure (roots.map Location.posix)
  let index ← resolved (Index.create disk roots settings)
  let index ← (index.update disk).mapFault .index
  match index.owner? l with
  -- A project has to contain the location; that the location exists is not asked.
  | none => failWith task ("No Automation Studio project contains " ++ l.text)
  | some p =>
    let info := index.buildInfo? l
    return succeed asJson (locationJson l p info) (locationPrinted l p info)

/-- Carries out a command. -/
def runTask (disk : Disk) (settings : Settings) (asJson : Bool) (task : Task) :
    Logged RunFault Outcome :=
  match task with
  | .scan roots => runScan disk settings asJson roots
  | .info path roots => runInfo disk settings asJson task path roots

/-- The level from which on records are kept: that of given settings, unless all are asked for. -/
def threshold (request : Request) (settings : Settings) : LogLevel :=
  if request.verbose || (request.settings.getD "") == "" then .warning else settings.logLevel

/-- Keeps the records that are serious enough. -/
def keepFrom {α : Type} (level : LogLevel) (logged : Logged RunFault α) : Logged RunFault α :=
  ⟨logged.records.filter (·.passes level), logged.result⟩

/-- Carries out a command with the settings that a request gives. -/
def runWithSettings (disk : Disk) (request : Request) (task : Task) : Logged RunFault Outcome :=
  match Settings.load disk ((request.settings.map Settings.Source.text).getD .default) with
  -- A disk fault is not a complaint about the settings: it ends the run as it is.
  | .error (.disk fault) => .fail (.disk fault)
  | .error fault => failWith task ("Invalid configuration: " ++ fault.message)
  -- The settings decide the threshold, so they are read before anything is logged.
  | .ok settings => keepFrom (threshold request settings) (runTask disk settings request.json task)

/-- The disk with a file for messages, which is made if it is not there. -/
def openLog (disk : Disk) (path : String) : Except DiskFault Disk :=
  let written := Location.posix path
  let l : Location := { written with
    root := if written.root == "" then "/" else written.root
    segments := Disk.plainNames
      ((if written.root == "" then disk.working else []) ++ written.segments) }
  -- The file is made where a link to nothing points.
  let place := disk.resolvePlace l
  match disk.find l with
  | .ok ⟨_, .directory _⟩ => .error (Disk.faultAt l .isDirectory)
  | .ok _ => .ok disk
  | .error .notFound =>
    match disk.find (Disk.locationOf place.dropLast) with
    | .ok ⟨_, .directory _⟩ => .ok (disk.putAt place (.file []))
    | _ => .error (Disk.faultAt l .notFound)
  | .error cause => .error (Disk.faultAt l cause)

/-- Runs the program on the arguments of a command line. -/
def run (disk : Disk) (arguments : List String) : Disk × Logged RunFault Outcome :=
  match readRequest arguments with
  | .error stop => (disk, pure stop.outcome)
  | .ok request =>
    let opened : Except DiskFault Disk :=
      -- An empty path asks for no file.
      match request.logFile with
      | some path => if path == "" then .ok disk else openLog disk path
      | none => .ok disk
    match opened, request.task with
    | .error fault, _ => (disk, .fail (.disk fault))
    | .ok disk, none => (disk, pure { exitCode := 1, output := mainHelp })
    | .ok disk, some task => (disk, runWithSettings disk request task)

end AutomationIndex.Command
