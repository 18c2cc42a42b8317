import AutomationIndex.Disk.Resolve
import AutomationIndex.Project.Basic

/-! The index of a workspace: the projects of the last scan, and what they say about locations. -/

namespace AutomationIndex

/-- An index of the projects below some directories. -/
structure Index where
  roots : List Location
  settings : Settings
  /-- The projects of the last scan, if there was one. -/
  snapshot : Option (List Project) := none

/-- Why an index has no answer. -/
inductive IndexFault where
  | resolve (fault : ResolveFault)
  | search (fault : SearchFault)
  | notScanned
  | notConfigured
  deriving DecidableEq, Repr

/-- The wording of a fault. -/
def IndexFault.message : IndexFault → String
  | resolve fault => fault.message
  | search fault => fault.message
  | notScanned => "No projects scanned yet. Call get_projects() or update_projects() first."
  | notConfigured => "Workspace not configured. Call configure_workspace() first."

namespace Index

/-- The part of the program that tells about scans. -/
def speaker : String := "asindexer.workspace.aggregator"

/-- The resolved locations of directories that a user names. -/
def resolveRoots (disk : Disk) : List Location → Except ResolveFault (List Location)
  | [] => .ok []
  | root :: roots => do
    let resolved ← disk.resolveNamed root
    let others ← resolveRoots disk roots
    return resolved :: others

/-- An index that has not been scanned yet. -/
def create (disk : Disk) (roots : List Location) (settings : Settings) :
    Except ResolveFault Index := do
  return ⟨← resolveRoots disk roots, settings, none⟩

/-- Adds a project file; where its directory has one already, tells so instead. -/
def addFile (files : List Location) (file : Location) : Logged SearchFault (List Location) :=
  match files.find? fun first => first.parent.same file.parent with
  | none => pure (files ++ [file])
  -- The first file of a directory defines its project.
  | some first => do
    .record .warning speaker ("Ignoring project file " ++ file.text ++ ", " ++ first.name ++
      " already defines a project in " ++ file.parent.text)
    return files

/-- Adds project files in order. -/
def addFiles (files : List Location) : List Location → Logged SearchFault (List Location)
  | [] => pure files
  | file :: rest => do addFiles (← addFile files file) rest

/-- The project files below one root. -/
def filesBelow (index : Index) (disk : Disk) (root : Location) :
    Except SearchFault (List Location) :=
  Scan.findFiles disk index.settings.scan.omissions root
    ("**/" ++ index.settings.scan.projectFilePattern)

/-- Adds the project files below roots, one for each directory. -/
def addRoots (index : Index) (disk : Disk) (files : List Location) :
    List Location → Logged SearchFault (List Location)
  | [] => pure files
  | root :: roots => do
    let found ← .ofExcept (index.filesBelow disk root)
    -- The files found so far are handed on, so a directory that two roots share is kept once.
    index.addRoots disk (← addFiles files found) roots

/-- The project files of a workspace, one for each directory. -/
def projectFiles (index : Index) (disk : Disk) : Logged SearchFault (List Location) :=
  index.addRoots disk [] index.roots

/-- Tells how many projects did not load, if any. -/
def tellSkipped (count : Nat) : Logged SearchFault Unit :=
  if count == 0 then pure ()
  else .record .warning speaker ("Skipped " ++ toString count ++ " project(s) which failed to load")

/-- The projects of a workspace; one that does not load is left out. -/
def loadProjects (index : Index) (disk : Disk) : Logged SearchFault (List Project) := do
  let files ← index.projectFiles disk
  let projects ← Logged.collect (Project.load disk) files
  -- A project that does not load is left out and only counted here.
  tellSkipped (files.length - projects.length)
  return projects

/-- Scans the workspace. -/
def update (index : Index) (disk : Disk) : Logged IndexFault Index := do
  let projects ← (index.loadProjects disk).mapFault .search
  return { index with snapshot := some projects }

/-- Scans the workspace unless it has been scanned. -/
def ensure (index : Index) (disk : Disk) : Logged IndexFault Index :=
  match index.snapshot with
  | some _ => pure index
  | none => index.update disk

/-- The projects of the last scan; none without one. -/
def known (index : Index) : List Project :=
  index.snapshot.getD []

/-- The project that contains a location most closely. -/
def owner? (index : Index) (l : Location) : Option Project :=
  (l.deepestContaining (index.known.map (·.root)) true).bind fun root =>
    index.known.find? fun p => p.root.same root

/-- What a compiler needs to know about a location. -/
def buildInfo? (index : Index) (l : Location) : Option BuildInfo :=
  (index.owner? l).bind fun p =>
    (p.configurationFor? l).map fun c => c.buildInfo p.root index.settings.dedupeIncludeDirectories

/-- A location as queries take it: an absolute one as it is written, any other resolved. -/
def queried (disk : Disk) (l : Location) : Except ResolveFault Location :=
  if l.isAbsolute then .ok l else disk.resolve l

end Index

end AutomationIndex
