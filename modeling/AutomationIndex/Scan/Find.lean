import AutomationIndex.Disk.Glob
import AutomationIndex.Scan.IgnoreFile
import AutomationIndex.Scan.Walk
import AutomationIndex.Settings.Basic

/-! Finding files by a pattern: a scan for names at any depth, or a path pattern. -/

namespace AutomationIndex

/-- Why a search for files fails. -/
inductive SearchFault where
  | disk (fault : DiskFault)
  | pattern (fault : GlobFault)
  deriving DecidableEq, Repr

/-- The wording of a fault. -/
def SearchFault.message : SearchFault → String
  | disk fault => fault.message
  | pattern fault => fault.message

/-- What a search for names at any depth leaves out. -/
structure Omissions where
  ignorePatterns : List String := []
  respectGitignore : Bool := true
  outputDirectories : List String := []

/-- What settings leave out of a search. -/
def ScanSettings.omissions (scan : ScanSettings) : Omissions :=
  ⟨scan.ignorePatterns, scan.respectGitignore, scan.outputDirectories⟩

namespace Scan

/-- Locations in the order of their parts. -/
def sorted (locations : List Location) : List Location :=
  locations.mergeSort Location.notAfter

/-- The name pattern of a pattern for names at any depth. -/
def namePattern? (pattern : String) : Option String :=
  match pattern.toList with
  | '*' :: '*' :: '/' :: name =>
    -- Only a single name after the two asterisks goes through the walk, which honours the
    -- omissions.
    if name.isEmpty || name.contains '/' then none else some (String.ofList name)
  | _ => none

/-- The files at any depth whose names match a pattern, with what is left out, in order. -/
def findNamed (disk : Disk) (omissions : Omissions) (base : Location) (name : String) :
    Except DiskFault (List Location) := do
  -- Only the ignore file of the searched directory itself counts.
  let listed ← if omissions.respectGitignore then gitignorePatterns disk base else .ok []
  let found ← scan disk ⟨[name], omissions.ignorePatterns ++ listed, omissions.outputDirectories⟩
    base
  return sorted found

/-- The files that a path pattern leads to, in order. -/
def findByPath (disk : Disk) (base : Location) (pattern : String) :
    Except SearchFault (List Location) := do
  let parts ← (Glob.parts pattern).mapError SearchFault.pattern
  let found ← (Glob.find disk parts base).mapError SearchFault.disk
  -- The pattern may meet directories too: only files are kept.
  let files ← (Glob.collect (fun l => do return if ← disk.isFile l then [l] else []) found).mapError
    SearchFault.disk
  return sorted files

/-- The files below a directory that match a pattern, in order. -/
def findFiles (disk : Disk) (omissions : Omissions) (base : Location) (pattern : String) :
    Except SearchFault (List Location) := do
  -- A base that is missing, or is no directory, is an empty search.
  if ← (disk.isDirectory base).mapError SearchFault.disk then
    match namePattern? pattern with
    | some name => (findNamed disk omissions base name).mapError SearchFault.disk
    | none => findByPath disk base pattern
  else return []

end Scan

end AutomationIndex
