import AutomationIndex.Disk.Way
import AutomationIndex.Scan.Ignore

/-! Scanning directories for files by name, with what is ignored left out. -/

namespace AutomationIndex.Scan

/-- What a scan looks for and what it leaves out. -/
structure Search where
  /-- Which names of files are looked for. -/
  patterns : List String
  /-- What is left out, by patterns for paths below the scanned directory. -/
  ignorePatterns : List String := []
  /-- Directories that are left out beside a file that is looked for. -/
  pruned : List String := []

/-- What every scan leaves out. -/
def alwaysIgnored : List String :=
  [".git/", ".svn/", ".hg/", "__pycache__/", ".vscode/"]

namespace Search

/-- Whether an entry is left out, given the names that lead to it. -/
def leavesOut (search : Search) (names : List String) (isDirectory : Bool) : Bool :=
  isIgnored ("/".intercalate names) isDirectory (search.ignorePatterns ++ alwaysIgnored)

/-- Whether a name is looked for. -/
def wants (search : Search) (name : String) : Bool :=
  search.patterns.any fun pattern => Wildcard.fits name pattern

end Search

/-- Whether an entry counts as a directory. A link counts as what it leads to, and as a file where
nothing is there; with any other fault on its way it does not count at all. -/
def countsAsDirectory? (disk : Disk) (l : Location) : Node → Option Bool
  | .directory _ => some true
  | .file _ => some false
  | .link _ =>
    match disk.find l with
    | .ok ⟨_, .directory _⟩ => some true
    | .ok _ => some false
    -- A link to nothing is still a name that a pattern can match.
    | .error .notFound => some false
    | .error _ => none

/-- The names of a directory's entries that are not left out: directories or others. -/
def keptNames (disk : Disk) (search : Search) (directory : Location) (names : List String)
    (directories : Bool) (entries : List (String × Node)) : List String :=
  (entries.filter fun (name, node) =>
    match countsAsDirectory? disk (directory.child name) node with
    -- What is neither file nor directory is passed over, and so is what cannot be told.
    | some isDirectory =>
      isDirectory == directories && !search.leavesOut (names ++ [name]) isDirectory
    | none => false).map (·.1)

/-- Runs a scan for each name and joins what it finds. -/
def joinScans (scan : String → Except DiskFault (List Location)) :
    List String → Except DiskFault (List Location)
  | [] => .ok []
  | name :: names => do
    let found ← scan name
    let others ← joinScans scan names
    return found ++ others

/-- The wanted files of a directory, in the order of their names, and then those of the directories
in it, in the same order. The names lead from the scanned directory to this one. -/
def scanDirectory (disk : Disk) (search : Search) :
    Nat → Location → List String → Except DiskFault (List Location)
  | 0, _, _ => .ok []
  | depth + 1, directory, names =>
    match disk.entriesOf directory with
    | .error .notFound => .ok []
    | .error .notDirectory => .ok []
    | .error cause => .error (Disk.faultAt directory cause)
    | .ok entries => do
      let files := (keptNames disk search directory names false entries).filter search.wants
      let inner := keptNames disk search directory names true entries
      -- Output directories are left out beside a file that was found, and nowhere else.
      let entered := if files.isEmpty then inner else inner.filter (!search.pruned.contains ·)
      let below ← joinScans (fun name =>
        scanDirectory disk search depth (directory.child name) (names ++ [name])) entered
      return files.map directory.child ++ below

/-- More levels than a scan can enter: between links, of which one way has only so many, it goes
down the tree. -/
def scanDepth (disk : Disk) : Nat :=
  (Disk.linkLimit + 1) * (disk.root.depth + 1) + 1

/-- The files that a search finds below a directory. -/
def scan (disk : Disk) (search : Search) (root : Location) : Except DiskFault (List Location) :=
  scanDirectory disk search (scanDepth disk) root []

end AutomationIndex.Scan
