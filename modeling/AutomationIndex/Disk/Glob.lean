import AutomationIndex.Disk.Way
import AutomationIndex.Wildcard

/-! Finding locations by a written path with patterns for names in it. -/

namespace AutomationIndex

/-- A part of a path pattern. -/
inductive GlobPart where
  /-- The directory itself and every directory below it. -/
  | anyDepth
  /-- Every entry whose name matches a pattern. -/
  | matching (pattern : String)
  /-- The entry with a name. -/
  | named (name : String)
  /-- Nothing more: what came before must be directories. -/
  | directoryOnly
  deriving DecidableEq, Repr

/-- Why a text is no path pattern. -/
inductive GlobFault where
  | empty
  | absolute
  | noParts
  | partlyAnyDepth
  deriving DecidableEq, Repr

/-- The wording of a fault. -/
def GlobFault.message : GlobFault → String
  | empty => "Unacceptable pattern: ''"
  | absolute => "Non-relative patterns are unsupported"
  | noParts => "tuple index out of range"
  | partlyAnyDepth => "Invalid pattern: '**' can only be an entire path component"

namespace Glob

/-- The part that a segment of a path pattern is. -/
def partOf (segment : String) : Except GlobFault GlobPart :=
  let chars := segment.toList
  if segment == "**" then .ok .anyDepth
  -- Two asterisks next to others in one segment are refused, never read as one.
  else if Text.occursIn ['*', '*'] chars then .error .partlyAnyDepth
  -- A segment without a wildcard is looked up by name, which no listing of the directory is needed
  -- for.
  else if chars.any fun c => c == '*' || c == '?' || c == '[' then .ok (.matching segment)
  else .ok (.named segment)

/-- The parts of segments. -/
def partsOf : List String → Except GlobFault (List GlobPart)
  | [] => .ok []
  | segment :: segments => do
    let part ← partOf segment
    let parts ← partsOf segments
    return part :: parts

/-- The parts of a written path pattern. -/
def parts (text : String) : Except GlobFault (List GlobPart) :=
  let path := Location.posix text
  if text == "" then .error .empty
  else if path.root != "" then .error .absolute
  else
    -- A separator at the end asks for directories.
    let closed := text.toList.getLast? == some '/'
    match path.segments, closed with
    | [], false => .error .noParts
    | segments, _ => do
      return (← partsOf segments) ++ if closed then [.directoryOnly] else []

/-- Collects what is found for each element. -/
def collect {α β : Type} (f : α → Except DiskFault (List β)) : List α → Except DiskFault (List β)
  | [] => .ok []
  | a :: rest => do
    let found ← f a
    let others ← collect f rest
    return found ++ others

/-- A directory and all directories below it that are no links. -/
def directoriesFrom (disk : Disk) : Nat → Location → Except DiskFault (List Location)
  | 0, l => .ok [l]
  | depth + 1, l =>
    match disk.entriesOf l with
    | .error cause => .error (Disk.faultAt l cause)
    | .ok entries => do
      -- Links are listed and not entered, so the walk ends on any disk.
      let inner := entries.filter fun (_, node) =>
        match node with
        | .directory _ => true
        | _ => false
      let below ← collect (fun (name, _) => directoriesFrom disk depth (l.child name)) inner
      return l :: below

/-- Whether an entry may be entered. -/
def enterable (disk : Disk) (l : Location) : Node → Except DiskFault Bool
  | .directory _ => .ok true
  | .file _ => .ok false
  | .link _ => disk.isDirectory l

/-- The entries of a directory whose names match a pattern, directories only where more follows. -/
def matchingEntries (disk : Disk) (l : Location) (pattern : String) (more : Bool) :
    Except DiskFault (List Location) :=
  match disk.entriesOf l with
  | .error cause => .error (Disk.faultAt l cause)
  | .ok entries =>
    collect (fun (name, node) => do
      let here := l.child name
      -- Only where more of the pattern follows does the kind of the entry matter.
      let kept ← if more then enterable disk here node else .ok true
      return if kept && Wildcard.fits name pattern then [here] else []) entries

/-- What the parts of a path pattern lead to from a directory. -/
def select (disk : Disk) : List GlobPart → Location → Except DiskFault (List Location)
  | [], l => .ok [l]
  | .directoryOnly :: _, l => .ok [l]
  | .named name :: rest, l => do
    let here := l.child name
    let found ← if rest.isEmpty then disk.exists? here else disk.isDirectory here
    if found then select disk rest here else return []
  | .matching pattern :: rest, l => do
    let here ← matchingEntries disk l pattern (!rest.isEmpty)
    collect (select disk rest) here
  | .anyDepth :: rest, l => do
    let here ← directoriesFrom disk (disk.root.depth + 1) l
    let found ← collect (select disk rest) here
    -- Directories at several depths may lead to one location.
    return found.eraseDups

/-- What the parts of a path pattern lead to from a location, which must be a directory. -/
def find (disk : Disk) (parts : List GlobPart) (base : Location) :
    Except DiskFault (List Location) := do
  if ← disk.isDirectory base then select disk parts base else return []

end Glob

end AutomationIndex
