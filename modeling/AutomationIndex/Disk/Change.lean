import AutomationIndex.Disk.Resolve

/-! Changes to a disk: writing, deleting, and working from another directory. -/

namespace AutomationIndex.Disk

/-- Whether something other than a directory stands on the way to a place. -/
def isBlocked (disk : Disk) (place : Place) : Bool :=
  (List.range place.length).any fun count =>
    -- Something other than a directory stands on the way to the place.
    match disk.root.at? (place.take count) with
    | some (.directory _) => false
    | none => false
    | some _ => true

/-- The place of an entry: links on the way to it are followed, the entry itself is not. -/
def entryPlace (disk : Disk) (l : Location) : Place :=
  match l.segments.getLast? with
  | some name => if name == ".." then disk.resolvePlace l else disk.resolvePlace l.parent ++ [name]
  | none => disk.resolvePlace l

/-- The disk with a node at a place. -/
def putAt (disk : Disk) (place : Place) (node : Node) : Disk :=
  { disk with root := Node.put node place disk.root }

/-- Writes a node at a location, with the directories on the way. A file takes the place that a link
stands for, a link its own, and a directory that is there stays. -/
def write (disk : Disk) (l : Location) (node : Node) : Except DiskFault Disk :=
  let place :=
    match node with
    -- A link is made in its own place, whatever stands there.
    | .link _ => disk.entryPlace l
    | _ => disk.resolvePlace l
  if disk.isBlocked place then .error (faultAt l .notDirectory)
  else
    match node, disk.root.at? place with
    | .directory _, some (.directory _) => .ok disk
    | .file _, some (.directory _) => .error (faultAt l .isDirectory)
    | node, _ => .ok (disk.putAt place node)

/-- Takes away what stands at a location, with all that is below it. -/
def delete (disk : Disk) (l : Location) : Except DiskFault Disk :=
  match disk.find l false with
  | .error cause => .error (faultAt l cause)
  | .ok _ => .ok { disk with root := Node.erase (disk.entryPlace l) disk.root }

/-- Works from another directory. -/
def workFrom (disk : Disk) (l : Location) : Except DiskFault Disk :=
  match disk.find l with
  | .error cause => .error (faultAt l cause)
  | .ok ⟨place, .directory _⟩ => .ok { disk with working := place }
  | .ok _ => .error (faultAt l .notDirectory)

end AutomationIndex.Disk
