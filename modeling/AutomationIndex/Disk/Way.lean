import AutomationIndex.Disk.Basic

/-! Ways on a disk: where a path leads, links included. -/

namespace AutomationIndex

/-- What was found at the end of a way. -/
structure Found where
  place : Place
  node : Node

namespace Disk

/-- The most links that are followed on one way. -/
def linkLimit : Nat := 40

/-- The most bytes of a name. -/
def nameLimit : Nat := 255

/-- The most bytes of a written path. -/
def pathLimit : Nat := 4095

/-- The names of the path that a link stands for. A slash at its end asks for a directory, as a dot
does. -/
def targetNames (target : String) : List String :=
  let fields := Text.fields '/' target
  fields.filter (· != "") ++ if fields.getLast? == some "" then ["."] else []

/-- Where the path of a link begins. -/
def targetStart (here : Place) (target : String) : Place :=
  if target.toList.head? == some '/' then [] else here

/-- Follows names from a place. A link is left to the given continuation, unless it comes last and
links are not followed there. -/
def followNames (root : Node) (lastLink : Bool)
    (onLink : Place → List String → Except DiskCause Found) :
    Place → List String → Except DiskCause Found
  | here, [] =>
    match root.at? here with
    | some node => .ok ⟨here, node⟩
    | none => .error .notFound
  | here, name :: names =>
    match root.at? here with
    | none => .error .notFound
    | some (.directory entries) =>
      if name == "." then followNames root lastLink onLink here names
      else if name == ".." then followNames root lastLink onLink here.dropLast names
      else if name.utf8ByteSize > nameLimit then .error .nameTooLong
      else
        match (Node.directory entries).child? name with
        | none => .error .notFound
        | some (.link target) =>
          -- The link itself is wanted, not what it stands for.
          if names.isEmpty && !lastLink then .ok ⟨here ++ [name], .link target⟩
          else onLink (targetStart here target) (targetNames target ++ names)
        | some _ => followNames root lastLink onLink (here ++ [name]) names
    -- Even a dot asks for a directory.
    | some _ => .error .notDirectory

/-- Follows names from a place, through at most so many links. -/
def followLinks (root : Node) (lastLink : Bool) :
    Nat → Place → List String → Except DiskCause Found
  | 0 => followNames root lastLink fun _ _ => .error .tooManyLinks
  | links + 1 => followNames root lastLink (followLinks root lastLink links)

/-- Where a location leads, or why it leads nowhere. -/
def find (disk : Disk) (l : Location) (lastLink : Bool := true) : Except DiskCause Found :=
  let text := l.text
  -- Both texts are refused before the system is asked anything about the disk.
  if text.toList.contains (Char.ofNat 0) then .error .nullCharacter
  else if text.utf8ByteSize > pathLimit then .error .nameTooLong
  else
    -- A relative location starts in the working directory, an absolute one at the top.
    followLinks disk.root lastLink linkLimit (if l.root == "" then disk.working else []) l.segments

/-- A cause on the way that a location leads. -/
def faultAt (l : Location) (cause : DiskCause) : DiskFault :=
  ⟨cause, l.text⟩

/-- Whether a cause only means that there is nothing. -/
def meansNothing : DiskCause → Bool
  | .nameTooLong => false
  | _ => true

/-- Whether a location leads to a node of a kind. A name that is too long is no answer. -/
def leadsTo (disk : Disk) (l : Location) (kind : Node → Bool) : Except DiskFault Bool :=
  match disk.find l with
  | .ok found => .ok (kind found.node)
  | .error cause => if meansNothing cause then .ok false else .error (faultAt l cause)

/-- Whether a location leads to a directory. -/
def isDirectory (disk : Disk) (l : Location) : Except DiskFault Bool :=
  disk.leadsTo l fun node =>
    match node with
    | .directory _ => true
    | _ => false

/-- Whether a location leads to a file. -/
def isFile (disk : Disk) (l : Location) : Except DiskFault Bool :=
  disk.leadsTo l fun node =>
    match node with
    | .file _ => true
    | _ => false

/-- Whether a location leads anywhere. -/
def exists? (disk : Disk) (l : Location) : Except DiskFault Bool :=
  disk.leadsTo l fun _ => true

/-- The entries of a directory, in the order of their names. -/
def entriesOf (disk : Disk) (l : Location) : Except DiskCause (List (String × Node)) :=
  match disk.find l with
  | .error cause => .error cause
  -- The order of a listing is not fixed by the system: the sorted one stands for it.
  | .ok ⟨_, .directory entries⟩ => .ok (entries.mergeSort fun a b => !decide (b.1 < a.1))
  | .ok _ => .error .notDirectory

end Disk

/-- The location of an entry of a directory. -/
def Location.child (l : Location) (name : String) : Location :=
  { l with segments := l.segments ++ [name] }

end AutomationIndex
