import AutomationIndex.Location.Basic
import AutomationIndex.Text.Quoted

/-! Disks: trees of directories, files and symbolic links, and what can be wrong on a way. -/

namespace AutomationIndex

/-- What stands under a name on a disk. Nodes have no permissions: everything on a disk can be listed
and read. A file is meant to have fewer bytes than a parser takes in at once. -/
inductive Node where
  | file (bytes : List UInt8)
  /-- A symbolic link with the path that it stands for. -/
  | link (target : String)
  | directory (entries : List (String × Node))
  deriving Repr, Inhabited

/-- The names that lead from the top of a disk to a place, without links. -/
abbrev Place := List String

namespace Node

/-- The entries of a directory; there are none elsewhere. -/
def entries : Node → List (String × Node)
  | directory entries => entries
  | _ => []

/-- What a directory has under a name. -/
def child? (node : Node) (name : String) : Option Node :=
  (node.entries.find? fun entry => entry.1 == name).map (·.2)

/-- What stands at a place below a node. -/
def at? (node : Node) : Place → Option Node
  | [] => some node
  | name :: place => (node.child? name).bind fun child => child.at? place

/-- Sets the entry with a name. -/
def setEntry (name : String) (node : Node) (entries : List (String × Node)) :
    List (String × Node) :=
  (name, node) :: entries.filter fun entry => entry.1 != name

/-- Puts a node at a place, with the directories on the way. -/
def put (new : Node) : Place → Node → Node
  | [], _ => new
  | name :: place, node =>
    directory (setEntry name (put new place ((node.child? name).getD (directory []))) node.entries)

/-- Takes away what stands at a place. -/
def erase : Place → Node → Node
  | [], node => node
  | [name], node => directory (node.entries.filter fun entry => entry.1 != name)
  | name :: place, node =>
    match node.child? name with
    | some child => directory (setEntry name (erase place child) node.entries)
    | none => node

mutual

/-- How many levels of directories there are below a node. -/
def depth : Node → Nat
  | directory entries => depthOfEntries entries + 1
  | _ => 0

/-- How many levels of directories there are below the deepest entry. -/
def depthOfEntries : List (String × Node) → Nat
  | [] => 0
  | (_, node) :: entries => max (depth node) (depthOfEntries entries)

end

mutual

/-- The paths of the links at and below a node. -/
def targets : Node → List String
  | file _ => []
  | link target => [target]
  | directory entries => targetsOfEntries entries

/-- The paths of the links in entries. -/
def targetsOfEntries : List (String × Node) → List String
  | [] => []
  | (_, node) :: entries => targets node ++ targetsOfEntries entries

end

/-- How many links there are at and below a node. -/
def links (node : Node) : Nat :=
  (targets node).length

end Node

/-- A disk, and from where and for whom it is looked at. -/
structure Disk where
  root : Node := .directory []
  /-- The place where relative paths begin. -/
  working : Place := []
  /-- The home directory of the user. -/
  home : String := "/"
  /-- The home directories of other users. -/
  accounts : List (String × String) := []

/-- What can be wrong on the way to a place. A place where access is denied is not among the causes,
since nodes have no permissions; a reader of single files may still be denied. -/
inductive DiskCause where
  | notFound
  | notDirectory
  | isDirectory
  | nameTooLong
  | tooManyLinks
  | nullCharacter
  deriving DecidableEq, Repr

/-- The number and the wording of a cause. -/
def DiskCause.message : DiskCause → String
  | notFound => "[Errno 2] No such file or directory"
  | notDirectory => "[Errno 20] Not a directory"
  | isDirectory => "[Errno 21] Is a directory"
  | nameTooLong => "[Errno 36] File name too long"
  | tooManyLinks => "[Errno 40] Too many levels of symbolic links"
  | nullCharacter => "embedded null byte"

/-- Something wrong on the way that a written path leads. -/
structure DiskFault where
  cause : DiskCause
  path : String
  deriving DecidableEq, Repr

/-- The wording of a fault. -/
def DiskFault.message (fault : DiskFault) : String :=
  match fault.cause with
  | .nullCharacter => fault.cause.message
  | cause => cause.message ++ ": " ++ Text.quoted fault.path

end AutomationIndex
