import AutomationIndex.Disk.Way

/-! Resolved locations: absolute, without links, and with home directories filled in. -/

namespace AutomationIndex

/-- Why a location cannot be resolved. -/
inductive ResolveFault where
  | noHome
  | linkLoop (path : String)
  | nullCharacter
  deriving DecidableEq, Repr

/-- The wording of a fault. -/
def ResolveFault.message : ResolveFault → String
  | noHome => "Could not determine home directory."
  | linkLoop path => "Symlink loop from " ++ Text.quoted path
  | nullCharacter => DiskCause.nullCharacter.message

namespace Disk

/-- The location of a place. -/
def locationOf (place : Place) : Location :=
  ⟨.posix, "", "/", place⟩

/-- Replaces the links on a way by what they stand for; names that lead nowhere stay. A link that is
being replaced already stops this, and the rest of the way stays as it is. -/
def resolveNames (root : Node) (openLinks : List Place)
    (onLink : List Place → Place → List String → Place × Bool) :
    Place → List String → Place × Bool
  | here, [] => (here, true)
  | here, name :: names =>
    if name == "." then resolveNames root openLinks onLink here names
    else if name == ".." then resolveNames root openLinks onLink here.dropLast names
    else
      let next := here ++ [name]
      match root.at? next with
      | some (.link target) =>
        -- The link leads back to itself, so nothing after it can be followed.
        if openLinks.contains next then (next ++ names, false)
        else
          match onLink (next :: openLinks) (targetStart here target) (targetNames target) with
          | (place, true) => resolveNames root openLinks onLink place names
          | (place, false) => (place ++ names, false)
      | _ => resolveNames root openLinks onLink next names

/-- Replaces the links on a way, which are nested at most so deep. -/
def resolveLinks (root : Node) : Nat → List Place → Place → List String → Place × Bool
  | 0, openLinks => resolveNames root openLinks fun _ here names => (here ++ names, false)
  | depth + 1, openLinks => resolveNames root openLinks (resolveLinks root depth)

/-- The names of a way without dots: a double dot takes back the name before it. -/
def plainNames (names : List String) : Place :=
  names.foldl step []
where
  /-- Takes one more name into account. -/
  step (place : Place) (name : String) : Place :=
    if name == "." then place else if name == ".." then place.dropLast else place ++ [name]

/-- The place that a location stands for, whether or not there is anything. -/
def resolvePlace (disk : Disk) (l : Location) : Place :=
  plainNames (resolveLinks disk.root (disk.root.links + 1) []
    (if l.root == "" then disk.working else []) l.segments).1

/-- The absolute location without links that a location stands for. -/
def resolve (disk : Disk) (l : Location) : Except ResolveFault Location :=
  if l.text.toList.contains (Char.ofNat 0) then .error .nullCharacter
  else
    let resolved := locationOf (disk.resolvePlace l)
    match disk.find resolved with
    -- Names that lead nowhere are kept, but a loop is refused.
    | .error .tooManyLinks => .error (.linkLoop resolved.text)
    | _ => .ok resolved

/-- The home directory that a name stands for which begins with a tilde. -/
def homeOf? (disk : Disk) (name : List Char) : Option String :=
  if name.isEmpty then some disk.home
  else (disk.accounts.find? fun account => account.1.toList == name).map (·.2)

/-- A location with the home directory in the place of a tilde at its start. -/
def expandHome (disk : Disk) (l : Location) : Except ResolveFault Location :=
  match l.root, l.segments with
  -- The rest of the way goes on below the home directory.
  | "", segment :: segments =>
    match segment.toList with
    | '~' :: name =>
      match disk.homeOf? name with
      | some home => .ok { Location.posix home with
          segments := (Location.posix home).segments ++ segments }
      | none => .error .noHome
    | _ => .ok l
  | _, _ => .ok l

/-- The resolved location of a directory that a user names. -/
def resolveNamed (disk : Disk) (l : Location) : Except ResolveFault Location := do
  disk.resolve (← disk.expandHome l)

end Disk

end AutomationIndex
