import AutomationIndex.Text.Blank
import AutomationIndex.Text.Case

/-! Locations: how a path is read, spelled, joined and taken apart in each of two path styles. -/

namespace AutomationIndex

/-- The two ways to write paths. -/
inductive PathStyle where
  /-- Slashes separate, and case counts. -/
  | posix
  /-- Backslashes and slashes separate, drives exist, and case does not count. -/
  | windows
  deriving DecidableEq, Repr

namespace PathStyle

/-- The separator that a style writes. -/
def separator : PathStyle → Char
  | posix => '/'
  | windows => '\\'

/-- Whether a style has drives in front of its roots. -/
def hasDrives : PathStyle → Bool
  | posix => false
  | windows => true

/-- The form of a part under which a style compares it. -/
def folded : PathStyle → String → String
  | posix, part => part
  | windows, part => Text.toSmall part

end PathStyle

/-- A path: an optional drive, an optional root, and the segments below them. -/
structure Location where
  style : PathStyle
  drive : String
  root : String
  segments : List String
  deriving DecidableEq, Repr

namespace Location

/-- Drive, root and the rest of a written path. -/
structure Anchored where
  drive : List Char
  root : List Char
  rest : List Char

/-- A posix root is one slash, or exactly two. -/
def splitPosixRoot (part : List Char) : Anchored :=
  let rest := part.dropWhile (· == '/')
  match part.length - rest.length with
  | 0 => ⟨[], [], part⟩
  -- Exactly two separators are a root of their own, three or more are one.
  | 2 => ⟨[], ['/', '/'], rest⟩
  | _ => ⟨[], ['/'], rest⟩

/-- Takes the extended path mark off a path that begins with two backslashes. -/
def splitExtendedMark (part : List Char) : List Char × List Char :=
  -- The mark of an extended path is set aside, and a share behind it is read as usual.
  if ['\\', '\\', '?', '\\'].isPrefixOf part then
    let rest := part.drop 4
    if ['U', 'N', 'C', '\\'].isPrefixOf rest then
      (part.take 4 ++ rest.take 3, '\\' :: rest.drop 3)
    else (part.take 4, rest)
  else ([], part)

/-- The share name and what follows it, of a path that names a machine and one of its shares. -/
def splitShare (part : List Char) : Option (List Char × List Char) :=
  match part with
  | '\\' :: '\\' :: after =>
    -- A third backslash leaves no room for the name of a machine.
    if after.head? == some '\\' then none
    else
      let machine := after.takeWhile (· != '\\')
      match after.drop machine.length with
      | [] => none
      | _ :: shared =>
        if shared.head? == some '\\' then none
        else
          let share := shared.takeWhile (· != '\\')
          some ('\\' :: '\\' :: machine ++ '\\' :: share, shared.drop (share.length + 1))
  | _ => none

/-- Splits a windows path, whose slashes are backslashes already. -/
def splitWindowsRoot (part : List Char) : Anchored :=
  let (mark, part) :=
    if ['\\', '\\'].isPrefixOf part then splitExtendedMark part else ([], part)
  match splitShare part with
  | some (share, rest) =>
    -- Behind the mark one of the two separators of the share is the mark's own.
    ⟨if mark.isEmpty then share else mark ++ share.drop 1, ['\\'], rest⟩
  | none =>
    let (drive, part) :=
      match part with
      | letter :: ':' :: rest => if letter.isAlpha then ([letter, ':'], rest) else ([], part)
      | _ => ([], part)
    -- Any number of separators behind the drive is one root.
    if part.head? == some '\\' then ⟨mark ++ drive, ['\\'], part.dropWhile (· == '\\')⟩
    else ⟨mark ++ drive, [], part⟩

/-- Splits a written path into drive, root and rest. -/
def splitRoot : PathStyle → List Char → Anchored
  | .posix, part => splitPosixRoot part
  | .windows, part => splitWindowsRoot (part.map fun c => if c == '/' then '\\' else c)

/-- The segments of a path below its root: empty ones and single dots do not count. -/
def segmentsOf (style : PathStyle) (rest : List Char) : List String :=
  ((Text.runsBetween (· == style.separator) rest).filter fun segment =>
    !segment.isEmpty && segment != ['.']).map String.ofList

/-- The drive of the first part that has one. -/
def firstDrive (style : PathStyle) : List String → String
  | [] => ""
  | part :: parts =>
    match (splitRoot style part.toList).drive with
    -- The parts come last to first: the drive that counts is the one written last.
    | [] => firstDrive style parts
    | drive => String.ofList drive

/-- Reads parts from the last to the first until one is anchored, with the segments found so far. -/
def ofReversedParts (style : PathStyle) : List String → List String → Location
  | [], segments => ⟨style, "", "", segments⟩
  | part :: parts, segments =>
    let anchored := splitRoot style part.toList
    let segments := segmentsOf style anchored.rest ++ segments
    match anchored.drive, anchored.root with
    | [], [] => ofReversedParts style parts segments
    -- A root without a drive stays on the drive of an earlier part.
    | [], root => ⟨style, firstDrive style parts, String.ofList root, segments⟩
    | drive, root => ⟨style, String.ofList drive, String.ofList root, segments⟩

/-- The location that parts written one after the other name: the last anchor counts. -/
def ofParts (style : PathStyle) (parts : List String) : Location :=
  ofReversedParts style parts.reverse []

/-- The location that a text names. -/
def ofText (style : PathStyle) (text : String) : Location :=
  ofParts style [text]

/-- A posix location. -/
def posix (text : String) : Location :=
  ofText .posix text

/-- Drive and root together. -/
def anchor (l : Location) : String :=
  l.drive ++ l.root

/-- Whether a location has a drive or a root. -/
def isAnchored (l : Location) : Bool :=
  l.drive != "" || l.root != ""

/-- The parts of a location: its anchor, if any, and its segments. -/
def parts (l : Location) : List String :=
  if l.isAnchored then l.anchor :: l.segments else l.segments

/-- The written form of a location; an empty one is a dot. -/
def text (l : Location) : String :=
  let written := l.anchor ++ l.style.separator.toString.intercalate l.segments
  if written == "" then "." else written

/-- The written form with slashes only. -/
def slashText (l : Location) : String :=
  Text.replaceChar l.style.separator '/' l.text

/-- The parts as the style compares them. -/
def foldedParts (l : Location) : List String :=
  l.parts.map l.style.folded

/-- Whether two locations count as the same. -/
def same (a b : Location) : Bool :=
  a.style == b.style && a.foldedParts == b.foldedParts

/-- Whether a location comes no later than another in the order of parts. -/
def notAfter (a b : Location) : Bool :=
  !decide (b.foldedParts < a.foldedParts)

/-- Whether a location does not depend on a working directory. -/
def isAbsolute (l : Location) : Bool :=
  l.root != "" && (!l.style.hasDrives || l.drive != "")

/-- The enclosing location; an anchor and the empty location enclose themselves. -/
def parent (l : Location) : Location :=
  { l with segments := l.segments.dropLast }

/-- The last segment, or nothing. -/
def name (l : Location) : String :=
  l.segments.getLast?.getD ""

/-- The characters of a name before and from its last dot, where the dot is inside the name. -/
def splitName (name : List Char) : Option (List Char × List Char) :=
  let ending := (name.reverse.takeWhile (· != '.')).reverse
  if ending.isEmpty || ending.length + 1 ≥ name.length then none
  else some (name.take (name.length - ending.length - 1), '.' :: ending)

/-- The last dot of the name and what follows it, or nothing. -/
def suffix (l : Location) : String :=
  match splitName l.name.toList with
  | some (_, ending) => String.ofList ending
  | none => ""

/-- The name without its suffix. -/
def stem (l : Location) : String :=
  match splitName l.name.toList with
  | some (stem, _) => String.ofList stem
  | none => l.name

/-- Appends a location that was read by itself: an anchored one replaces what it can. -/
def append (a b : Location) : Location :=
  if b.root != "" then
    -- A rooted path leaves everything behind but the drive.
    if b.drive == "" && a.drive != "" then { b with drive := a.drive } else b
  else if b.drive != "" then
    if a.style.folded b.drive == a.style.folded a.drive then
      { a with segments := a.segments ++ b.segments }
    else b
  else { a with segments := a.segments ++ b.segments }

/-- Appends parts, which are read together first. -/
def joinParts (l : Location) (parts : List String) : Location :=
  l.append (ofParts l.style parts)

/-- Appends one written path. -/
def join (l : Location) (part : String) : Location :=
  l.joinParts [part]

instance : HDiv Location String Location := ⟨join⟩

end Location

end AutomationIndex
