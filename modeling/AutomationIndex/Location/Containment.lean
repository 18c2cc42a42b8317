import AutomationIndex.Location.Basic

/-! Containment of locations, and the relative and re-rooted spellings that follow from it. -/

namespace AutomationIndex.Location

/-- The location named by the written parts of another one. -/
def reread (l : Location) : Location :=
  ofParts l.style l.parts

/-- The parts of a location with drive and root apart, for comparing beginnings. -/
def steps (l : Location) : List String :=
  if l.root != "" then l.drive :: l.root :: l.segments else l.parts

/-- What is left of a location below a base, if it lies at or below the base. -/
def remainder? (l base : Location) : Option Location :=
  let base := (base.reread).steps
  let count := base.length
  let inside :=
    -- Below the empty base lies whatever has no anchor.
    if count == 0 then !l.isAnchored
    else (l.steps.take count).map l.style.folded == base.map l.style.folded
  if inside then
    -- A base that is a bare drive leaves the root to the rest.
    if count == 1 && l.root != "" then some { l with drive := "" }
    else some ⟨l.style, "", "", l.steps.drop count⟩
  else none

/-- Whether a location lies at or below a base. -/
def isWithin (l base : Location) : Bool :=
  (l.remainder? base).isSome

/-- Whether a location lies below a base and is not the base itself. -/
def isSubOf (base candidate : Location) : Bool :=
  !candidate.same base && candidate.isWithin base

/-- A location and all that enclose it, from the inside out. -/
def ancestors (l : Location) : List Location :=
  (List.range (l.segments.length + 1)).map fun climbed =>
    { l with segments := l.segments.take (l.segments.length - climbed) }

/-- How many levels to climb from a location until one encloses the target, and what is left of
the target there. -/
def climb? (target : Location) : List Location → Nat → Option (Nat × Location)
  | [], _ => none
  | base :: outer, ups =>
    match target.remainder? base with
    -- The rest below the first directory that contains the target, with the number of steps up to
    -- it.
    | some rest => some (ups, rest)
    | none => climb? target outer (ups + 1)

/-- Whether two locations hang below one anchor. -/
def sameAnchor (a b : Location) : Bool :=
  (ofText a.style a.anchor).same (ofText b.style b.anchor)

/-- The written path that leads from one location to another, where there is one. -/
def relativePath (source target : Location) : Option String :=
  if sameAnchor source target then
    match climb? target source.ancestors 0 with
    | some (ups, rest) =>
      match List.replicate ups ".." ++ rest.parts with
      -- Equal locations lead to each other by a dot.
      | [] => some "."
      | parts => some (ofParts target.style parts).text
    | none => none
  else none

/-- A target at or below a base, moved to the same place below a replacement. -/
def rebase (base target : Location) : Option Location → Location
  | none => target
  | some replacement =>
    match target.remainder? base with
    | some rest => replacement.joinParts rest.parts
    -- A target outside the base has nothing to be moved.
    | none => target

/-- The segments of a project's own path fragment: separators of both styles count, blanks around
segments and anchors do not, and a double dot takes back the segment before it. -/
def fragmentSegments (style : PathStyle) (fragment : String) : List String :=
  ((Text.fields '/' (Text.replaceChar '\\' '/' fragment)).map Text.strip).foldl step []
where
  /-- Takes one more segment of the fragment into account. -/
  step (kept : List String) (segment : String) : List String :=
    if segment == "" || segment == "." || (ofText style segment).isAnchored then kept
    else if segment == ".." then kept.dropLast
    else kept ++ [segment]

/-- A project's own path fragment below the project root, which it never leaves. -/
def joinProjectRelative (root : Location) (fragment : String) : Location :=
  root.joinParts (fragmentSegments root.style fragment)

/-- Whether a candidate contains a location, or equals it where that counts. -/
def contains (includeEqual : Bool) (candidate l : Location) : Bool :=
  candidate.isSubOf l || (includeEqual && candidate.same l)

/-- The deepest candidate that contains a location; the earliest of equally deep ones. -/
def deepestContaining (l : Location) (candidates : List Location) (includeEqual : Bool) :
    Option Location :=
  (candidates.filter fun candidate => candidate.contains includeEqual l).foldl deeper none
where
  /-- Keeps the best candidate so far unless the next one is deeper. -/
  deeper (best : Option Location) (candidate : Location) : Option Location :=
    match best with
    | none => some candidate
    | some kept => if candidate.parts.length > kept.parts.length then some candidate else best

end AutomationIndex.Location
