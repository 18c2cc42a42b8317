import AutomationIndex.Text.Blank
import AutomationIndex.Wildcard

/-! Ignore rules: which entries below a scanned directory a list of patterns leaves out. -/

namespace AutomationIndex.Scan

/-- A pattern, read: what it applies to and what it is compared with. -/
structure IgnoreRule where
  /-- Only directories are left out by the rule. -/
  directoriesOnly : Bool
  /-- The rule is compared with names and not with whole paths. -/
  byName : Bool
  /-- The written pattern without slashes at its ends. -/
  written : String
  deriving DecidableEq, Repr

/-- Reads a pattern; one of slashes only is no rule. -/
def IgnoreRule.ofText? (text : String) : Option IgnoreRule :=
  let chars := text.toList
  -- A slash on either end is not counted when asking whether the rule names a path.
  let core := (Text.dropEndWhile (· == '/') chars).dropWhile (· == '/')
  if core.isEmpty then none
  else some ⟨chars.getLast? == some '/', !core.contains '/', String.ofList core⟩

/-- The last field of a path that is written with slashes. -/
def entryName (path : String) : String :=
  String.ofList (path.toList.reverse.takeWhile (· != '/')).reverse

/-- Whether a rule leaves out an entry, given by its path below the scanned directory. -/
def IgnoreRule.drops (rule : IgnoreRule) (path : String) (isDirectory : Bool) : Bool :=
  if rule.directoriesOnly && !isDirectory then false
  else if rule.byName then Wildcard.fits (entryName path) rule.written
  else Wildcard.fits path rule.written || Wildcard.fits path ("*/" ++ rule.written)

/-- Whether any of the patterns leaves out an entry. -/
def isIgnored (path : String) (isDirectory : Bool) (patterns : List String) : Bool :=
  patterns.any fun pattern =>
    match IgnoreRule.ofText? pattern with
    | some rule => rule.drops path isDirectory
    | none => false

end AutomationIndex.Scan
