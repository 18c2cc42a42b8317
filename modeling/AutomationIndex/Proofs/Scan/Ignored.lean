import AutomationIndex.Proofs.Wildcard
import AutomationIndex.Scan.Walk
import Mathlib.Data.List.TakeWhile

/-! What a search looks for and what it ignores, told by the texts that its patterns stand for. -/

namespace AutomationIndex.Scan

open Wildcard (Matches piecesOf)

/-- Whether a rule is about an entry, given the names that lead to it from the scanned directory: by
the last of these, or by the way along all of them, of which a first part may be passed over. -/
def IgnoreRule.IsAbout (rule : IgnoreRule) (way : List String) : Prop :=
  if rule.byName then
    ∃ name, way.getLast? = some name ∧ Matches (piecesOf rule.written.toList) name.toList
  else
    Matches (piecesOf rule.written.toList) ("/".intercalate way).toList ∨
      Matches (piecesOf ("*/" ++ rule.written).toList) ("/".intercalate way).toList

namespace Search

variable {search : Search}

/-- Whether a search is for files with a name. -/
def Seeks (search : Search) (name : String) : Prop :=
  ∃ pattern ∈ search.patterns, Matches (piecesOf pattern.toList) name.toList

/-- Whether a search ignores an entry: a rule is about it, which may be for directories only. -/
def Ignores (search : Search) (way : List String) (isDirectory : Bool) : Prop :=
  ∃ pattern ∈ search.ignorePatterns ++ alwaysIgnored, ∃ rule,
    IgnoreRule.ofText? pattern = some rule ∧
    (rule.directoriesOnly = true → isDirectory = true) ∧ rule.IsAbout way

/-- A name is wanted exactly if the search is for it. -/
theorem wants_iff {name : String} : search.wants name = true ↔ search.Seeks name := by
  simp only [wants, List.any_eq_true, Wildcard.fits_iff]
  rfl

end Search

/-- The last name of a way is that of its entry. -/
theorem entryName_intercalate {name : String} (apart : '/' ∉ name.toList) (outer : List String) :
    entryName ("/".intercalate (outer ++ [name])) = name := by
  have whole : (name.toList.reverse.takeWhile (· != '/')) = name.toList.reverse :=
    List.takeWhile_eq_self_iff.mpr fun c inside => by
      simpa using fun same : c = '/' => apart (same ▸ List.mem_reverse.mp inside)
  rw [entryName]
  by_cases first : outer = []
  · rw [first, List.nil_append, String.intercalate_singleton, whole, List.reverse_reverse,
      String.ofList_toList]
  · -- The slash before the name ends it, seen from behind.
    rw [String.intercalate_append_of_ne_nil first (by simp), String.intercalate_singleton]
    simp only [String.toList_append, List.reverse_append, List.append_assoc]
    rw [List.takeWhile_append, whole]
    simp

/-- An entry is left out exactly if the search ignores it. -/
theorem leavesOut_iff {search : Search} {outer : List String} {name : String}
    (apart : '/' ∉ name.toList) {isDirectory : Bool} :
    search.leavesOut (outer ++ [name]) isDirectory = true ↔
      search.Ignores (outer ++ [name]) isDirectory := by
  -- Both sides ask for some rule, so they are compared rule by rule.
  simp only [Search.leavesOut, isIgnored, List.any_eq_true, Search.Ignores]
  refine exists_congr fun pattern => and_congr_right fun _ => ?_
  cases IgnoreRule.ofText? pattern with
  | none => simp
  | some rule =>
    simp only [Option.some.injEq, exists_eq_left', IgnoreRule.drops, IgnoreRule.IsAbout,
      entryName_intercalate apart, List.getLast?_concat, ← Wildcard.fits_iff]
    cases rule.directoriesOnly <;> cases isDirectory <;> cases rule.byName <;> simp

end AutomationIndex.Scan
