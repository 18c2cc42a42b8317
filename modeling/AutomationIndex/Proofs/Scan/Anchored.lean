import AutomationIndex.Proofs.Scan.Exact

/-! Patterns with a slash in front: what they are compared with, and what a scan passes over for
them. -/

namespace AutomationIndex

namespace Wildcard

/-- A star and a slash before a pattern pass over what stands before some slash. -/
theorem fits_passing_iff {path core : String} : fits path ("*/" ++ core) = true ↔
    ∃ outer inner, path = outer ++ "/" ++ inner ∧ fits inner core = true := by
  have pieces : piecesOf ("*/" ++ core).toList = .anyRun :: .literal '/' :: piecesOf core.toList := by
    rw [String.toList_append]
    change piecesOf ('*' :: '/' :: core.toList) = _
    rw [piecesOf, piecesOf] <;> simp
  simp only [fits_iff, pieces, matches_run_iff]
  constructor
  · rintro ⟨ending, ⟨skipped, whole⟩, later⟩
    -- The ending begins with the slash that the pattern asks for.
    cases ending with
    | nil => exact absurd later (not_matches_nil (by simp))
    | cons c text =>
      obtain ⟨slash, later⟩ := (matches_cons_iff (by simp)).mp later
      have slash : '/' = c := by simpa [Piece.accepts] using slash
      refine ⟨String.ofList skipped, String.ofList text, ?_, by simpa using later⟩
      rw [← String.toList_inj, ← whole, slash.symm]
      simp
  · rintro ⟨outer, inner, rfl, later⟩
    refine ⟨'/' :: inner.toList, ⟨outer.toList, by simp⟩, ?_⟩
    exact (matches_cons_iff (by simp)).mpr ⟨by simp [Piece.accepts], later⟩

end Wildcard

namespace Scan

/-- Whether a text is a pattern without slashes at its ends. -/
structure IsBare (core : String) : Prop where
  nonempty : core.toList ≠ []
  head : core.toList.head? ≠ some '/'
  last : core.toList.getLast? ≠ some '/'

/-- Whether a pattern fits a path from its first name on. A pattern for names does so only for paths
of one name. -/
def FitsFromStart (core path : String) : Prop :=
  ('/' ∉ core.toList → '/' ∉ path.toList) ∧ Wildcard.fits path core = true

/-- Whether a pattern fits what comes after a slash of a path. A pattern for names does so only for
the last name. -/
def FitsFurtherDown (core path : String) : Prop :=
  ∃ outer inner, path = outer ++ "/" ++ inner ∧ ('/' ∉ core.toList → '/' ∉ inner.toList) ∧
    Wildcard.fits inner core = true

variable {core path : String}

/-- A slash in front of a pattern is no part of its rule. -/
theorem ofText?_slash (text : String) :
    IgnoreRule.ofText? ("/" ++ text) = IgnoreRule.ofText? text := by
  have chars : ("/" ++ text).toList = '/' :: text.toList := by simp
  -- A text of slashes only is no rule, and any other one ends where it did.
  have core : (Text.dropEndWhile (· == '/') ('/' :: text.toList)).dropWhile (· == '/') =
      (Text.dropEndWhile (· == '/') text.toList).dropWhile (· == '/') := by
    rw [Text.dropEndWhile, List.reverse_cons, List.dropWhile_append, Text.dropEndWhile]
    split
    · rename_i none
      rw [List.isEmpty_iff] at none
      simp [none]
    · simp
  simp only [IgnoreRule.ofText?, chars, core]
  split
  · rfl
  · rename_i some
    -- The text is not empty, so it ends as it did.
    cases read : text.toList with
    | nil => simp [read, Text.dropEndWhile] at some
    | cons c rest => rw [List.getLast?_cons_cons]

/-- A pattern without slashes at its ends is what its rule compares with, and a slash at the end makes
it a rule for directories. -/
theorem ofText?_bare (bare : IsBare core) :
    IgnoreRule.ofText? core = some ⟨false, !core.toList.contains '/', core⟩ ∧
      IgnoreRule.ofText? (core ++ "/") = some ⟨true, !core.toList.contains '/', core⟩ := by
  -- A bare core neither begins nor ends in a separator, so trimming the pattern gives it back.
  have ended : Text.dropEndWhile (· == '/') core.toList = core.toList := by
    rw [Text.dropEndWhile, List.reverse_eq_iff, List.dropWhile_eq_self_iff]
    intro some
    have last := bare.last
    rw [← List.head?_reverse, List.head?_eq_getElem?, List.getElem?_eq_getElem some] at last
    simpa using last
  have closed : Text.dropEndWhile (· == '/') (core ++ "/").toList = core.toList := by
    rw [← ended]
    simp [Text.dropEndWhile]
  have opened : core.toList.dropWhile (· == '/') = core.toList := by
    rw [List.dropWhile_eq_self_iff]
    intro some
    have head := bare.head
    rw [List.head?_eq_getElem?, List.getElem?_eq_getElem some] at head
    simpa using head
  constructor
  · simp only [IgnoreRule.ofText?, ended, opened]
    simp [bare.nonempty, bare.last]
  · simp only [IgnoreRule.ofText?, closed, opened]
    simp [bare.nonempty]

/-- What comes after the last slash of a path is its last name. -/
theorem entryName_joined {inner : String} (apart : '/' ∉ inner.toList) (outer : String) :
    entryName (outer ++ "/" ++ inner) = inner := by
  have named := entryName_intercalate apart [outer]
  rwa [String.intercalate_append_of_ne_nil (by simp) (by simp), String.intercalate_singleton,
    String.intercalate_singleton] at named

/-- A path without slashes is a name. -/
theorem entryName_single (apart : '/' ∉ path.toList) : entryName path = path := by
  have named := entryName_intercalate apart []
  rwa [List.nil_append, String.intercalate_singleton] at named

/-- A path with a slash has one after which no other comes. -/
theorem exists_last_slash (slash : '/' ∈ path.toList) :
    ∃ outer inner, path = outer ++ "/" ++ inner ∧ '/' ∉ inner.toList := by
  -- The last slash is the first one seen from behind.
  obtain ⟨after, before, whole, apart⟩ := List.eq_append_cons_of_mem (List.mem_reverse.mpr slash)
  refine ⟨String.ofList before.reverse, String.ofList after.reverse, ?_, by simpa using apart⟩
  rw [← String.toList_inj, ← List.reverse_inj, whole]
  simp

/-- The last name of a path fits a pattern for names exactly if it is the whole path and fits, or if
it fits further down. -/
theorem fits_entryName_iff (single : '/' ∉ core.toList) :
    Wildcard.fits (entryName path) core = true ↔
      FitsFromStart core path ∨ FitsFurtherDown core path := by
  simp only [FitsFromStart, FitsFurtherDown, single, not_false_eq_true, forall_const]
  by_cases slash : '/' ∈ path.toList
  · obtain ⟨before, last, whole, apart⟩ := exists_last_slash slash
    rw [whole, entryName_joined apart, ← whole]
    constructor
    · intro fitting
      exact .inr ⟨before, last, whole, apart, fitting⟩
    · rintro (⟨none, -⟩ | ⟨outer, inner, parted, alone, fitting⟩)
      · exact absurd slash none
      · -- Only one name comes after the last slash.
        rwa [← entryName_joined apart before, ← whole, parted, entryName_joined alone]
  · rw [entryName_single slash]
    refine ⟨fun fitting => .inl ⟨slash, fitting⟩, ?_⟩
    rintro (⟨-, fitting⟩ | ⟨outer, inner, rfl, -⟩)
    · exact fitting
    · simp at slash

/-- A rule leaves out what its pattern fits from the start or further down, of which a rule for
directories leaves out directories only. -/
theorem drops_iff {directoriesOnly isDirectory : Bool} :
    IgnoreRule.drops ⟨directoriesOnly, !core.toList.contains '/', core⟩ path isDirectory = true ↔
      (directoriesOnly = true → isDirectory = true) ∧
        (FitsFromStart core path ∨ FitsFurtherDown core path) := by
  have compared : (if !core.toList.contains '/' then Wildcard.fits (entryName path) core
      else Wildcard.fits path core || Wildcard.fits path ("*/" ++ core)) = true ↔
        FitsFromStart core path ∨ FitsFurtherDown core path := by
    by_cases slash : '/' ∈ core.toList
    · -- A pattern with slashes inside may fit across those of the path.
      simp [slash, FitsFromStart, FitsFurtherDown, Wildcard.fits_passing_iff]
    · simp [slash, fits_entryName_iff slash]
  rw [← compared]
  cases directoriesOnly <;> cases isDirectory <;> simp [IgnoreRule.drops]

/-- A single pattern is about what its rule leaves out. -/
theorem isIgnored_singleton {pattern : String} {rule : IgnoreRule} {isDirectory : Bool}
    (read : IgnoreRule.ofText? pattern = some rule) :
    isIgnored path isDirectory [pattern] = rule.drops path isDirectory := by
  simp [isIgnored, read]

/-- What a pattern with a slash in front is about, whatever stands behind the slash. The slash makes no
difference: the pattern is about all that it fits from the start and about all that it fits further
down, and with a slash at its end about directories only. So it is held to the start of a path exactly
where it fits this from its start or nothing further down, as in a path of one name. -/
theorem anchored_compared (bare : IsBare core) (path : String) (isDirectory : Bool) :
    (isIgnored path isDirectory ["/" ++ core] = true ↔
      FitsFromStart core path ∨ FitsFurtherDown core path) ∧
    (isIgnored path isDirectory ["/" ++ core ++ "/"] = true ↔
      isDirectory = true ∧ (FitsFromStart core path ∨ FitsFurtherDown core path)) ∧
    (∀ pattern, isIgnored path isDirectory ["/" ++ pattern] =
      isIgnored path isDirectory [pattern]) ∧
    ((isIgnored path isDirectory ["/" ++ core] = true → Wildcard.fits path core = true) ↔
      (FitsFurtherDown core path → Wildcard.fits path core = true)) ∧
    ('/' ∉ path.toList → (isIgnored path isDirectory ["/" ++ core] = true ↔
      Wildcard.fits path core = true)) := by
  obtain ⟨plain, closed⟩ := ofText?_bare bare
  -- The leading separator is gone before the rule is made, so it cannot hold the rule to the start.
  have first : isIgnored path isDirectory ["/" ++ core] = true ↔
      FitsFromStart core path ∨ FitsFurtherDown core path := by
    rw [isIgnored_singleton ((ofText?_slash core).trans plain), drops_iff]
    simp
  refine ⟨first, ?_, fun pattern => ?_, ?_, fun alone => ?_⟩
  · rw [String.append_assoc, isIgnored_singleton ((ofText?_slash _).trans closed), drops_iff]
    simp
  · simp only [isIgnored, List.any_cons, ofText?_slash]
  · rw [first]
    constructor
    -- What fits from the start fits as it is; the rest of the rule's hits are the further ones.
    · intro held further
      exact held (.inr further)
    · rintro held (start | further)
      · exact start.2
      · exact held further
  · rw [first]
    refine ⟨?_, fun fitting => .inl ⟨fun _ => alone, fitting⟩⟩
    -- A name without a separator has nothing further down.
    rintro (start | ⟨outer, inner, rfl, -⟩)
    · exact start.2
    · simp at alone

/-- A pattern that is written for the archive beside the projects is about every archive. -/
theorem anchored_compared_archive : IsBare "archive" ∧
    (∀ outer, isIgnored (outer ++ "/archive") true ["/archive/"] = true) ∧
      ∀ outer, isIgnored (outer ++ "/archive") false ["/archive/"] = false := by
  have bare : IsBare "archive" := ⟨by decide, by decide, by decide⟩
  -- Below any directory the name fits further down, and only a directory is asked for.
  have further (outer : String) : FitsFurtherDown "archive" (outer ++ "/archive") :=
    ⟨outer, "archive", by simp [String.append_assoc], fun _ => by decide, by decide +kernel⟩
  refine ⟨bare, fun outer => ?_, fun outer => ?_⟩
  · exact (anchored_compared bare (outer ++ "/archive") true).2.1.mpr ⟨rfl, .inr (further outer)⟩
  · rw [← Bool.not_eq_true]
    intro hit
    exact Bool.false_ne_true
      ((anchored_compared bare (outer ++ "/archive") false).2.1.mp hit).1

/-- The directory of an archive further down is ignored though its path does not fit. -/
theorem anchored_leaves_start : isIgnored "sub/archive" true ["/archive/"] = true ∧
    Wildcard.fits "sub/archive" "archive" = false := by
  decide +kernel

/-- A pattern for names with slashes around it hides, at any depth, all that lies in a directory whose
name it fits: a scan of a disk without links finds no file there. -/
theorem scan_passes_anchored {disk : Disk} {search : Search} {root : Location}
    (wellNamed : disk.isWellNamed = true) (unlinked : disk.root.LacksLinks) (bare : IsBare core)
    (single : '/' ∉ core.toList) (among : "/" ++ core ++ "/" ∈ search.ignorePatterns)
    {found : List Location} (scanned : scan disk search root = .ok found) :
    ∀ l ∈ found, ∃ outer name, l = root.below (outer ++ [name]) ∧
      ∀ directory ∈ outer, Wildcard.fits directory core = false := by
  obtain ⟨ways, rfl, -, members⟩ := scan_listed wellNamed unlinked scanned
  intro l listed
  obtain ⟨way, located, rfl⟩ := List.mem_map.mp listed
  obtain ⟨outer, name, bytes, rfl, -, -, -, entered⟩ := (members way).mp located
  refine ⟨outer, name, rfl, fun directory inside => ?_⟩
  obtain ⟨before, after, rfl⟩ := List.append_of_mem inside
  rw [← Bool.not_eq_true]
  intro fitting
  -- The scan would not have entered a directory that the pattern is about.
  have read : IgnoreRule.ofText? ("/" ++ core ++ "/") =
      some ⟨true, !core.toList.contains '/', core⟩ := by
    rw [String.append_assoc]
    exact (ofText?_slash _).trans (ofText?_bare bare).2
  refine (entered.2 before directory after rfl).1
    ⟨_, List.mem_append_left _ among, _, read, fun _ => rfl, ?_⟩
  simpa [IgnoreRule.IsAbout, single] using Wildcard.fits_iff.mp fitting

end Scan

end AutomationIndex
