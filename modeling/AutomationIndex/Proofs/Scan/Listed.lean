import AutomationIndex.Proofs.Scan.Exact

/-! Searches in directories that hold their entries in the order of the names: nothing has to be put
in order, so a search goes through the entries as they stand. -/

namespace AutomationIndex

variable {disk : Disk} {directory : Location} {place : Place} {entries : List (String × Node)}

/-- Whether a location leads to a directory that holds its entries in the order of their names. -/
structure Disk.HoldsInOrder (disk : Disk) (directory : Location) (entries : List (String × Node)) :
    Prop where
  leads : ∃ place, disk.find directory = .ok ⟨place, .directory entries⟩
  ordered : entries.Pairwise fun a b => a.1 ≤ b.1

/-- Such a directory is listed as it stands. -/
theorem Disk.HoldsInOrder.entriesOf (holds : disk.HoldsInOrder directory entries) :
    disk.entriesOf directory = .ok entries := by
  obtain ⟨⟨place, located⟩, ordered⟩ := holds
  exact entriesOf_inOrder located ordered

namespace Scan

/-- Locations in order stay as they are when they are sorted. -/
theorem sorted_eq_self {locations : List Location}
    (ordered : locations.Pairwise fun a b => a.notAfter b = true) : sorted locations = locations :=
  List.mergeSort_of_pairwise ordered

/-- A scan gives the wanted files of a directory, and then what it finds below the directories that
it enters. -/
theorem scanDirectory_inOrder {search : Search} {depth : Nat} {names : List String}
    {below : List Location} (files inner : List String)
    (holds : disk.HoldsInOrder directory entries)
    (wanted : (keptNames disk search directory names false entries).filter search.wants = files)
    (entered : (if files.isEmpty then keptNames disk search directory names true entries
      else (keptNames disk search directory names true entries).filter
        (!search.pruned.contains ·)) = inner)
    (found : joinScans (fun name => scanDirectory disk search depth (directory.child name)
      (names ++ [name])) inner = .ok below) :
    scanDirectory disk search (depth + 1) directory names =
      .ok (files.map directory.child ++ below) := by
  subst wanted entered
  simp only [scanDirectory, holds.entriesOf, found]
  rfl

/-- A search for names at any depth finds what a scan does, if this is in order and nothing is listed to
be ignored. -/
theorem findFiles_scanned (name : String) {omissions : Omissions} {found : List Location}
    (holds : disk.HoldsInOrder directory entries) (proper : isNamePattern name = true)
    (unlisted : gitignorePatterns disk directory = .ok [])
    (scanned : scan disk ⟨[name], omissions.ignorePatterns, omissions.outputDirectories⟩ directory =
      .ok found) (ordered : found.Pairwise fun a b => a.notAfter b = true) :
    findFiles disk omissions directory ("**/" ++ name) = .ok found := by
  -- An empty list of ignore patterns changes neither what is scanned nor what is sorted.
  obtain ⟨place, located⟩ := holds.leads
  refine (findFiles_anyDepth_iff proper).mpr (.inr ⟨Disk.isDirectory_true_iff.mpr ⟨_, _, located⟩,
    findNamed_ok_iff.mpr ⟨[], found, ?_, ?_, sorted_eq_self ordered⟩⟩)
  · rw [unlisted, ite_self]
  · rw [List.append_nil]
    exact scanned

/-- A search for a pattern goes through the entries that it fits, and keeps the files that the rest of
the path leads to. -/
theorem findFiles_selected {pattern path : String} {rest : List GlobPart} {omissions : Omissions}
    {files : List Location} (here found : List Location)
    (holds : disk.HoldsInOrder directory entries)
    (byPath : namePattern? path = none) (read : Glob.parts path = .ok (.matching pattern :: rest))
    (matched : Glob.collect (fun (entry : String × Node) => do
      let l := directory.child entry.1
      let kept ← if !rest.isEmpty then Glob.enterable disk l entry.2 else .ok true
      return if kept && Wildcard.fits entry.1 pattern then [l] else []) entries = .ok here)
    (led : Glob.collect (Glob.select disk rest) here = .ok found)
    (kept : Glob.collect (fun l => do return if ← disk.isFile l then [l] else []) found = .ok files)
    (ordered : files.Pairwise fun a b => a.notAfter b = true) :
    findFiles disk omissions directory path = .ok files := by
  -- The directory is listed in the order given, so each stage of the search is the one supplied.
  obtain ⟨place, located⟩ := holds.leads
  have asked : disk.isDirectory directory = .ok true := Disk.isDirectory_true_iff.mpr ⟨_, _, located⟩
  have listed : Glob.matchingEntries disk directory pattern (!rest.isEmpty) = .ok here := by
    rw [Glob.matchingEntries, holds.entriesOf]
    exact matched
  have selected : Glob.find disk (.matching pattern :: rest) directory = .ok found := by
    simp [Glob.find, Glob.select, asked, listed, led, bind, Except.bind]
  simp only [findFiles, findByPath, byPath, read, exceptBind_ok_iff, mapError_ok_iff]
  refine ⟨true, asked, ?_⟩
  simp only [if_true, mapError_ok_iff, exceptBind_ok_iff]
  exact ⟨_, rfl, found, selected, files, kept, by rw [sorted_eq_self ordered]; rfl⟩

end Scan

end AutomationIndex
