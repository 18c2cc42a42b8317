import AutomationIndex.Proofs.Disk.Tree
import AutomationIndex.Proofs.Location.Enclosure
import AutomationIndex.Proofs.Logged
import AutomationIndex.Scan.Find

/-! Where the files that a scan finds lie: below the scanned directory, under names of the disk. -/

namespace AutomationIndex

/-- Whether names lead from a directory to a file, names of entries on a well-named disk. -/
def Location.LiesUnder (disk : Disk) (directory file : Location) : Prop :=
  ∃ names, names ≠ [] ∧ file = directory.below names ∧
    (disk.isWellNamed = true → ∀ name ∈ names, isEntryName name = true)

namespace Scan

/-- What lies under an entry of a directory lies under the directory. -/
theorem liesUnder_child {disk : Disk} {directory file : Location} {name : String}
    (proper : disk.isWellNamed = true → isEntryName name = true)
    (under : (directory.child name).LiesUnder disk file) : directory.LiesUnder disk file := by
  -- The name of the directory joins the names below it.
  obtain ⟨names, _, rfl, ok⟩ := under
  refine ⟨name :: names, by simp, by simp [Location.below, Location.child], ?_⟩
  intro wellNamed other member
  rcases List.mem_cons.mp member with same | member
  · exact same ▸ proper wellNamed
  · exact ok wellNamed other member

/-- Whatever joined scans find, one of them does. -/
theorem joinScans_mem {scan : String → Except DiskFault (List Location)} {names : List String}
    {found : List Location} (joined : joinScans scan names = .ok found) {file : Location}
    (member : file ∈ found) : ∃ name ∈ names, ∃ part, scan name = .ok part ∧ file ∈ part := by
  -- The file is in the first part or in one of the later ones.
  induction names generalizing found with
  | nil =>
    cases joined
    simp at member
  | cons name rest ih =>
    simp only [joinScans, exceptBind_ok_iff, Pure.pure, Except.pure, Except.ok.injEq] at joined
    obtain ⟨first, scanned, others, joined, rfl⟩ := joined
    rcases List.mem_append.mp member with here | later
    · exact ⟨name, by simp, first, scanned, here⟩
    · obtain ⟨other, among, part⟩ := ih joined later
      exact ⟨other, by simp [among], part⟩

/-- The names that are kept are names of entries. -/
theorem keptNames_mem {disk : Disk} {search : Search} {directory : Location}
    {names : List String} {directories : Bool} {entries : List (String × Node)} {name : String}
    (kept : name ∈ keptNames disk search directory names directories entries) :
    ∃ entry ∈ entries, entry.1 = name := by
  simp only [keptNames, List.mem_map, List.mem_filter] at kept
  obtain ⟨entry, ⟨member, _⟩, named⟩ := kept
  exact ⟨entry, member, named⟩

/-- What a scan of a directory finds lies under the directory and has a wanted name. -/
theorem scanDirectory_found {disk : Disk} {search : Search} {depth : Nat} {directory : Location}
    {names : List String} {found : List Location}
    (scanned : scanDirectory disk search depth directory names = .ok found) :
    ∀ file ∈ found, directory.LiesUnder disk file ∧ search.wants file.name = true := by
  -- A file is either an entry of the directory or found in one of the directories that it holds.
  induction depth generalizing directory names found with
  | zero =>
    cases scanned
    simp
  | succ depth ih =>
    intro file member
    simp only [scanDirectory] at scanned
    split at scanned
    · cases scanned
      simp at member
    · cases scanned
      simp at member
    · simp at scanned
    · rename_i entries listed
      -- The names that a scan keeps are names of entries.
      have proper : ∀ {directories : Bool} {name : String},
          name ∈ keptNames disk search directory names directories entries →
            disk.isWellNamed = true → isEntryName name = true := by
        intro directories name kept wellNamed
        obtain ⟨entry, among, rfl⟩ := keptNames_mem kept
        exact (Disk.entriesOf_names wellNamed listed).2 entry among
      simp only [exceptBind_ok_iff, Pure.pure, Except.pure, Except.ok.injEq] at scanned
      obtain ⟨below, joined, rfl⟩ := scanned
      rcases List.mem_append.mp member with here | deeper
      · obtain ⟨name, wanted, rfl⟩ := List.mem_map.mp here
        obtain ⟨kept, wants⟩ := List.mem_filter.mp wanted
        refine ⟨⟨[name], by simp, rfl, ?_⟩, by simpa [Location.child, Location.name] using wants⟩
        intro wellNamed other single
        rw [List.mem_singleton.mp single]
        exact proper kept wellNamed
      · obtain ⟨name, entered, part, scanned, within⟩ := joinScans_mem joined deeper
        obtain ⟨under, wants⟩ := ih scanned file within
        -- A directory is entered only if its name is kept.
        have kept : name ∈ keptNames disk search directory names true entries := by
          split at entered
          · exact entered
          · exact List.mem_of_mem_filter entered
        exact ⟨liesUnder_child (proper kept) under, wants⟩

/-- A pattern for names asks for a scan of all depths, after the mark for any depth. -/
theorem namePattern?_anyDepth {pattern : String} (isName : isNamePattern pattern = true) :
    namePattern? ("**/" ++ pattern) = some pattern := by
  -- The pattern is not empty and holds no slash, so nothing keeps it from being a name.
  simp only [isNamePattern, Bool.and_eq_true, List.all_eq_true] at isName
  obtain ⟨nonempty, plain⟩ := isName
  have slashless : '/' ∉ pattern.toList := by
    intro member
    simpa using plain '/' member
  have chars : ("**/" ++ pattern).toList = '*' :: '*' :: '/' :: pattern.toList := by
    rw [String.toList_append]
    rfl
  have nonempty : pattern.toList.isEmpty = false := by simpa using nonempty
  simp [namePattern?, chars, nonempty, slashless]

/-- Sorting keeps the locations. -/
theorem mem_sorted {locations : List Location} {l : Location} :
    l ∈ sorted locations ↔ l ∈ locations :=
  (List.mergeSort_perm locations _).mem_iff

/-- Sorting puts locations in the order of their parts. -/
theorem sorted_pairwise (locations : List Location) :
    (sorted locations).Pairwise fun a b => a.notAfter b = true := by
  -- The parts of locations are ordered like words.
  apply List.pairwise_mergeSort
  · intro a b c first second
    simp only [Location.notAfter, Bool.not_eq_true', decide_eq_false_iff_not, List.not_lt] at *
    exact List.le_trans first second
  · intro a b
    simp only [Location.notAfter, Bool.or_eq_true, Bool.not_eq_true', decide_eq_false_iff_not,
      List.not_lt]
    exact List.le_total _ _

/-- A search by name scans the directory and sorts what the scan finds. -/
theorem findNamed_ok_iff {disk : Disk} {omissions : Omissions} {base : Location} {name : String}
    {found : List Location} : findNamed disk omissions base name = .ok found ↔
      ∃ listed scanned,
        (if omissions.respectGitignore then gitignorePatterns disk base else .ok []) = .ok listed ∧
        scan disk ⟨[name], omissions.ignorePatterns ++ listed, omissions.outputDirectories⟩ base =
          .ok scanned ∧ sorted scanned = found := by
  unfold findNamed
  cases omissions.respectGitignore <;> simp [exceptBind_ok_iff, Pure.pure, Except.pure]

/-- A search for names at any depth is the sorted scan of a directory. -/
theorem findFiles_anyDepth_iff {disk : Disk} {omissions : Omissions} {base : Location}
    {pattern : String} (isName : isNamePattern pattern = true) {found : List Location} :
    findFiles disk omissions base ("**/" ++ pattern) = .ok found ↔
      disk.isDirectory base = .ok false ∧ found = [] ∨
        disk.isDirectory base = .ok true ∧ findNamed disk omissions base pattern = .ok found := by
  -- Anything but a directory has no files below it.
  simp only [findFiles, namePattern?_anyDepth isName, exceptBind_ok_iff, mapError_ok_iff]
  constructor
  · rintro ⟨isDirectory, asked, searched⟩
    cases isDirectory with
    | false => exact Or.inl ⟨asked, by simpa [Pure.pure, Except.pure, eq_comm] using searched⟩
    | true => exact Or.inr ⟨asked, by simpa [mapError_ok_iff] using searched⟩
  · rintro (⟨asked, rfl⟩ | ⟨asked, searched⟩)
    · exact ⟨false, asked, rfl⟩
    · exact ⟨true, asked, by simpa [mapError_ok_iff] using searched⟩

/-- A search for names at any depth finds files under the directory that have such names. -/
theorem findFiles_anyDepth {disk : Disk} {omissions : Omissions} {base : Location}
    {pattern : String} (isName : isNamePattern pattern = true) {found : List Location}
    (searched : findFiles disk omissions base ("**/" ++ pattern) = .ok found) :
    ∀ file ∈ found, base.LiesUnder disk file ∧ Wildcard.fits file.name pattern = true := by
  -- A file found at any depth was found by the scan, in the tree below the base.
  intro file member
  rcases (findFiles_anyDepth_iff isName).mp searched with ⟨_, rfl⟩ | ⟨_, named⟩
  · simp at member
  · obtain ⟨listed, scanned, _, ran, rfl⟩ := findNamed_ok_iff.mp named
    obtain ⟨under, wants⟩ := scanDirectory_found ran file (mem_sorted.mp member)
    exact ⟨under, by simpa [Search.wants] using wants⟩

end Scan

end AutomationIndex
