import AutomationIndex.Proofs.Disk.Reading
import AutomationIndex.Proofs.Location.Spelling
import AutomationIndex.Scan.Find

/-! Searches on disks that differ in what one file holds: they find the same files. -/

namespace AutomationIndex

namespace Glob

/-- Collecting comes to the same where it does so for elements that correspond. -/
theorem collect_congr {α β γ : Type} {f : α → Except DiskFault (List γ)}
    {g : β → Except DiskFault (List γ)} {first : List α} {second : List β}
    (same : List.Forall₂ (fun a b => g b = f a) first second) :
    collect g second = collect f first := by
  induction same with
  | nil => rfl
  | cons here later ih => simp only [collect, here, ih]

end Glob

namespace Disk

/-- Entries of directories that have the same names and look the same. -/
abbrev EntriesAlike : List (String × Node) → List (String × Node) → Prop :=
  List.Forall₂ fun entry other => entry.1 = other.1 ∧ entry.2.Alike True other.2

/-- Lists with the same names correspond if what stands under one name looks the same. -/
theorem entriesAlike_of_names {entries others : List (String × Node)}
    (names : entries.map (·.1) = others.map (·.1))
    (alike : ∀ entry ∈ entries, ∀ other ∈ others, entry.1 = other.1 →
      entry.2.Alike True other.2) : EntriesAlike entries others := by
  -- The lists are walked in step, since their names are the same.
  induction entries generalizing others with
  | nil =>
    have none : others = [] := by simpa using names.symm
    rw [none]
    exact List.Forall₂.nil
  | cons entry rest ih =>
    cases others with
    | nil => simp at names
    | cons other more =>
      simp only [List.map_cons, List.cons.injEq] at names
      refine List.Forall₂.cons ⟨names.1, alike _ (by simp) _ (by simp) names.1⟩ (ih names.2 ?_)
      exact fun entry among other present =>
        alike entry (List.mem_cons_of_mem _ among) other (List.mem_cons_of_mem _ present)

/-- Entries that look the same have the same names. -/
theorem EntriesAlike.names {entries others : List (String × Node)}
    (alike : EntriesAlike entries others) : others.map (·.1) = entries.map (·.1) := by
  induction alike with
  | nil => rfl
  | cons here later ih => simp only [List.map_cons, here.1, ih]

/-- The entries that are kept look the same, if the same ones are kept. -/
theorem EntriesAlike.filter {entries others : List (String × Node)}
    (alike : EntriesAlike entries others) {kept left : String × Node → Bool}
    (same : ∀ name node again, Node.Alike True node again →
      left (name, again) = kept (name, node)) :
    EntriesAlike (entries.filter kept) (others.filter left) := by
  induction alike with
  | nil => exact List.Forall₂.nil
  | cons here later ih =>
    rename_i entry other rest more
    obtain ⟨name, node⟩ := entry
    obtain ⟨again, found⟩ := other
    obtain ⟨rfl, looks⟩ := here
    -- Both entries are kept, or neither is.
    simp only [List.filter_cons, same _ _ _ looks]
    split
    · exact List.Forall₂.cons ⟨rfl, looks⟩ ih
    · exact ih

/-- Two listings of a directory: the same fault, or entries that look the same. -/
inductive ListsAlike : Except DiskCause (List (String × Node)) →
    Except DiskCause (List (String × Node)) → Prop where
  | failed (cause : DiskCause) : ListsAlike (.error cause) (.error cause)
  | listed {entries others : List (String × Node)} (alike : EntriesAlike entries others) :
      ListsAlike (.ok entries) (.ok others)

/-- Sorted entries have their names in order. -/
theorem sorted_names_pairwise (entries : List (String × Node)) :
    ((entries.mergeSort fun a b => !decide (b.1 < a.1)).map (·.1)).Pairwise (· ≤ ·) := by
  rw [List.pairwise_map]
  -- The sort compares by not coming after, which is the order of the names read backwards.
  have sorted : (entries.mergeSort fun a b => !decide (b.1 < a.1)).Pairwise
      fun a b => (!decide (b.1 < a.1)) = true := by
    apply List.pairwise_mergeSort
    · intro a b c first second
      simp only [Bool.not_eq_true', decide_eq_false_iff_not, String.not_lt] at *
      exact String.le_trans first second
    · intro a b
      simp only [Bool.or_eq_true, Bool.not_eq_true', decide_eq_false_iff_not, String.not_lt]
      exact String.le_total _ _
  refine sorted.imp fun before => ?_
  simpa only [Bool.not_eq_true', decide_eq_false_iff_not, String.not_lt] using before

/-- Entries with the same names are sorted in the same way. -/
theorem sorted_names {entries others : List (String × Node)}
    (names : (entries.map (·.1)).Perm (others.map (·.1))) :
    (entries.mergeSort fun a b => !decide (b.1 < a.1)).map (·.1) =
      (others.mergeSort fun a b => !decide (b.1 < a.1)).map (·.1) := by
  -- A sorted list is the only one of its names that is in order.
  apply List.Perm.eq_of_pairwise (fun a b _ _ => String.le_antisymm) (sorted_names_pairwise _)
    (sorted_names_pairwise _)
  exact ((List.mergeSort_perm entries _).map _).trans
    (names.trans ((List.mergeSort_perm others _).map _).symm)

/-- A directory lists the same names on both disks, and what stands under them looks the same. -/
theorem SameBut.entriesOf_alike {place : Place} {disk other : Disk}
    (same : SameBut place disk other) (l : Location) :
    ListsAlike (disk.entriesOf l) (other.entriesOf l) := by
  unfold entriesOf
  rcases same.find_cases l with ⟨cause, located, again⟩ |
    ⟨way, node, twin, located, again, alike⟩
  · rw [located, again]
    exact ListsAlike.failed cause
  · rw [located, again]
    cases alike with
    | file held => exact ListsAlike.failed _
    | directory names =>
      rename_i entries others
      have stands := find_at located
      have remains := find_at again
      -- Distinct names tell which entries of the two lists belong together.
      have first := Node.isWellNamed_directory_iff.mp
        (Node.at?_isWellNamed same.wellNamed stands)
      have second := Node.isWellNamed_directory_iff.mp
        (Node.at?_isWellNamed same.other_wellNamed remains)
      refine ListsAlike.listed (entriesAlike_of_names (sorted_names names) ?_)
      rintro ⟨name, node⟩ among ⟨found, twin⟩ present (rfl : name = found)
      have child := Node.child?_of_mem first.1 ((List.mergeSort_perm _ _).mem_iff.mp among)
      have double := Node.child?_of_mem second.1 ((List.mergeSort_perm _ _).mem_iff.mp present)
      have below := same.child?_alike stands remains name
      rw [child, double] at below
      cases below with
      | some alike => exact alike.weaken fun _ => trivial

/-- The same names are kept of entries that look the same. -/
theorem keptNames_alike (disk other : Disk) {entries others : List (String × Node)}
    (alike : EntriesAlike entries others) (search : Scan.Search) (directory : Location)
    (names : List String) (directories : Bool) :
    Scan.keptNames other search directory names directories others =
      Scan.keptNames disk search directory names directories entries := by
  apply (alike.filter ?_).names
  rintro name node again (held | listed) <;> rfl

namespace SameBut

variable {place : Place} {disk other : Disk}

/-- A scan of a directory finds the same files. -/
theorem scanDirectory_eq (same : SameBut place disk other) (search : Scan.Search) (depth : Nat)
    (directory : Location) (names : List String) :
    Scan.scanDirectory other search depth directory names =
      Scan.scanDirectory disk search depth directory names := by
  -- The listings agree at every depth, and so do the scans of what they name.
  induction depth generalizing directory names with
  | zero => rfl
  | succ depth ih =>
    have alike := same.entriesOf_alike directory
    unfold Scan.scanDirectory
    revert alike
    generalize disk.entriesOf directory = first
    generalize other.entriesOf directory = second
    rintro (cause | alike)
    · cases cause <;> rfl
    · have kept := keptNames_alike disk other alike search directory names
      simp only [kept, ih]

/-- A scan finds the same files. -/
theorem scan_eq (same : SameBut place disk other) (search : Scan.Search) (root : Location) :
    Scan.scan other search root = Scan.scan disk search root := by
  simp only [Scan.scan, Scan.scanDepth, same.depth_eq, same.scanDirectory_eq]

/-- The same directories are below a directory. -/
theorem directoriesFrom_eq (same : SameBut place disk other) (depth : Nat) (l : Location) :
    Glob.directoriesFrom other depth l = Glob.directoriesFrom disk depth l := by
  induction depth generalizing l with
  | zero => rfl
  | succ depth ih =>
    have alike := same.entriesOf_alike l
    unfold Glob.directoriesFrom
    revert alike
    generalize disk.entriesOf l = first
    generalize other.entriesOf l = second
    rintro (cause | alike)
    · rfl
    · -- The same entries are directories, and below each of them the same ones are found.
      dsimp only
      congr 1
      apply Glob.collect_congr
      apply (alike.filter ?_).imp
      · rintro ⟨name, node⟩ ⟨again, twin⟩ ⟨rfl, _⟩
        exact ih _
      · rintro name node twin (held | names) <;> rfl

/-- The same entries of a directory match a pattern. -/
theorem matchingEntries_eq (same : SameBut place disk other) (l : Location) (pattern : String)
    (more : Bool) :
    Glob.matchingEntries other l pattern more = Glob.matchingEntries disk l pattern more := by
  have alike := same.entriesOf_alike l
  unfold Glob.matchingEntries
  revert alike
  generalize disk.entriesOf l = first
  generalize other.entriesOf l = second
  rintro (cause | alike)
  · rfl
  · apply Glob.collect_congr
    apply alike.imp
    rintro ⟨name, node⟩ ⟨again, twin⟩ ⟨rfl, looks⟩
    -- What a pattern asks of an entry is its name and whether it may be entered.
    cases looks <;> rfl

/-- The parts of a path pattern select the same locations. -/
theorem select_eq (same : SameBut place disk other) (parts : List GlobPart) (l : Location) :
    Glob.select other parts l = Glob.select disk parts l := by
  -- Each part asks only for names, kinds of entries and depths.
  induction parts generalizing l with
  | nil => rfl
  | cons part rest ih =>
    have following : Glob.select other rest = Glob.select disk rest := funext ih
    cases part with
    | anyDepth => simp only [Glob.select, same.depth_eq, same.directoriesFrom_eq, following]
    | matching pattern => simp only [Glob.select, same.matchingEntries_eq, following]
    | named name => simp only [Glob.select, same.exists?_eq, same.isDirectory_eq, following]
    | directoryOnly => rfl

/-- A search by path finds the same files. -/
theorem findByPath_eq (same : SameBut place disk other) (base : Location) (pattern : String) :
    Scan.findByPath other base pattern = Scan.findByPath disk base pattern := by
  simp only [Scan.findByPath, Glob.find, same.isDirectory_eq, same.isFile_eq, same.select_eq]

/-- A root names the same patterns in its ignore file, if that is not the file that differs. -/
theorem gitignorePatterns_eq (same : SameBut place disk other) {root : Location}
    (style : root.style = .posix) (another : place.getLast? ≠ some ".gitignore") :
    Scan.gitignorePatterns other root = Scan.gitignorePatterns disk root := by
  -- The ignore file is another file than the one that differs.
  have passed : disk.reaches place (root / ".gitignore") = false := by
    rw [Location.join_segment style (by decide)]
    exact same.passes_of_name (by decide) (by decide) another
  simp only [Scan.gitignorePatterns, same.isFile_eq, same.bytesOf_eq passed]

/-- A search finds the same files, if the file that differs is not an ignore file. -/
theorem findFiles_eq (same : SameBut place disk other) (omissions : Omissions) {base : Location}
    (style : base.style = .posix) (another : place.getLast? ≠ some ".gitignore")
    (pattern : String) :
    Scan.findFiles other omissions base pattern = Scan.findFiles disk omissions base pattern := by
  -- A search by name reads ignore files and directories only, and neither is the written place.
  have named : ∀ name, Scan.findNamed other omissions base name =
      Scan.findNamed disk omissions base name := by
    intro name
    simp only [Scan.findNamed, same.gitignorePatterns_eq style another, same.scan_eq]
  simp only [Scan.findFiles, same.isDirectory_eq, named, same.findByPath_eq]

end SameBut

end Disk

end AutomationIndex
