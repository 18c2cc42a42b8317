import AutomationIndex.Proofs.Disk.Onward
import AutomationIndex.Proofs.Scan.Agreement
import AutomationIndex.Proofs.Scan.Complete
import AutomationIndex.Proofs.Scan.Ignored
import AutomationIndex.Proofs.Scan.Order

/-! Which files a scan is meant to find on a disk without links, and that it finds these, once each
and in its order, wherever no directory that it enters has too long a path. -/

namespace AutomationIndex

namespace Node

/-- Nothing below a node is deeper than the node. -/
theorem depth_le_of_at? {node below : Node} {place : Place} (stands : node.at? place = some below) :
    below.depth ≤ node.depth := by
  induction place generalizing node with
  | nil =>
    cases stands
    exact Nat.le_refl _
  | cons name rest ih =>
    simp only [at?, Option.bind_eq_some_iff] at stands
    obtain ⟨next, entry, stands⟩ := stands
    obtain ⟨entries, rfl⟩ := eq_directory_of_child? entry
    -- The first step goes to an entry, which is no deeper than the entries are.
    have bound := depthOfEntries_le_iff.mp (Nat.le_refl _) _ (child?_mem entry)
    exact (ih stands).trans (Nat.le_succ_of_le bound)

/-- What a directory holds is less deep than the directory. -/
theorem depth_lt_of_child? {node below : Node} {name : String}
    (entry : node.child? name = some below) : below.depth < node.depth := by
  obtain ⟨entries, rfl⟩ := eq_directory_of_child? entry
  exact Nat.lt_succ_of_le (depthOfEntries_le_iff.mp (Nat.le_refl _) _ (child?_mem entry))

end Node

namespace Disk

variable {disk : Disk} {root : Location} {before rest : List String} {node other : Node}

/-- Only one node stands under names. -/
theorem Holds.unique (holds : disk.Holds root before node) (again : disk.Holds root before other) :
    node = other := by
  -- Both stand below the node found at the root.
  obtain ⟨found, located, stands⟩ := holds
  obtain ⟨same, relocated, restands⟩ := again
  rw [located] at relocated
  cases relocated
  rw [stands] at restands
  exact Option.some.inj restands

/-- On a disk without links no link stands under names. -/
theorem Holds.not_link (unlinked : disk.root.LacksLinks) {target : String} :
    ¬ disk.Holds root before (.link target) := by
  rintro ⟨found, located, stands⟩
  refine unlinked (found.place ++ before) target ?_
  rw [Node.at?_append, find_at located]
  exact stands

/-- What stands under a directory stands under one of its names. -/
theorem Holds.outward {name : String} (holds : disk.Holds root (before ++ name :: rest) node) :
    ∃ entries, disk.Holds root before (.directory entries) := by
  obtain ⟨found, located, stands⟩ := holds
  -- The way is cut at the directory, which must have the next name.
  rw [Node.at?_append, Option.bind_eq_some_iff] at stands
  obtain ⟨outer, here, stands⟩ := stands
  simp only [Node.at?, Option.bind_eq_some_iff] at stands
  obtain ⟨next, entry, -⟩ := stands
  obtain ⟨entries, rfl⟩ := Node.eq_directory_of_child? entry
  exact ⟨entries, found, located, here⟩

/-- The way to a directory leads through directories. -/
theorem Holds.through {entries : List (String × Node)}
    (holds : disk.Holds root (before ++ rest) (.directory entries)) :
    ∃ outer, disk.Holds root before (.directory outer) := by
  cases rest with
  | nil => exact ⟨entries, by simpa using holds⟩
  | cons name rest => exact holds.outward

/-- What stands under a name of a directory is what the directory has under it. -/
theorem Holds.snoc_iff {name : String} (holds : disk.Holds root before node) :
    disk.Holds root (before ++ [name]) other ↔ node.child? name = some other := by
  obtain ⟨found, located, stands⟩ := holds
  have below : found.node.at? (before ++ [name]) = node.child? name := Node.at?_snoc stands name
  simp [Holds, located, below]

/-- A directory whose entries are in the order of their names is listed as it is. -/
theorem entriesOf_inOrder {place : Place} {entries : List (String × Node)}
    (located : disk.find root = .ok ⟨place, .directory entries⟩)
    (ordered : entries.Pairwise fun a b => a.1 ≤ b.1) : disk.entriesOf root = .ok entries := by
  rw [entriesOf, located]
  refine congrArg Except.ok (List.mergeSort_of_pairwise (ordered.imp fun before => ?_))
  rw [Bool.not_eq_true', decide_eq_false_iff_not]
  exact String.not_lt.mpr before

/-- The listing of a directory has its entries in the order of their names. -/
theorem entriesOf_sorted (wellNamed : disk.isWellNamed = true) {entries : List (String × Node)}
    (listed : disk.entriesOf root = .ok entries) : (entries.map (·.1)).Pairwise (· < ·) := by
  have distinct := (entriesOf_names wellNamed listed).1
  have ordered : (entries.map (·.1)).Pairwise (· ≤ ·) := by
    -- Only a directory is listed, and its entries are sorted for that.
    unfold entriesOf at listed
    split at listed
    · cases listed
    · cases listed
      exact sorted_names_pairwise _
    · cases listed
  -- No name is listed twice, so each is strictly less than those after it.
  refine (ordered.and distinct).imp fun ⟨atMost, different⟩ => ?_
  by_contra late
  exact different (String.le_antisymm atMost (String.not_lt.mp late))

/-- What stands below a location is found there, unless its path is too long. Links on the way to the
location do not matter. -/
theorem Holds.found (wellNamed : disk.isWellNamed = true) (holds : disk.Holds root before node)
    (real : ∀ target, node ≠ .link target) :
    (∃ place, disk.find (root.below before) = .ok ⟨place, node⟩) ∨
      disk.Exceeds (root.below before) := by
  -- The way below the root holds entries' names only: no dots, and nothing that is resolved away.
  have proper := holds.isEntryName wellNamed
  obtain ⟨found, located, stands⟩ := holds
  obtain ⟨fewer, onward⟩ := find_onward located
  rw [Exceeds, onward before fun name among => lacksNul_of_isEntryName (proper name among)]
  split
  -- Going on from the root, the walk fails only where the whole path is too long.
  · exact .inr rfl
  · refine Or.imp_left (fun followed => ⟨_, followed⟩) (followLinks_straight ?_ (find_at located)
      stands real)
    exact fun name among => noDots_of_isEntryName (proper name among)

/-- A directory below a location is listed, name for name, unless its path is too long. -/
theorem Holds.listing (wellNamed : disk.isWellNamed = true) {entries : List (String × Node)}
    (holds : disk.Holds root before (.directory entries)) :
    disk.Exceeds (root.below before) ∧ disk.entriesOf (root.below before) = .error .nameTooLong ∨
      ¬ disk.Exceeds (root.below before) ∧
        ∃ listing, disk.entriesOf (root.below before) = .ok listing ∧
          ∀ name node, (name, node) ∈ listing ↔ disk.Holds root (before ++ [name]) node := by
  rcases holds.found wellNamed (by simp) with ⟨place, below⟩ | exceeds
  · have listed : ∃ listing, disk.entriesOf (root.below before) = .ok listing := by
      simp [entriesOf, below]
    obtain ⟨listing, listed⟩ := listed
    -- What the listing has is what the tree has, seen from the root of the search.
    refine .inr ⟨by simp [Exceeds, below], listing, listed, fun name node => ?_⟩
    rw [mem_entriesOf_iff wellNamed listed, holds.snoc_iff]
    simp [Holds, below, Node.at?]
  · have failed : disk.find (root.below before) = .error .nameTooLong := exceeds
    exact .inl ⟨exceeds, by simp [entriesOf, failed]⟩

end Disk

namespace Scan

section

variable (disk : Disk) (search : Search) (root : Location)

/-- Whether a directory directly holds a file that is looked for and not left out. -/
def HoldsWanted (way : List String) : Prop :=
  ∃ name bytes, disk.Holds root (way ++ [name]) (.file bytes) ∧ search.Seeks name ∧
    ¬ search.Ignores (way ++ [name]) false

/-- Whether a scan enters a directory: no directory on the way to it is left out, and none of them is
an output directory beside a file that is looked for. -/
def IsEntered (way : List String) : Prop :=
  (∃ entries, disk.Holds root way (.directory entries)) ∧
    ∀ outer name inner, way = outer ++ name :: inner →
      ¬ search.Ignores (outer ++ [name]) true ∧
        (name ∈ search.pruned → ¬ HoldsWanted disk search root outer)

/-- Whether a scan is meant to find what is at the end of a way: a file that is looked for and not
left out, in a directory that is entered. -/
def IsIntended (way : List String) : Prop :=
  ∃ outer name bytes, way = outer ++ [name] ∧ disk.Holds root way (.file bytes) ∧
    search.Seeks name ∧ ¬ search.Ignores way false ∧ IsEntered disk search root outer

/-- Whether a scan of a directory came to what it should: a fault of a directory that is entered and
has too long a path, or all that is meant to be found there if there is none. -/
def IsScanOf (before : List String) : Except DiskFault (List Location) → Prop
  -- A failure is the one too long directory that was entered on the way.
  | .error fault => ∃ way, IsEntered disk search root (before ++ way) ∧
      disk.Exceeds (root.below (before ++ way)) ∧
      fault = Disk.faultAt (root.below (before ++ way)) .nameTooLong
  -- A success has entered none, and lists what is intended in the order of the scan.
  | .ok found =>
    (∀ way, IsEntered disk search root (before ++ way) →
      ¬ disk.Exceeds (root.below (before ++ way))) ∧
      ListsInOrder (fun way => root.below (before ++ way))
        (fun way => IsIntended disk search root (before ++ way)) found

end

variable {disk : Disk} {search : Search} {root : Location} {before rest : List String}
  {name : String}

/-- Directories on the way to one that is entered are entered. -/
theorem IsEntered.outer (entered : IsEntered disk search root (before ++ rest)) :
    IsEntered disk search root before := by
  obtain ⟨⟨entries, holds⟩, kept⟩ := entered
  exact ⟨holds.through, fun outer name inner parted =>
    kept outer name (inner ++ rest) (by simp [parted])⟩

/-- A directory in one that is entered is entered unless it is left out or is an output directory
beside a file that is looked for. -/
theorem isEntered_snoc_iff (entered : IsEntered disk search root before) :
    IsEntered disk search root (before ++ [name]) ↔
      (∃ entries, disk.Holds root (before ++ [name]) (.directory entries)) ∧
        ¬ search.Ignores (before ++ [name]) true ∧
          (name ∈ search.pruned → ¬ HoldsWanted disk search root before) := by
  refine and_congr_right fun _ => ⟨fun kept => kept before name [] rfl, fun here => ?_⟩
  intro outer other inner parted
  -- The directory is the last one on the way, or an earlier one.
  rcases List.eq_nil_or_concat' inner with rfl | ⟨inner, last, rfl⟩
  · obtain ⟨rfl, same⟩ := List.append_inj' parted rfl
    cases List.singleton_inj.mp same
    exact here
  · have same : before ++ [name] = (outer ++ other :: inner) ++ [last] := by simpa using parted
    exact entered.2 outer other inner (List.append_inj' same rfl).1

/-- A file of a directory is meant to be found if it is looked for and not left out, and the directory
is entered. -/
theorem isIntended_snoc_iff : IsIntended disk search root (before ++ [name]) ↔
    (∃ bytes, disk.Holds root (before ++ [name]) (.file bytes)) ∧ search.Seeks name ∧
      ¬ search.Ignores (before ++ [name]) false ∧ IsEntered disk search root before := by
  -- The last name of a way is determined by it.
  constructor
  · rintro ⟨outer, last, bytes, parted, holds, wants, kept, entered⟩
    obtain ⟨rfl, same⟩ := List.append_inj' parted rfl
    cases List.singleton_inj.mp same
    exact ⟨⟨bytes, holds⟩, wants, kept, entered⟩
  · rintro ⟨⟨bytes, holds⟩, wants, kept, entered⟩
    exact ⟨before, name, bytes, rfl, holds, wants, kept, entered⟩

/-- A directory that is entered is no file. -/
theorem IsEntered.not_isIntended (entered : IsEntered disk search root before) :
    ¬ IsIntended disk search root before := by
  obtain ⟨⟨entries, holds⟩, -⟩ := entered
  rintro ⟨-, -, bytes, -, file, -⟩
  cases holds.unique file

section

variable {entries : List (String × Node)}

/-- The names that are kept stay in order. -/
theorem keptNames_pairwise (sorted : (entries.map (·.1)).Pairwise (· < ·)) (directories : Bool)
    (l : Location) (names : List String) :
    (keptNames disk search l names directories entries).Pairwise (· < ·) :=
  sorted.sublist (List.filter_sublist.map _)

variable (wellNamed : disk.isWellNamed = true) (unlinked : disk.root.LacksLinks)
  (listed : ∀ name node, (name, node) ∈ entries ↔ disk.Holds root (before ++ [name]) node)

include wellNamed unlinked listed

omit unlinked in
/-- The names that are kept are those of entries of the wanted kind that are not left out, where no
entry is a link. -/
theorem mem_keptNames_iff (real : ∀ name target, ¬ disk.Holds root (before ++ [name]) (.link target))
    {directories : Bool} :
    name ∈ keptNames disk search (root.below before) before directories entries ↔
      ∃ node, disk.Holds root (before ++ [name]) node ∧ Glob.isDirectoryNode node = directories ∧
        ¬ search.Ignores (before ++ [name]) directories := by
  simp only [keptNames, List.mem_map, List.mem_filter, Prod.exists, exists_and_right,
    exists_eq_right, listed]
  refine exists_congr fun node => and_congr_right fun holds => ?_
  -- Without links, an entry counts as what it is.
  have counts : countsAsDirectory? disk ((root.below before).child name) node =
      some (Glob.isDirectoryNode node) := by
    cases node with
    | file bytes => rfl
    | directory inner => rfl
    | link target => exact absurd holds (real name target)
  have apart : '/' ∉ name.toList := noSlash_of_isEntryName (holds.isEntryName wellNamed name (by simp))
  rw [counts, ← leavesOut_iff apart]
  simp only [Bool.and_eq_true, beq_iff_eq, Bool.not_eq_true', Bool.not_eq_true]
  exact and_congr_right fun kind => by rw [kind]

/-- The files of a directory that a scan finds are those that it is meant to find. -/
theorem mem_files_iff (entered : IsEntered disk search root before) :
    name ∈ (keptNames disk search (root.below before) before false entries).filter search.wants ↔
      IsIntended disk search root (before ++ [name]) := by
  rw [List.mem_filter, mem_keptNames_iff wellNamed listed (fun _ _ => Disk.Holds.not_link unlinked),
    isIntended_snoc_iff, Search.wants_iff]
  -- Without links, what is no directory is a file.
  constructor
  · rintro ⟨⟨node, holds, kind, kept⟩, wants⟩
    cases node with
    | file bytes => exact ⟨⟨bytes, holds⟩, wants, kept, entered⟩
    | directory inner => cases kind
    | link target => exact absurd holds (Disk.Holds.not_link unlinked)
  · rintro ⟨⟨bytes, holds⟩, wants, kept, -⟩
    exact ⟨⟨_, holds, rfl, kept⟩, wants⟩

/-- The directories that a scan enters from a directory are those that it is meant to enter. -/
theorem mem_inner_iff (entered : IsEntered disk search root before) :
    (let files := (keptNames disk search (root.below before) before false entries).filter search.wants
    let inner := keptNames disk search (root.below before) before true entries
    name ∈ if files.isEmpty then inner else inner.filter (!search.pruned.contains ·)) ↔
      IsEntered disk search root (before ++ [name]) := by
  have directories : name ∈ keptNames disk search (root.below before) before true entries ↔
      (∃ inner, disk.Holds root (before ++ [name]) (.directory inner)) ∧
        ¬ search.Ignores (before ++ [name]) true := by
    rw [mem_keptNames_iff wellNamed listed fun _ _ => Disk.Holds.not_link unlinked]
    constructor
    · rintro ⟨node, holds, kind, kept⟩
      cases node with
      | directory inner => exact ⟨⟨inner, holds⟩, kept⟩
      | file bytes => cases kind
      | link target => cases kind
    · rintro ⟨⟨inner, holds⟩, kept⟩
      exact ⟨_, holds, rfl, kept⟩
  -- Outputs are passed over exactly if the scan has found a file here.
  have files : HoldsWanted disk search root before ↔
      ((keptNames disk search (root.below before) before false entries).filter
        search.wants).isEmpty = false := by
    rw [List.isEmpty_eq_false_iff_exists_mem]
    simp only [mem_files_iff wellNamed unlinked listed entered, isIntended_snoc_iff, entered, and_true,
      HoldsWanted, exists_and_right]
  rw [isEntered_snoc_iff entered, files]
  dsimp only
  split
  · rename_i none
    simp [none, directories]
  · rename_i some
    simp [some, directories, and_assoc]

end

section

variable {scan : String → Except DiskFault (List Location)} {files inner : List String}
  (entered : IsEntered disk search root before) (filesSorted : files.Pairwise (· < ·))
  (intended : ∀ name, name ∈ files ↔ IsIntended disk search root (before ++ [name]))
  (innerSorted : inner.Pairwise (· < ·))
  (onward : ∀ name, name ∈ inner ↔ IsEntered disk search root (before ++ [name]))
  (each : ∀ name ∈ inner, IsScanOf disk search root (before ++ [name]) (scan name))

include entered filesSorted intended innerSorted onward each

/-- The files of a directory and then what is found in each of the directories there are all that is
meant to be found below it, in order. -/
theorem joinScans_lists {deeper : List Location} (joined : joinScans scan inner = .ok deeper) :
    ListsInOrder (fun way => root.below (before ++ way))
      (fun way => IsIntended disk search root (before ++ way))
      (files.map (fun name => root.below (before ++ [name])) ++ deeper) := by
  -- What is meant to be found in a directory that is entered lies under its name.
  have below : ListsInOrder (fun way => root.below (before ++ way))
      (fun way => ∃ name ∈ inner, ∃ below, way = name :: below ∧
        IsIntended disk search root (before ++ [name] ++ below)) deeper := by
    refine joinScans_listsInOrder innerSorted ?_ ?_ joined
    · rintro name among _ intends rfl
      rw [List.append_nil] at intends
      exact ((onward name).mp among).not_isIntended intends
    · intro name among part scanned
      have here := each name among
      rw [scanned] at here
      simpa using here.2
  refine ((ListsInOrder.names filesSorted).append below ?_).congr fun way => ⟨?_, ?_⟩
  · -- A directory is no file, so there is a name below it.
    rintro _ _ ⟨file, -, rfl⟩ ⟨name, among, way, rfl, intends⟩
    refine ComesBefore.file fun none => ((onward name).mp among).not_isIntended ?_
    simpa [none] using intends
  · rintro (⟨name, among, rfl⟩ | ⟨name, among, way, rfl, intends⟩)
    · exact (intended name).mp among
    · simpa using intends
  · intro intends
    -- The directory of the file is this one, or lies in one of those that are entered.
    rcases List.eq_nil_or_concat' way with rfl | ⟨outer, last, rfl⟩
    · exact absurd (by simpa using intends) entered.not_isIntended
    · cases outer with
      | nil => exact .inl ⟨last, (intended last).mpr intends, rfl⟩
      | cons name outer =>
        have same : before ++ (name :: outer ++ [last]) = before ++ [name] ++ outer ++ [last] := by
          simp
        have among := (isIntended_snoc_iff.mp (same ▸ intends)).2.2.2.outer
        exact .inr ⟨name, (onward name).mpr among, outer ++ [last], rfl, by simpa using intends⟩

/-- Files of a directory, and joined scans of the directories in it, are a scan of the directory if
these files and directories are the right ones. -/
theorem joinScans_isScanOf (within : ¬ disk.Exceeds (root.below before)) :
    IsScanOf disk search root before (do
      let below ← joinScans scan inner
      return files.map (fun name => root.below (before ++ [name])) ++ below) := by
  cases joined : joinScans scan inner with
  | error fault =>
    -- One of the directories fails, at a way that leads through it.
    obtain ⟨name, among, failed⟩ := joinScans_error joined
    have deeper := each name among
    rw [failed] at deeper
    obtain ⟨way, enters, exceeds, same⟩ := deeper
    exact ⟨name :: way, by simpa using enters, by simpa using exceeds, by simpa using same⟩
  | ok deeper =>
    refine ⟨fun way enters => ?_,
      joinScans_lists entered filesSorted intended innerSorted onward each joined⟩
    -- What is entered is the directory itself, or is entered from one of those in it.
    cases way with
    | nil => simpa using within
    | cons name way =>
      rw [List.append_cons] at enters ⊢
      have among := (onward name).mpr enters.outer
      obtain ⟨part, scanned⟩ := joinScans_ok joined name among
      have here := each name among
      rw [scanned] at here
      exact here.1 way enters

end

/-- A directory is scanned as it should be if the directories are that a scan enters from it. -/
theorem scanDirectory_step (wellNamed : disk.isWellNamed = true) (unlinked : disk.root.LacksLinks)
    {depth : Nat} (entered : IsEntered disk search root before)
    (inner : ∀ name, IsEntered disk search root (before ++ [name]) →
      IsScanOf disk search root (before ++ [name])
        (scanDirectory disk search depth (root.below (before ++ [name])) (before ++ [name]))) :
    IsScanOf disk search root before
      (scanDirectory disk search (depth + 1) (root.below before) before) := by
  obtain ⟨entries, holds⟩ := entered.1
  rcases holds.listing wellNamed with ⟨exceeds, failed⟩ | ⟨within, listing, listed, members⟩
  · -- The directory itself cannot be listed.
    rw [scanDirectory, failed]
    exact ⟨[], by simpa using entered, by simpa using exceeds, by simp⟩
  · have sorted := Disk.entriesOf_sorted wellNamed listed
    have kept (directories : Bool) : (keptNames disk search (root.below before) before directories
        listing).Pairwise (· < ·) := keptNames_pairwise sorted directories _ _
    have onward (name : String) := @mem_inner_iff _ _ _ _ name _ wellNamed unlinked members entered
    have child : (root.below before).child = fun name => root.below (before ++ [name]) :=
      funext fun name => Location.child_below root before name
    simp only [scanDirectory, listed, child]
    refine joinScans_isScanOf entered ((kept false).filter _)
      (fun name => mem_files_iff wellNamed unlinked members entered) ?_ onward
      (fun name among => inner name ((onward name).mp among)) within
    split
    · exact kept true
    · exact (kept true).filter _

/-- A directory that is entered is scanned as it should be if it is no deeper than the scan. -/
theorem scanDirectory_isScanOf (wellNamed : disk.isWellNamed = true)
    (unlinked : disk.root.LacksLinks) {node : Node} {depth : Nat}
    (holds : disk.Holds root before node) (bound : node.depth ≤ depth)
    (entered : IsEntered disk search root before) : IsScanOf disk search root before
      (scanDirectory disk search depth (root.below before) before) := by
  induction depth generalizing before node with
  | zero =>
    -- Even an empty directory has a depth.
    obtain ⟨⟨entries, directory⟩, -⟩ := entered
    cases holds.unique directory
    simp [Node.depth] at bound
  | succ depth ih =>
    refine scanDirectory_step wellNamed unlinked entered fun name onward => ?_
    obtain ⟨⟨entries, inner⟩, -⟩ := id onward
    have less := Node.depth_lt_of_child? (holds.snoc_iff.mp inner)
    exact ih inner (by omega) onward

/-- The place that a scan starts from is entered if it is a directory. -/
theorem isEntered_nil {entries : List (String × Node)}
    (holds : disk.Holds root [] (.directory entries)) : IsEntered disk search root [] :=
  ⟨⟨entries, holds⟩, fun _ _ _ parted => by simp at parted⟩

/-- Where nothing is entered, a scan should find nothing. -/
theorem isScanOf_nothing (nothing : ∀ way, ¬ IsEntered disk search root way) :
    IsScanOf disk search root [] (.ok []) := by
  refine ⟨fun way entered => absurd entered (nothing _), [], rfl, .nil, fun way => ?_⟩
  refine iff_of_false List.not_mem_nil ?_
  rintro ⟨outer, -, -, -, -, -, -, entered⟩
  exact nothing outer entered

/-- A scan finds nothing where there is no directory, and any other cause is a fault. -/
theorem scan_unlisted {cause : DiskCause} (failed : disk.entriesOf root = .error cause) :
    scan disk search root = if cause = .notFound ∨ cause = .notDirectory then .ok []
      else .error (Disk.faultAt root cause) := by
  rw [scan, scanDepth, scanDirectory, failed]
  cases cause <;> rfl

/-- A scan that starts from something does as it should. -/
theorem scan_found (wellNamed : disk.isWellNamed = true) (unlinked : disk.root.LacksLinks)
    {found : Found} (located : disk.find root = .ok found) :
    IsScanOf disk search root [] (scan disk search root) := by
  obtain ⟨place, node⟩ := found
  have holds : disk.Holds root [] node := ⟨_, located, rfl⟩
  cases node with
  | link target => exact absurd holds (Disk.Holds.not_link unlinked)
  | file bytes =>
    have failed : disk.entriesOf root = .error .notDirectory := by rw [Disk.entriesOf, located]
    rw [scan_unlisted failed]
    refine isScanOf_nothing fun way entered => ?_
    -- Whatever is entered has directories on its way, and here a file stands first.
    have start : IsEntered disk search root [] := IsEntered.outer (List.nil_append way ▸ entered)
    obtain ⟨⟨entries, directory⟩, -⟩ := start
    cases holds.unique directory
  | directory entries =>
    -- A scan may go deeper than the whole tree is.
    have deep : (Node.directory entries).depth ≤ scanDepth disk := by
      have below := Node.depth_le_of_at? (Disk.find_at located)
      simp only [scanDepth, Disk.linkLimit] at below ⊢
      omega
    have start : IsEntered disk search root [] := isEntered_nil holds
    have scanned := scanDirectory_isScanOf wellNamed unlinked holds deep start
    rwa [Location.below_nil] at scanned

/-- A scan does as it should, unless the location that it starts from has a NUL or is too long. -/
theorem scan_cases (wellNamed : disk.isWellNamed = true) (unlinked : disk.root.LacksLinks)
    (search : Search) (root : Location) :
    ¬ root.LacksNul ∧ scan disk search root = .error (Disk.faultAt root .nullCharacter) ∨
      root.LacksNul ∧ disk.Exceeds root ∧
        scan disk search root = .error (Disk.faultAt root .nameTooLong) ∨
      root.LacksNul ∧ ¬ disk.Exceeds root ∧
        IsScanOf disk search root [] (scan disk search root) := by
  have nul : disk.find root = .error .nullCharacter ↔ ¬ root.LacksNul := by
    rw [Disk.find_nullCharacter_iff, Location.lacksNul_iff, LacksNul, not_not]
  unfold Disk.Exceeds
  cases located : disk.find root with
  | ok found =>
    exact .inr (.inr ⟨by simpa [located] using nul, by simp, scan_found wellNamed unlinked located⟩)
  | error cause =>
    have nothing : ∀ way, ¬ IsEntered disk search root way := by
      rintro way ⟨⟨entries, found, elsewhere, -⟩, -⟩
      rw [located] at elsewhere
      cases elsewhere
    have failed : disk.entriesOf root = .error cause := by rw [Disk.entriesOf, located]
    have scanned := @scan_unlisted _ search _ _ failed
    rw [located] at nul
    -- Without links, only these four causes are found on a way.
    cases cause with
    | nullCharacter => exact .inl ⟨nul.mp rfl, scanned⟩
    | nameTooLong => exact .inr (.inl ⟨by simpa using nul, rfl, scanned⟩)
    | notFound => exact .inr (.inr ⟨by simpa using nul, by simp, scanned ▸ isScanOf_nothing nothing⟩)
    | notDirectory =>
      exact .inr (.inr ⟨by simpa using nul, by simp, scanned ▸ isScanOf_nothing nothing⟩)
    | tooManyLinks => exact absurd located (Disk.find_ne unlinked (.inl rfl) root)
    | isDirectory => exact absurd located (Disk.find_ne unlinked (.inr rfl) root)

/-- A scan answers exactly if the location that it starts from has no NUL, and neither this location nor
a directory that is entered has too long a path. -/
theorem scan_answers_iff (wellNamed : disk.isWellNamed = true) (unlinked : disk.root.LacksLinks) :
    (∃ found, scan disk search root = .ok found) ↔ root.LacksNul ∧ ¬ disk.Exceeds root ∧
      ∀ way, IsEntered disk search root way → ¬ disk.Exceeds (root.below way) := by
  rcases scan_cases wellNamed unlinked search root with
    ⟨nul, failed⟩ | ⟨lacks, exceeds, failed⟩ | ⟨lacks, within, isScan⟩
  · simp [failed, nul]
  · simp [failed, exceeds]
  · cases scanned : scan disk search root with
    | error fault =>
      -- A scan fails for a directory that is entered.
      rw [scanned] at isScan
      obtain ⟨way, entered, exceeds, -⟩ := isScan
      rw [List.nil_append] at entered exceeds
      exact iff_of_false (by simp) fun answers => answers.2.2 way entered exceeds
    | ok found =>
      rw [scanned] at isScan
      exact iff_of_true ⟨found, rfl⟩ ⟨lacks, within, isScan.1⟩

/-- The answer of a scan lists what the scan is meant to find. -/
theorem scan_listed (wellNamed : disk.isWellNamed = true) (unlinked : disk.root.LacksLinks)
    {found : List Location} (scanned : scan disk search root = .ok found) :
    ListsInOrder root.below (IsIntended disk search root) found := by
  -- Of the three cases of a scan only a success is left, and it is one of the empty way.
  rcases scan_cases wellNamed unlinked search root with
    ⟨-, failed⟩ | ⟨-, -, failed⟩ | ⟨-, -, isScan⟩
  · rw [scanned] at failed
    cases failed
  · rw [scanned] at failed
    cases failed
  · rw [scanned] at isScan
    exact isScan.2

/-- What a scan comes to on a disk without links, from any location and for any search. It comes to an
answer exactly if the location has no NUL and neither it nor any directory that is entered has too long
a path, and otherwise fails for such a location. The answer are all the files that the scan is meant to
find, once each, in its order. -/
theorem scan_exact (wellNamed : disk.isWellNamed = true) (unlinked : disk.root.LacksLinks)
    (search : Search) (root : Location) :
    ((∃ found, scan disk search root = .ok found) ↔ root.LacksNul ∧ ¬ disk.Exceeds root ∧
      ∀ way, IsEntered disk search root way → ¬ disk.Exceeds (root.below way)) ∧
    (∀ fault, scan disk search root = .error fault →
      ¬ root.LacksNul ∧ fault = Disk.faultAt root .nullCharacter ∨
      ∃ way, (way = [] ∨ IsEntered disk search root way) ∧ disk.Exceeds (root.below way) ∧
        fault = Disk.faultAt (root.below way) .nameTooLong) ∧
    ∀ found, scan disk search root = .ok found → found.Nodup ∧
      ListsInOrder root.below (IsIntended disk search root) found := by
  rcases scan_cases wellNamed unlinked search root with
    ⟨nul, failed⟩ | ⟨lacks, exceeds, failed⟩ | ⟨lacks, within, isScan⟩
  · simp [failed, nul]
  · -- The root is too long itself, so nothing is scanned.
    refine ⟨by simp [failed, exceeds], fun fault same => .inr ⟨[], .inl rfl, ?_⟩, by simp [failed]⟩
    rw [failed] at same
    cases same
    simpa using exceeds
  · cases scanned : scan disk search root with
    | error fault =>
      rw [scanned] at isScan
      obtain ⟨way, entered, exceeds, rfl⟩ := isScan
      rw [List.nil_append] at entered exceeds
      refine ⟨iff_of_false (by simp) fun answers => answers.2.2 way entered exceeds,
        fun _ same => ?_, by simp⟩
      cases same
      exact .inr ⟨way, .inr entered, exceeds, rfl⟩
    | ok found =>
      rw [scanned] at isScan
      obtain ⟨short, listed⟩ := isScan
      refine ⟨iff_of_true ⟨found, rfl⟩ ⟨lacks, within, short⟩, by simp, fun _ same => ?_⟩
      cases same
      exact ⟨listed.nodup fun _ _ same => Location.below_inj.mp same, listed⟩

/-- A disk with a project in a directory named like one of outputs, and with nothing beside this. -/
def outputDisk : Disk where
  root := .directory [("ws", .directory [("Temp", .directory [("A.apj", .file [])])])]

/-- The project is found by a search that knows outputs, since no project stands beside the directory,
and not by one that ignores the directory. -/
theorem scan_exact_outputDisk :
    outputDisk.isWellNamed = true ∧ outputDisk.root.LacksLinks ∧
      (∀ way, IsIntended outputDisk { patterns := ["*.apj"], pruned := ["Temp"] }
        (Location.posix "/ws") way ↔ way = ["Temp", "A.apj"]) ∧
      ∀ way, ¬ IsIntended outputDisk { patterns := ["*.apj"], ignorePatterns := ["Temp/"] }
        (Location.posix "/ws") way := by
  have wellNamed : outputDisk.isWellNamed = true := by decide
  have unlinked : outputDisk.root.LacksLinks := Node.lacksLinks_of_targets (by decide)
  have intended (search : Search) (found : List (List String))
      (scanned : scan outputDisk search (Location.posix "/ws") =
        .ok (found.map (Location.posix "/ws").below)) (way : List String) :
      IsIntended outputDisk search (Location.posix "/ws") way ↔ way ∈ found := by
    -- The ways of the answer are known by their locations.
    obtain ⟨-, -, exact⟩ := scan_exact wellNamed unlinked search (Location.posix "/ws")
    obtain ⟨-, ways, located, -, members⟩ := exact _ scanned
    rw [List.map_injective_iff.mpr (fun _ _ => Location.below_inj.mp) located]
    exact (members way).symm
  refine ⟨wellNamed, unlinked, fun way => ?_, fun way => ?_⟩
  · rw [intended _ [["Temp", "A.apj"]] (by decide +kernel), List.mem_singleton]
  · rw [intended _ [] (by decide +kernel)]
    exact List.not_mem_nil

end Scan

end AutomationIndex
