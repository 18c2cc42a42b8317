import AutomationIndex.Proofs.Disk.Unlinked
import AutomationIndex.Proofs.Scan.Faults
import AutomationIndex.Proofs.Wildcard

/-! Searches by path on a disk without links: which locations they ask for, and that they find all
the files there are. -/

namespace AutomationIndex

namespace Disk

variable {disk : Disk} {l : Location} {kind : Node → Bool}

/-- Asking where a location leads comes to an answer exactly if it is not too long. -/
theorem leadsTo_completes_iff :
    (∃ answer, disk.leadsTo l kind = .ok answer) ↔ ¬ disk.Exceeds l := by
  unfold leadsTo Exceeds
  cases located : disk.find l with
  | ok found => simp
  | error cause => cases cause <;> simp [meansNothing]

/-- A location leads to a node of a kind exactly if one is found there. -/
theorem leadsTo_true_iff : disk.leadsTo l kind = .ok true ↔
    ∃ found, disk.find l = .ok found ∧ kind found.node = true := by
  unfold leadsTo
  cases located : disk.find l with
  | ok found => simp
  | error cause => cases cause <;> simp [meansNothing]

/-- A location leads to a node that is made in one way exactly if such a node is found there. -/
theorem leadsTo_made_iff {α : Type} {made : α → Node}
    (kinds : ∀ node, kind node = true ↔ ∃ a, node = made a) :
    disk.leadsTo l kind = .ok true ↔ ∃ place a, disk.find l = .ok ⟨place, made a⟩ := by
  -- Passing the test and being made by `made` are the same for a node that was found.
  rw [leadsTo_true_iff]
  constructor
  · rintro ⟨⟨place, node⟩, located, held⟩
    obtain ⟨a, rfl⟩ := (kinds node).mp held
    exact ⟨place, a, located⟩
  · rintro ⟨place, a, located⟩
    exact ⟨_, located, (kinds (made a)).mpr ⟨a, rfl⟩⟩

/-- A location leads to a directory exactly if one is found there. -/
theorem isDirectory_true_iff : disk.isDirectory l = .ok true ↔
    ∃ place entries, disk.find l = .ok ⟨place, .directory entries⟩ :=
  leadsTo_made_iff fun node => by cases node <;> simp

/-- A location leads to a file exactly if one is found there. -/
theorem isFile_true_iff : disk.isFile l = .ok true ↔
    ∃ place bytes, disk.find l = .ok ⟨place, .file bytes⟩ :=
  leadsTo_made_iff fun node => by cases node <;> simp

/-- Whether a node stands under names below a location. -/
def Holds (disk : Disk) (l : Location) (names : List String) (node : Node) : Prop :=
  ∃ found, disk.find l = .ok found ∧ found.node.at? names = some node

/-- The listing of a directory has what stands under single names below it. -/
theorem mem_entriesOf_iff (wellNamed : disk.isWellNamed = true) {entries : List (String × Node)}
    (listed : disk.entriesOf l = .ok entries) {name : String} {node : Node} :
    (name, node) ∈ entries ↔ disk.Holds l [name] node := by
  unfold entriesOf at listed
  split at listed
  · cases listed
  · rename_i place all located
    cases listed
    simp only [isWellNamed, Bool.and_eq_true] at wellNamed
    -- No two entries share a name, so an entry is what the directory has under its name.
    have directory := Node.at?_isWellNamed wellNamed.1 (find_at located)
    have distinct := (Node.isWellNamed_directory_iff.mp directory).1
    have entry : (name, node) ∈ all ↔ (Node.directory all).child? name = some node :=
      ⟨Node.child?_of_mem distinct, Node.child?_mem⟩
    rw [(List.mergeSort_perm all _).mem_iff, entry]
    simp [Holds, located, Node.at?]
  · cases listed

/-- What stands under a name below a location of a well-named disk has the name of an entry. -/
theorem Holds.isEntryName (wellNamed : disk.isWellNamed = true) {names : List String} {node : Node}
    (holds : disk.Holds l names node) : ∀ name ∈ names, isEntryName name = true := by
  obtain ⟨found, located, stands⟩ := holds
  simp only [isWellNamed, Bool.and_eq_true] at wellNamed
  have start := Node.at?_isWellNamed wellNamed.1 (find_at located)
  revert start stands
  generalize found.node = top
  -- Each name is that of an entry of the directory that the names before it lead to.
  induction names generalizing top with
  | nil => simp
  | cons first rest ih =>
    intro stands start
    simp only [Node.at?, Option.bind_eq_some_iff] at stands
    obtain ⟨next, entry, stands⟩ := stands
    obtain ⟨all, rfl⟩ := Node.eq_directory_of_child? entry
    obtain ⟨proper, inner⟩ := (Node.isWellNamed_directory_iff.mp start).2 _ (Node.child?_mem entry)
    exact List.forall_mem_cons.mpr ⟨proper, ih next stands inner⟩

/-- Only a directory holds something under a name. -/
theorem Holds.isDirectory {name : String} {names : List String} {node : Node}
    (holds : disk.Holds l (name :: names) node) : disk.isDirectory l = .ok true := by
  obtain ⟨⟨place, top⟩, located, stands⟩ := holds
  simp only [Node.at?, Option.bind_eq_some_iff] at stands
  obtain ⟨next, entry, _⟩ := stands
  obtain ⟨entries, rfl⟩ := Node.eq_directory_of_child? entry
  exact isDirectory_true_iff.mpr ⟨place, entries, located⟩

/-- What stands under two names stands in a directory under the first one. -/
theorem Holds.outer {first second : String} {node : Node}
    (holds : disk.Holds l [first, second] node) :
    ∃ entries, disk.Holds l [first] (.directory entries) := by
  -- The way to the second name leads through the first, and what has a child is a directory.
  obtain ⟨found, located, stands⟩ := holds
  simp only [Node.at?, Option.bind_eq_some_iff] at stands
  obtain ⟨next, outer, _, inner, _⟩ := stands
  obtain ⟨entries, rfl⟩ := Node.eq_directory_of_child? inner
  exact ⟨entries, found, located, by simp [Node.at?, outer]⟩

/-- A name in a directory leads to a file exactly if a file stands there, unless its location is too
long. -/
theorem Holds.isFile_iff (wellNamed : disk.isWellNamed = true) (unlinked : disk.root.LacksLinks)
    {entry name : String} (proper : AutomationIndex.isEntryName name = true) {node : Node}
    (holds : disk.Holds l [entry] node) (within : ¬ disk.Exceeds (l.below [entry, name])) :
    disk.isFile (l.below [entry, name]) = .ok true ↔
      ∃ bytes, disk.Holds l [entry, name] (.file bytes) := by
  have own := holds.isEntryName wellNamed
  obtain ⟨found, located, _⟩ := holds
  -- Both names are names of entries, so finding and looking up the place are the same walk.
  have names : ∀ other ∈ [entry, name], AutomationIndex.isEntryName other = true := by
    simpa using ⟨own entry (List.mem_singleton_self _), proper⟩
  rw [isFile_true_iff]
  constructor
  · rintro ⟨place, bytes, below⟩
    exact ⟨bytes, found, located, at_of_find_below unlinked located names below⟩
  · rintro ⟨bytes, again, same, stands⟩
    rw [located] at same
    cases same
    -- The lookup fails on such a way only where the path is too long.
    rcases find_below_of_at unlinked located names stands with below | exceeds
    · exact ⟨_, bytes, below⟩
    · exact absurd exceeds within

end Disk

namespace Glob

/-- Collecting what passes a test comes to an answer exactly if the test does for each element, and
what is collected are the elements that pass it. -/
theorem collect_tested {α β : Type} {f : α → Except DiskFault (List β)}
    {test : α → Except DiskFault Bool} {g : α → β} {elements : List α}
    (shape : ∀ a ∈ elements, f a = (test a).map fun passed => if passed then [g a] else []) :
    ((∃ found, collect f elements = .ok found) ↔ ∀ a ∈ elements, ∃ passed, test a = .ok passed) ∧
      ∀ found, collect f elements = .ok found →
        ∀ b, b ∈ found ↔ ∃ a ∈ elements, test a = .ok true ∧ b = g a := by
  induction elements with
  | nil => simp [collect]
  | cons a rest ih =>
    obtain ⟨here, later⟩ := List.forall_mem_cons.mp shape
    obtain ⟨completes, exact⟩ := ih later
    -- The first element is tested before the others, and its fault ends the collection.
    cases tested : test a with
    | error fault =>
      rw [tested] at here
      simp [collect, here, tested, Except.map, Bind.bind, Except.bind]
    | ok passed =>
      rw [tested] at here
      simp only [collect, here, Except.map, Bind.bind, Except.bind, List.forall_mem_cons, tested,
        Except.ok.injEq, exists_eq', true_and, ← completes, List.exists_mem_cons_iff]
      cases others : collect f rest with
      | error fault => simp
      | ok found =>
        have members := exact found others
        cases passed <;> simp [Pure.pure, Except.pure, members]

variable {disk : Disk} {l : Location} {pattern : String} {entries : List (String × Node)}

/-- Whether a node is a directory. -/
def isDirectoryNode : Node → Bool
  | .directory _ => true
  | _ => false

/-- The entries of a directory without links that match a pattern, directories only where more
follows. -/
theorem matchingEntries_complete (wellNamed : disk.isWellNamed = true)
    (unlinked : disk.root.LacksLinks) (pattern : String) (more : Bool)
    (stands : disk.isDirectory l = .ok true) :
    ∃ here, matchingEntries disk l pattern more = .ok here ∧ ∀ x, x ∈ here ↔
      ∃ name node, disk.Holds l [name] node ∧ (more = true → isDirectoryNode node = true) ∧
        Wildcard.fits name pattern = true ∧ x = l.child name := by
  obtain ⟨entries, listed⟩ := Disk.entriesOf_of_isDirectory stands
  -- An entry that is no link is asked nothing; its kind is known.
  let test : String × Node → Except DiskFault Bool := fun entry =>
    .ok ((!more || isDirectoryNode entry.2) && Wildcard.fits entry.1 pattern)
  have shape : ∀ entry ∈ entries,
      (do
        let here := l.child entry.1
        let kept ← if more then enterable disk here entry.2 else .ok true
        return if kept && Wildcard.fits entry.1 pattern then [here] else [] :
          Except DiskFault (List Location)) =
        (test entry).map fun passed => if passed then [l.child entry.1] else [] := by
    rintro ⟨name, node⟩ member
    obtain ⟨found, located, entry⟩ := (Disk.mem_entriesOf_iff wellNamed listed).mp member
    have child : disk.root.at? (found.place ++ [name]) = some node := by
      rw [Node.at?_append, Disk.find_at located]
      exact entry
    cases more with
    | false => rfl
    | true =>
      cases node with
      | file bytes => rfl
      | link target => exact absurd child (unlinked _ target)
      | directory inner => rfl
  obtain ⟨completes, exact⟩ := collect_tested shape
  obtain ⟨here, collected⟩ := completes.mpr fun entry _ => ⟨_, rfl⟩
  refine ⟨here, by simpa only [matchingEntries, listed] using collected, fun x => ?_⟩
  rw [exact here collected]
  simp only [Prod.exists, Disk.mem_entriesOf_iff wellNamed listed, test, Except.ok.injEq,
    Bool.and_eq_true, Bool.or_eq_true, Bool.not_eq_true', and_assoc]
  -- Where nothing follows, any entry will do.
  cases more <;> simp

/-- Collecting each location for itself collects them all. -/
theorem collect_single (found : List Location) : collect (fun x => .ok [x]) found = .ok found := by
  induction found with
  | nil => rfl
  | cons first rest ih => simp [collect, ih, Bind.bind, Except.bind, Pure.pure, Except.pure]

/-- Nothing more is asked for after a single pattern. -/
theorem select_single (disk : Disk) (pattern : String) (l : Location) :
    select disk [.matching pattern] l = matchingEntries disk l pattern false := by
  simp only [select, List.isEmpty_nil, Bool.not_true, collect_single]
  cases matchingEntries disk l pattern false <;> rfl

/-- A pattern that more follows matches directories. -/
theorem matchingEntries_directories (wellNamed : disk.isWellNamed = true)
    (unlinked : disk.root.LacksLinks) (pattern : String) (stands : disk.isDirectory l = .ok true) :
    ∃ here, matchingEntries disk l pattern true = .ok here ∧ ∀ x, x ∈ here ↔
      ∃ entry inner, disk.Holds l [entry] (.directory inner) ∧
        Wildcard.fits entry pattern = true ∧ x = l.child entry := by
  -- Only a directory passes the test for directories: a file fails it and a link is not followed
  -- here.
  obtain ⟨here, matched, members⟩ :=
    matchingEntries_complete wellNamed unlinked pattern true stands
  refine ⟨here, matched, fun x => (members x).trans ⟨?_, ?_⟩⟩
  · rintro ⟨entry, node, holds, kind, fitting, rfl⟩
    cases node with
    | directory inner => exact ⟨entry, inner, holds, fitting, rfl⟩
    | file bytes => cases kind rfl
    | link target => cases kind rfl
  · rintro ⟨entry, inner, holds, fitting, rfl⟩
    exact ⟨entry, _, holds, fun _ => rfl, fitting, rfl⟩

/-- A name selects what it leads to from a location, if that is there. -/
theorem select_named (disk : Disk) (name : String) (l : Location) :
    select disk [.named name] l =
      (disk.exists? (l.child name)).map fun passed => if passed then [l.child name] else [] := by
  simp only [select, List.isEmpty_nil, if_true]
  cases disk.exists? (l.child name) with
  | error fault => rfl
  | ok passed => cases passed <;> rfl

/-- What a name in every directory that matches a pattern selects: it comes to an answer exactly if
none of these locations is too long. -/
theorem select_named_complete (wellNamed : disk.isWellNamed = true)
    (unlinked : disk.root.LacksLinks) (pattern name : String)
    (stands : disk.isDirectory l = .ok true) :
    ((∃ selected, select disk [.matching pattern, .named name] l = .ok selected) ↔
      ∀ entry inner, disk.Holds l [entry] (.directory inner) → Wildcard.fits entry pattern = true →
        ¬ disk.Exceeds (l.below [entry, name])) ∧
      ∀ selected, select disk [.matching pattern, .named name] l = .ok selected →
        ∀ x, x ∈ selected ↔ ∃ entry inner, disk.Holds l [entry] (.directory inner) ∧
          Wildcard.fits entry pattern = true ∧ disk.exists? (l.below [entry, name]) = .ok true ∧
          x = l.below [entry, name] := by
  obtain ⟨here, matched, directories⟩ :=
    matchingEntries_directories wellNamed unlinked pattern stands
  have below : ∀ entry, (l.child entry).child name = l.below [entry, name] := by
    intro entry
    simp [Location.child, Location.below]
  obtain ⟨completes, exact⟩ := collect_tested fun x (_ : x ∈ here) => select_named disk name x
  -- The directories are known, so only the name in each of them is asked for.
  have onward : select disk [.matching pattern, .named name] l =
      collect (select disk [.named name]) here := by
    rw [select, List.isEmpty_cons, Bool.not_false, matched]
    rfl
  rw [onward]
  refine ⟨completes.trans ⟨?_, ?_⟩, fun selected collected x =>
    (exact selected collected x).trans ⟨?_, ?_⟩⟩
  · intro each entry inner holds fitting
    rw [← below]
    exact Disk.leadsTo_completes_iff.mp
      (each _ ((directories _).mpr ⟨entry, inner, holds, fitting, rfl⟩))
  · intro each x among
    obtain ⟨entry, inner, holds, fitting, rfl⟩ := (directories x).mp among
    exact Disk.leadsTo_completes_iff.mpr (below entry ▸ each entry inner holds fitting)
  · rintro ⟨directory, among, stands, rfl⟩
    obtain ⟨entry, inner, holds, fitting, rfl⟩ := (directories directory).mp among
    rw [below] at stands ⊢
    exact ⟨entry, inner, holds, fitting, stands, rfl⟩
  · rintro ⟨entry, inner, holds, fitting, stands, rfl⟩
    rw [← below] at stands ⊢
    exact ⟨_, (directories _).mpr ⟨entry, inner, holds, fitting, rfl⟩, stands, rfl⟩

end Glob

namespace Scan

variable {disk : Disk} {omissions : Omissions} {base : Location} {written pattern name : String}
  {parts : List GlobPart} {found : List Location}

/-- Asking locations whether they are files comes to an answer exactly if none is too long. -/
theorem keepFiles_complete (disk : Disk) (selected : List Location) :
    ((∃ kept, Glob.collect (fun l => do return if ← disk.isFile l then [l] else []) selected =
        .ok kept) ↔ ∀ l ∈ selected, ¬ disk.Exceeds l) ∧
      ∀ kept, Glob.collect (fun l => do return if ← disk.isFile l then [l] else []) selected =
        .ok kept → ∀ l, l ∈ kept ↔ l ∈ selected ∧ disk.isFile l = .ok true := by
  -- The file test has the shape `collect_tested` speaks of: it keeps a location or drops it.
  have shape : ∀ l ∈ selected, (fun l => (do return if ← disk.isFile l then [l] else [] :
      Except DiskFault (List Location))) l =
      (disk.isFile l).map fun passed => if passed then [id l] else [] := by
    intro l _
    dsimp only
    cases disk.isFile l <;> rfl
  obtain ⟨completes, exact⟩ := Glob.collect_tested shape
  refine ⟨completes.trans ?_, fun kept collected l => (exact kept collected l).trans ?_⟩
  · exact forall₂_congr fun l _ => Disk.leadsTo_completes_iff
  · simp

/-- A search by path asks for its directory, selects locations from there, and keeps the files. -/
theorem findFiles_ok_iff (byPath : namePattern? written = none)
    (read : Glob.parts written = .ok parts) :
    findFiles disk omissions base written = .ok found ↔
      disk.isDirectory base = .ok false ∧ found = [] ∨
        disk.isDirectory base = .ok true ∧ ∃ selected kept,
          Glob.select disk parts base = .ok selected ∧
          Glob.collect (fun l => do return if ← disk.isFile l then [l] else []) selected =
            .ok kept ∧ found = sorted kept := by
  -- Reading the steps off `findFiles`, a missing directory ends the search with nothing.
  simp only [findFiles, byPath, exceptBind_ok_iff, mapError_ok_iff]
  constructor
  · rintro ⟨stands, asked, searched⟩
    cases stands with
    | false => exact Or.inl ⟨asked, by simpa [Pure.pure, Except.pure, eq_comm] using searched⟩
    | true =>
      simp only [if_true, findByPath, read, Glob.find, asked, exceptBind_ok_iff, mapError_ok_iff,
        Except.ok.injEq, exists_eq_left', Pure.pure, Except.pure] at searched
      obtain ⟨selected, selecting, kept, keeping, rfl⟩ := searched
      exact Or.inr ⟨asked, selected, kept, selecting, keeping, rfl⟩
  · rintro (⟨asked, rfl⟩ | ⟨asked, selected, kept, selecting, keeping, rfl⟩)
    · exact ⟨false, asked, rfl⟩
    · refine ⟨true, asked, ?_⟩
      simp only [if_true, findByPath, read, Glob.find, asked, exceptBind_ok_iff, mapError_ok_iff,
        Except.ok.injEq, exists_eq_left', Pure.pure, Except.pure]
      exact ⟨selected, selecting, kept, keeping, rfl⟩

/-- A search by path comes to an answer exactly if its directory can be asked for, and what its
pattern selects there. What is found are the files among the selected locations. -/
theorem findFiles_complete (disk : Disk) (omissions : Omissions) (base : Location)
    (byPath : namePattern? written = none)
    (read : Glob.parts written = .ok parts) :
    ((∃ found, findFiles disk omissions base written = .ok found) ↔ ¬ disk.Exceeds base ∧
      (disk.isDirectory base = .ok true → ∃ selected, Glob.select disk parts base = .ok selected ∧
        ∀ l ∈ selected, ¬ disk.Exceeds l)) ∧
      ∀ found, findFiles disk omissions base written = .ok found → ∀ l, l ∈ found ↔
        disk.isDirectory base = .ok true ∧ ∃ selected, Glob.select disk parts base = .ok selected ∧
          l ∈ selected ∧ disk.isFile l = .ok true := by
  -- Every success is one of the two of `findFiles_ok_iff`.
  simp only [findFiles_ok_iff byPath read]
  constructor
  · rw [← Disk.leadsTo_completes_iff]
    constructor
    · rintro ⟨found, ⟨asked, rfl⟩ | ⟨asked, selected, kept, selecting, keeping, rfl⟩⟩
      · exact ⟨⟨false, asked⟩, fun stands => by rw [asked] at stands; cases stands⟩
      · exact ⟨⟨true, asked⟩, fun _ => ⟨selected, selecting,
          (keepFiles_complete disk selected).1.mp ⟨kept, keeping⟩⟩⟩
    · rintro ⟨⟨stands, asked⟩, selects⟩
      cases stands with
      | false => exact ⟨[], Or.inl ⟨asked, rfl⟩⟩
      | true =>
        obtain ⟨selected, selecting, within⟩ := selects asked
        obtain ⟨kept, keeping⟩ := (keepFiles_complete disk selected).1.mpr within
        exact ⟨_, Or.inr ⟨asked, selected, kept, selecting, keeping, rfl⟩⟩
  · rintro found (⟨asked, rfl⟩ | ⟨asked, selected, kept, selecting, keeping, rfl⟩) l
    · simp [asked]
    · rw [mem_sorted, (keepFiles_complete disk selected).2 kept keeping]
      simp [asked, selecting]

section

variable (wellNamed : disk.isWellNamed = true) (unlinked : disk.root.LacksLinks)

include wellNamed unlinked

/-- A search for names that match a pattern comes to an answer exactly if neither its directory nor
an entry that matches is too long. -/
theorem findFiles_matching_completes_iff (omissions : Omissions) (byPath : namePattern? written = none)
    (read : Glob.parts written = .ok [.matching pattern]) :
    (∃ found, findFiles disk omissions base written = .ok found) ↔ ¬ disk.Exceeds base ∧
      ∀ name node, disk.Holds base [name] node → Wildcard.fits name pattern = true →
        ¬ disk.Exceeds (base.below [name]) := by
  -- With a single part the search is the listing of the base, filtered.
  rw [(findFiles_complete disk omissions base byPath read).1]
  refine and_congr_right fun _ => ?_
  simp only [Glob.select_single]
  constructor
  · intro selects name node holds fitting
    have stands : disk.isDirectory base = .ok true := holds.isDirectory
    obtain ⟨selected, selecting, within⟩ := selects stands
    obtain ⟨here, matched, members⟩ :=
      Glob.matchingEntries_complete wellNamed unlinked pattern false stands
    rw [selecting] at matched
    cases matched
    exact within _ ((members _).mpr ⟨name, node, holds, nofun, fitting, rfl⟩)
  · intro each stands
    obtain ⟨here, matched, members⟩ :=
      Glob.matchingEntries_complete wellNamed unlinked pattern false stands
    refine ⟨here, matched, fun l among => ?_⟩
    obtain ⟨name, node, holds, _, fitting, rfl⟩ := (members l).mp among
    exact each name node holds fitting

/-- A search for a name in every directory comes to an answer exactly if neither its directory nor
the name in one of the directories there is too long. -/
theorem findFiles_named_completes_iff (omissions : Omissions)
    (byPath : namePattern? written = none)
    (read : Glob.parts written = .ok [.matching "*", .named name]) :
    (∃ found, findFiles disk omissions base written = .ok found) ↔ ¬ disk.Exceeds base ∧
      ∀ entry inner, disk.Holds base [entry] (.directory inner) →
        ¬ disk.Exceeds (base.below [entry, name]) := by
  -- Below the base there are two levels: each directory of the first is asked for the name.
  rw [(findFiles_complete disk omissions base byPath read).1]
  refine and_congr_right fun _ => ?_
  have selects := fun stands : disk.isDirectory base = .ok true =>
    Glob.select_named_complete wellNamed unlinked "*" name stands
  constructor
  · intro chooses entry inner holds
    obtain ⟨selected, selecting, _⟩ := chooses holds.isDirectory
    exact (selects holds.isDirectory).1.mp ⟨selected, selecting⟩ entry inner holds
      (Wildcard.fits_star entry)
  · intro each stands
    obtain ⟨selected, selecting⟩ := (selects stands).1.mpr fun entry inner holds _ =>
      each entry inner holds
    refine ⟨selected, selecting, fun l among => ?_⟩
    obtain ⟨entry, inner, holds, _, _, rfl⟩ := ((selects stands).2 selected selecting l).mp among
    exact each entry inner holds

/-- A search for a name in every directory comes to an answer exactly if neither its directory nor
the name in one of the directories there is too long; and it finds every file of that name there. -/
theorem findFiles_named_complete (omissions : Omissions) (byPath : namePattern? written = none)
    (read : Glob.parts written = .ok [.matching "*", .named name])
    (proper : isEntryName name = true) :
    ((∃ found, findFiles disk omissions base written = .ok found) ↔ ¬ disk.Exceeds base ∧
      ∀ entry inner, disk.Holds base [entry] (.directory inner) →
        ¬ disk.Exceeds (base.below [entry, name])) ∧
      ∀ found, findFiles disk omissions base written = .ok found → ∀ l, l ∈ found ↔
        ∃ entry bytes, disk.Holds base [entry, name] (.file bytes) ∧
          l = base.below [entry, name] := by
  obtain ⟨-, exact⟩ := findFiles_complete disk omissions base byPath read
  have selects := fun stands : disk.isDirectory base = .ok true =>
    Glob.select_named_complete wellNamed unlinked "*" name stands
  refine ⟨findFiles_named_completes_iff wellNamed unlinked omissions byPath read,
    fun found searched l => (exact found searched l).trans ?_⟩
  have within := ((findFiles_named_completes_iff wellNamed unlinked omissions byPath read).mp
    ⟨found, searched⟩).2
  constructor
  · rintro ⟨stands, selected, selecting, among, isFile⟩
    obtain ⟨entry, inner, holds, _, _, rfl⟩ := ((selects stands).2 selected selecting l).mp among
    obtain ⟨bytes, file⟩ :=
      (holds.isFile_iff wellNamed unlinked proper (within entry inner holds)).mp isFile
    exact ⟨entry, bytes, file, rfl⟩
  · rintro ⟨entry, bytes, file, rfl⟩
    obtain ⟨inner, holds⟩ := file.outer
    have fits := within entry inner holds
    have stands := holds.isDirectory
    obtain ⟨selected, selecting⟩ := (selects stands).1.mpr fun entry inner holds _ =>
      within entry inner holds
    have isFile := (holds.isFile_iff wellNamed unlinked proper fits).mpr ⟨bytes, file⟩
    -- Asking for a location and asking whether it is a file come to an answer alike.
    obtain ⟨place, bytes, located⟩ := Disk.isFile_true_iff.mp isFile
    have there : disk.exists? (base.below [entry, name]) = .ok true :=
      Disk.leadsTo_true_iff.mpr ⟨_, located, rfl⟩
    exact ⟨stands, selected, selecting, ((selects stands).2 selected selecting _).mpr
      ⟨entry, inner, holds, Wildcard.fits_star entry, there, rfl⟩, isFile⟩

end

end Scan

end AutomationIndex
