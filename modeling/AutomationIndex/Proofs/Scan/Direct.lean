import AutomationIndex.Proofs.Scan.Exact

/-! Searches for names in one directory: when they find the files that a search at all depths finds
directly in it. -/

namespace AutomationIndex

namespace Wildcard

/-- Characters that are no wildcards stand for themselves. -/
theorem piecesOf_literals {chars : List Char} (plain : ∀ c ∈ chars, c ≠ '*' ∧ c ≠ '?' ∧ c ≠ '[') :
    piecesOf chars = chars.map .literal := by
  -- Each character that opens no wildcard is a piece of its own.
  induction chars with
  | nil => rw [piecesOf, List.map_nil]
  | cons c rest ih =>
    obtain ⟨⟨noRun, noOne, noClass⟩, others⟩ := List.forall_mem_cons.mp plain
    rw [piecesOf, ih others, List.map_cons]
    · exact noRun
    · exact noOne
    · exact noClass

/-- Only one name fits a pattern without wildcards. -/
theorem fits_plain_iff {name written : String}
    (plain : ∀ c ∈ written.toList, c ≠ '*' ∧ c ≠ '?' ∧ c ≠ '[') :
    fits name written = true ↔ name = written := by
  rw [fits_iff, piecesOf_literals plain, matches_literals_iff, String.toList_inj]

/-- Every name fits two stars. -/
theorem fits_stars (name : String) : fits name "**" = true := by
  have pieces : piecesOf "**".toList = [.anyRun, .anyRun] := by decide +kernel
  rw [fits_iff, pieces]
  have rest : Matches [.anyRun] name.toList := matches_run_iff.mpr ⟨[], List.nil_suffix, Matches.done⟩
  exact matches_run_iff.mpr ⟨_, List.suffix_rfl, rest⟩

end Wildcard

namespace Glob

/-- Whether a pattern has a character that stands for others. -/
def hasWildcard (pattern : String) : Bool :=
  pattern.toList.any fun c => c == '*' || c == '?' || c == '['

/-- Whether a pattern has two stars in a row. -/
def hasStars (pattern : String) : Bool :=
  Text.occursIn ['*', '*'] pattern.toList

variable {disk : Disk} {l : Location} {pattern : String}

/-- A name without wildcards is no pattern for others. -/
theorem fits_iff_eq {name : String} (plain : hasWildcard pattern = false) :
    Wildcard.fits name pattern = true ↔ name = pattern := by
  refine Wildcard.fits_plain_iff fun c inside => ?_
  have single := List.any_eq_false.mp plain c inside
  simpa [and_assoc] using single

/-- A pattern for names is a path pattern with one part, unless it is a dot. -/
theorem parts_name (isName : isNamePattern pattern = true) (noDot : pattern ≠ ".") :
    parts pattern = (partOf pattern).map fun part => [part] := by
  simp only [isNamePattern, Bool.and_eq_true, List.all_eq_true] at isName
  obtain ⟨nonempty, apart⟩ := isName
  have some : pattern ≠ "" := by
    rintro rfl
    cases nonempty
  have slashless : '/' ∉ pattern.toList := fun inside => by simpa using apart '/' inside
  have segment : isSegment pattern = true := by
    simpa [isSegment, some, noDot] using fun c inside (same : c = '/') => slashless (same ▸ inside)
  have path : Location.posix pattern = ⟨.posix, "", "", [pattern]⟩ :=
    Location.ofParts_segments (by simpa using segment)
  have closed : (pattern.toList.getLast? == Option.some '/') = false := by
    rw [beq_eq_false_iff_ne]
    exact fun last => slashless (List.mem_of_getLast? last)
  -- Nothing follows the only segment.
  simp only [parts, path, closed, beq_iff_eq, some, bne_self_eq_false, if_false, Bool.false_eq_true,
    partsOf]
  cases partOf pattern <;> rfl

/-- A part for one name is what its text shows. -/
theorem partOf_eq (pattern : String) : partOf pattern =
    if pattern = "**" then .ok .anyDepth
    else if hasStars pattern then .error .partlyAnyDepth
    else if hasWildcard pattern then .ok (.matching pattern) else .ok (.named pattern) := by
  simp [partOf, hasStars, hasWildcard]

/-- Collecting comes to an answer exactly if it does for each element. -/
theorem collect_answers_iff {α β : Type} {f : α → Except DiskFault (List β)} {elements : List α} :
    (∃ found, collect f elements = .ok found) ↔ ∀ a ∈ elements, ∃ part, f a = .ok part := by
  -- One failing element fails the whole, so success is success of every element.
  induction elements with
  | nil => simp [collect]
  | cons a rest ih =>
    rw [List.forall_mem_cons, ← ih]
    simp only [collect, exceptBind_ok_iff, Pure.pure, Except.pure, Except.ok.injEq]
    constructor
    · rintro ⟨-, part, here, others, later, -⟩
      exact ⟨⟨part, here⟩, others, later⟩
    · rintro ⟨⟨part, here⟩, others, later⟩
      exact ⟨_, part, here, others, later, rfl⟩

/-- The entries of a directory that fit a pattern are told without a look at what they are. -/
theorem matchingEntries_all {entries : List (String × Node)} (listed : disk.entriesOf l = .ok entries)
    (pattern : String) : matchingEntries disk l pattern false =
      .ok ((entries.filter fun entry => Wildcard.fits entry.1 pattern).map fun entry =>
        l.child entry.1) := by
  simp only [matchingEntries, listed]
  clear listed
  -- The induction follows the listing, which is filtered as it is taken.
  induction entries with
  | nil => rfl
  | cons entry rest ih =>
    simp only [collect, ih, List.filter_cons]
    cases Wildcard.fits entry.1 pattern <;> rfl

/-- The directories from one on can be told exactly if none of them is too long, and all that is told
are directories. The names lead from a location to the first one. -/
theorem directoriesFrom_complete (wellNamed : disk.isWellNamed = true) {depth : Nat}
    {before : List String} {entries : List (String × Node)}
    (holds : disk.Holds l before (.directory entries)) (bound : (Node.directory entries).depth ≤ depth) :
    ((∃ found, directoriesFrom disk depth (l.below before) = .ok found) ↔
      ∀ way inner, disk.Holds l (before ++ way) (.directory inner) →
        ¬ disk.Exceeds (l.below (before ++ way))) ∧
      ∀ found, directoriesFrom disk depth (l.below before) = .ok found → ∀ x ∈ found,
        ∃ way inner, disk.Holds l (before ++ way) (.directory inner) ∧ x = l.below (before ++ way) := by
  induction depth generalizing before entries with
  | zero => simp [Node.depth] at bound
  | succ depth ih =>
    rcases holds.listing wellNamed with ⟨exceeds, failed⟩ | ⟨within, listing, listed, members⟩
    · -- The directory itself cannot be listed.
      simp only [directoriesFrom, failed]
      refine ⟨iff_of_false (by simp) fun short => ?_, by simp⟩
      exact short [] entries (by simpa using holds) (by simpa using exceeds)
    · obtain ⟨inner, shown⟩ : ∃ inner, inner =
        listing.filter fun entry => isDirectoryNode entry.2 := ⟨_, rfl⟩
      have directories (name : String) (node : Node) : (name, node) ∈ inner ↔
          ∃ deeper, node = .directory deeper ∧ disk.Holds l (before ++ [name]) node := by
        rw [shown, List.mem_filter, members]
        cases node <;> simp [isDirectoryNode]
      -- What the induction says about the directories in this one.
      have onward {name : String} {deeper : List (String × Node)}
          (stands : disk.Holds l (before ++ [name]) (.directory deeper)) :=
        ih stands (Nat.le_of_lt_succ ((Node.depth_lt_of_child? (holds.snoc_iff.mp stands)).trans_le bound))
      have told : directoriesFrom disk (depth + 1) (l.below before) =
          (collect (fun entry => directoriesFrom disk depth (l.below (before ++ [entry.1]))) inner).map
            (l.below before :: ·) := by
        simp only [directoriesFrom, listed, shown, Location.child_below]
        rfl
      rw [told]
      simp only [exceptMap_ok_iff]
      refine ⟨?_, ?_⟩
      · rw [exists_comm]
        simp only [exists_and_left, exists_eq', and_true, collect_answers_iff]
        constructor
        · intro each way last found
          cases way with
          | nil => simpa using within
          | cons name way =>
            rw [List.append_cons] at found ⊢
            obtain ⟨deeper, stands⟩ := found.through
            exact (onward stands).1.mp (each _ ((directories name _).mpr ⟨deeper, rfl, stands⟩)) way
              last found
        · rintro short ⟨name, node⟩ among
          obtain ⟨deeper, rfl, stands⟩ := (directories name node).mp among
          exact (onward stands).1.mpr fun way last found => by
            simpa using short (name :: way) last (by simpa using found)
      · rintro _ ⟨below, collected, rfl⟩ x member
        rcases List.mem_cons.mp member with rfl | member
        · exact ⟨[], entries, by simpa using holds, by simp⟩
        · obtain ⟨⟨name, node⟩, among, part, told, here⟩ := collect_mem collected member
          obtain ⟨deeper, rfl, stands⟩ := (directories name node).mp among
          obtain ⟨way, last, found, rfl⟩ := (onward stands).2 part told x here
          exact ⟨name :: way, last, by simpa using found, by simp⟩

end Glob

/-- Different names in a directory are different locations. -/
theorem Location.child_injective (base : Location) : Function.Injective base.child :=
  fun first second same => by simpa [Location.child_eq_below, Location.below_inj] using same

namespace Disk

variable {disk : Disk} {base : Location} {name : String}

/-- A name in a directory without links leads to a file exactly if the directory holds one under it,
where the location is not too long. -/
theorem isFile_child_iff (wellNamed : disk.isWellNamed = true) (stands : disk.isDirectory base = .ok true)
    (real : ∀ target, ¬ disk.Holds base [name] (.link target)) (noDot : name ≠ ".")
    (within : ¬ disk.Exceeds (base.child name)) :
    disk.isFile (base.child name) = .ok true ↔ ∃ bytes, disk.Holds base [name] (.file bytes) := by
  rw [isFile_true_iff]
  constructor
  · rintro ⟨place, bytes, below⟩
    obtain ⟨start, entries, located⟩ := isDirectory_true_iff.mp stands
    obtain ⟨fewer, onward⟩ := find_onward located
    -- A location with a NUL leads nowhere.
    have lacks : (base.child name).LacksNul := by
      rw [Location.lacksNul_iff]
      intro written
      rw [(find_nullCharacter_iff disk _ true).mpr written] at below
      cases below
    have followed := onward [name] fun only among =>
      lacks.segments_lack only (List.mem_append_right _ among)
    rw [← Location.child_eq_below, below] at followed
    split at followed
    · cases followed
    · have holds (node : Node) : disk.Holds base [name] node ↔
          (Node.directory entries).child? name = some node := by
        simp [Holds, located, Node.at?]
      refine ⟨bytes, (holds _).mpr ?_⟩
      exact followLinks_entry (find_at located) noDot
        (fun target entry => real target ((holds _).mpr entry)) followed.symm
  · rintro ⟨bytes, holds⟩
    rcases holds.found wellNamed (by simp) with ⟨place, below⟩ | exceeds
    · exact ⟨place, bytes, below⟩
    · exact absurd exceeds within

/-- Different entries of a directory have different locations. -/
theorem entryLocations_nodup (wellNamed : disk.isWellNamed = true) {entries : List (String × Node)}
    (listed : disk.entriesOf base = .ok entries) (chosen : String × Node → Bool) :
    ((entries.filter chosen).map fun entry => base.child entry.1).Nodup := by
  have distinct := (entriesOf_names wellNamed listed).1
  have fewer : (entries.filter chosen).Sublist entries := List.filter_sublist
  have each := (distinct.sublist (fewer.map Prod.fst)).map base.child_injective
  simpa [Function.comp_def] using each

/-- A location that leads to a directory is not too long. -/
theorem not_exceeds_of_isDirectory (stands : disk.isDirectory base = .ok true) :
    ¬ disk.Exceeds base := by
  obtain ⟨place, entries, located⟩ := isDirectory_true_iff.mp stands
  simp [Exceeds, located]

end Disk

namespace Scan

section

variable (disk : Disk) (base : Location) (pattern : String)

/-- Whether a directory directly holds a file under a name that fits a pattern. -/
def HoldsFitting (name : String) : Prop :=
  (∃ bytes, disk.Holds base [name] (.file bytes)) ∧ Wildcard.fits name pattern = true

/-- Whether a search in a directory asks where a name there leads: one that stands there and fits the
pattern, or the pattern itself where it has no wildcards. -/
def Asks (name : String) : Prop :=
  if Glob.hasWildcard pattern then
    (∃ node, disk.Holds base [name] node) ∧ Wildcard.fits name pattern = true
  else name = pattern

/-- Whether locations are those of the files that a directory directly holds under fitting names: all
of them, once each and in order. -/
structure ListsFitting (found : List Location) : Prop where
  nodup : found.Nodup
  inOrder : found.Pairwise fun a b => a.notAfter b = true
  members : ∀ l, l ∈ found ↔ ∃ name, HoldsFitting disk base pattern name ∧ l = base.child name

end

variable {disk : Disk} {omissions : Omissions} {base : Location} {pattern : String}
  {found : List Location}

/-- A pattern for names asks for no other depth. -/
theorem namePattern?_eq_none (isName : isNamePattern pattern = true) : namePattern? pattern = none := by
  -- A pattern of one name holds no separator, so it is not of the form for any depth.
  simp only [isNamePattern, Bool.and_eq_true, List.all_eq_true] at isName
  unfold namePattern?
  split
  · rename_i name read
    have slash := isName.2 '/' (by simp [read])
    simp at slash
  · rfl

/-- What a search by path finds are all fitting files, if the files among what it selects are. -/
theorem listsFitting_of_selected {parts : List GlobPart} (byPath : namePattern? pattern = none)
    (read : Glob.parts pattern = .ok parts) {selected : List Location}
    (selecting : Glob.select disk parts base = .ok selected) (distinct : selected.Nodup)
    (exact : ∀ l, l ∈ selected ∧ disk.isFile l = .ok true ↔
      ∃ name, HoldsFitting disk base pattern name ∧ l = base.child name)
    (stands : disk.isDirectory base = .ok true)
    (searched : findFiles disk omissions base pattern = .ok found) :
    ListsFitting disk base pattern found := by
  refine ⟨?_, ?_, fun l => ?_⟩
  -- The search without its sorting is the selection, and that holds no location twice.
  · have same : findByPath disk base pattern = .ok found := by
      simpa [findFiles, byPath, stands, Except.mapError, Bind.bind, Except.bind] using searched
    rcases findByPath_perm read same with rfl | ⟨_, kept, again, fewer, perm⟩
    · exact List.nodup_nil
    · rw [selecting] at again
      cases again
      exact perm.nodup_iff.mpr (distinct.sublist fewer)
  · rcases (findFiles_ok_iff byPath read).mp searched with ⟨-, rfl⟩ | ⟨-, _, kept, -, -, rfl⟩
    · exact List.Pairwise.nil
    · exact sorted_pairwise kept
  · rw [(findFiles_complete disk omissions base byPath read).2 found searched, ← exact]
    simp [stands, selecting]

section

variable (wellNamed : disk.isWellNamed = true) (stands : disk.isDirectory base = .ok true)
  (real : ∀ name target, ¬ disk.Holds base [name] (.link target))
  (isName : isNamePattern pattern = true)

include wellNamed stands real isName

omit stands real isName in
/-- A name that a search asks for fits and is no dot, if the pattern is none. -/
theorem Asks.fits {name : String} (asks : Asks disk base pattern name) (noDot : pattern ≠ ".") :
    Wildcard.fits name pattern = true ∧ name ≠ "." := by
  -- A wildcard is matched against a name that is really there; a plain name is asked for as it is.
  unfold Asks at asks
  split at asks
  · obtain ⟨⟨node, holds⟩, fitting⟩ := asks
    exact ⟨fitting, (noDots_of_isEntryName (holds.isEntryName wellNamed name (by simp))).1⟩
  · rename_i plain
    subst asks
    exact ⟨(Glob.fits_iff_eq (by simpa using plain)).mpr rfl, noDot⟩

omit isName in
/-- The files among the locations that a search asks for are the fitting files. -/
theorem asked_files_iff (noDot : pattern ≠ ".")
    (within : ∀ name, Asks disk base pattern name → ¬ disk.Exceeds (base.child name)) (l : Location) :
    (∃ name, Asks disk base pattern name ∧ l = base.child name) ∧ disk.isFile l = .ok true ↔
      ∃ name, HoldsFitting disk base pattern name ∧ l = base.child name := by
  constructor
  · rintro ⟨⟨name, asks, rfl⟩, isFile⟩
    obtain ⟨fitting, proper⟩ := asks.fits wellNamed noDot
    exact ⟨name, ⟨(Disk.isFile_child_iff wellNamed stands (real name) proper
      (within name asks)).mp isFile, fitting⟩, rfl⟩
  · rintro ⟨name, ⟨⟨bytes, holds⟩, fitting⟩, rfl⟩
    -- A file that fits is asked for, whether by the pattern or by its name.
    have asks : Asks disk base pattern name := by
      unfold Asks
      split
      · exact ⟨⟨_, holds⟩, fitting⟩
      · rename_i plain
        exact (Glob.fits_iff_eq (by simpa using plain)).mp fitting
    obtain ⟨-, proper⟩ := asks.fits wellNamed noDot
    exact ⟨⟨name, asks, rfl⟩, (Disk.isFile_child_iff wellNamed stands (real name) proper
      (within name asks)).mpr ⟨bytes, holds⟩⟩

/-- A search for a pattern with wildcards, but for two stars in a row, asks for the names that fit and
finds the files among them. -/
theorem findFiles_wildcard (omissions : Omissions) (noStars : Glob.hasStars pattern = false)
    (wild : Glob.hasWildcard pattern = true) :
    ((∃ found, findFiles disk omissions base pattern = .ok found) ↔
      ∀ name, Asks disk base pattern name → ¬ disk.Exceeds (base.child name)) ∧
      ∀ found, findFiles disk omissions base pattern = .ok found →
        ListsFitting disk base pattern found := by
  have noDot : pattern ≠ "." := by
    rintro rfl
    exact absurd wild (by decide)
  have noDepth : pattern ≠ "**" := by
    rintro rfl
    exact absurd noStars (by decide)
  have byPath := namePattern?_eq_none isName
  have read : Glob.parts pattern = .ok [.matching pattern] := by
    rw [Glob.parts_name isName noDot, Glob.partOf_eq, if_neg noDepth, noStars, wild]
    rfl
  -- The selected locations are those of the entries with fitting names.
  obtain ⟨entries, listed⟩ := Disk.entriesOf_of_isDirectory stands
  obtain ⟨selected, shown⟩ : ∃ selected, selected = ((entries.filter fun entry =>
    Wildcard.fits entry.1 pattern).map fun entry => base.child entry.1) := ⟨_, rfl⟩
  have selecting : Glob.select disk [.matching pattern] base = .ok selected := by
    rw [Glob.select_single, Glob.matchingEntries_all listed, shown]
  have asked : ∀ l, l ∈ selected ↔ ∃ name, Asks disk base pattern name ∧ l = base.child name := by
    intro l
    simp only [shown, List.mem_map, List.mem_filter, Prod.exists, Asks, wild, if_true,
      Disk.mem_entriesOf_iff wellNamed listed]
    constructor
    · rintro ⟨name, node, ⟨holds, fitting⟩, rfl⟩
      exact ⟨name, ⟨⟨node, holds⟩, fitting⟩, rfl⟩
    · rintro ⟨name, ⟨⟨node, holds⟩, fitting⟩, rfl⟩
      exact ⟨name, node, ⟨holds, fitting⟩, rfl⟩
  have answers : (∃ found, findFiles disk omissions base pattern = .ok found) ↔
      ∀ name, Asks disk base pattern name → ¬ disk.Exceeds (base.child name) := by
    rw [(findFiles_complete disk omissions base byPath read).1]
    constructor
    · rintro ⟨-, selects⟩ name asks
      obtain ⟨_, again, within⟩ := selects stands
      rw [selecting] at again
      cases again
      exact within _ ((asked _).mpr ⟨name, asks, rfl⟩)
    · intro within
      refine ⟨Disk.not_exceeds_of_isDirectory stands, fun _ => ⟨selected, selecting, fun l among => ?_⟩⟩
      obtain ⟨name, asks, rfl⟩ := (asked l).mp among
      exact within name asks
  refine ⟨answers, fun found searched =>
    listsFitting_of_selected byPath read selecting ?_ (fun l => ?_) stands searched⟩
  · rw [shown]
    exact Disk.entryLocations_nodup wellNamed listed _
  · rw [asked]
    exact asked_files_iff wellNamed stands real noDot (answers.mp ⟨found, searched⟩) l

/-- A search for a pattern without wildcards asks for this name and finds it if it is a file. -/
theorem findFiles_plain (omissions : Omissions) (noDot : pattern ≠ ".")
    (noStars : Glob.hasStars pattern = false) (plain : Glob.hasWildcard pattern = false) :
    ((∃ found, findFiles disk omissions base pattern = .ok found) ↔
      ∀ name, Asks disk base pattern name → ¬ disk.Exceeds (base.child name)) ∧
      ∀ found, findFiles disk omissions base pattern = .ok found →
        ListsFitting disk base pattern found := by
  have byPath := namePattern?_eq_none isName
  have noDepth : pattern ≠ "**" := by
    rintro rfl
    exact absurd plain (by decide)
  have read : Glob.parts pattern = .ok [.named pattern] := by
    rw [Glob.parts_name isName noDot, Glob.partOf_eq, if_neg noDepth, noStars, plain]
    rfl
  have asked (name : String) : Asks disk base pattern name ↔ name = pattern := by
    simp [Asks, plain]
  -- The name is selected if it leads anywhere, which can be told unless it is too long.
  have selecting {passed : Bool} (there : disk.exists? (base.child pattern) = .ok passed) :
      Glob.select disk [.named pattern] base = .ok (if passed then [base.child pattern] else []) := by
    rw [Glob.select_named, there]
    rfl
  have told : (∃ passed, disk.exists? (base.child pattern) = .ok passed) ↔
      ¬ disk.Exceeds (base.child pattern) := Disk.leadsTo_completes_iff
  have answers : (∃ found, findFiles disk omissions base pattern = .ok found) ↔
      ∀ name, Asks disk base pattern name → ¬ disk.Exceeds (base.child name) := by
    rw [(findFiles_complete disk omissions base byPath read).1]
    simp only [asked, forall_eq]
    constructor
    · rintro ⟨-, selects⟩
      obtain ⟨selected, chosen, -⟩ := selects stands
      rw [Glob.select_named, exceptMap_ok_iff] at chosen
      obtain ⟨passed, there, -⟩ := chosen
      exact told.mp ⟨passed, there⟩
    · intro within
      obtain ⟨passed, there⟩ := told.mpr within
      refine ⟨Disk.not_exceeds_of_isDirectory stands, fun _ => ⟨_, selecting there, ?_⟩⟩
      cases passed <;> simp [within]
  refine ⟨answers, fun found searched => ?_⟩
  have within := answers.mp ⟨found, searched⟩
  obtain ⟨passed, there⟩ := told.mpr (within pattern ((asked pattern).mpr rfl))
  refine listsFitting_of_selected byPath read (selecting there) (by cases passed <;> simp)
    (fun l => ?_) stands searched
  rw [← asked_files_iff wellNamed stands real noDot within l]
  simp only [asked, exists_eq_left]
  cases passed with
  | true => simp
  | false =>
    -- What leads nowhere is no file.
    refine iff_of_false (by simp) ?_
    rintro ⟨rfl, isFile⟩
    obtain ⟨place, bytes, located⟩ := Disk.isFile_true_iff.mp isFile
    have leads : disk.exists? (base.child pattern) = .ok true :=
      Disk.leadsTo_true_iff.mpr ⟨_, located, rfl⟩
    rw [there] at leads
    cases leads

omit real in
/-- A search for two stars looks at all directories and finds no file. -/
theorem findFiles_stars (omissions : Omissions) (stars : pattern = "**") :
    ((∃ found, findFiles disk omissions base pattern = .ok found) ↔
      ∀ way entries, disk.Holds base way (.directory entries) → ¬ disk.Exceeds (base.below way)) ∧
      ∀ found, findFiles disk omissions base pattern = .ok found → found = [] := by
  have byPath := namePattern?_eq_none isName
  have read : Glob.parts pattern = .ok [.anyDepth] := by
    rw [Glob.parts_name isName (by simp [stars]), Glob.partOf_eq, if_pos stars]
    rfl
  obtain ⟨place, entries, located⟩ := Disk.isDirectory_true_iff.mp stands
  have start : disk.Holds base [] (.directory entries) := ⟨_, located, rfl⟩
  have bound : (Node.directory entries).depth ≤ disk.root.depth + 1 :=
    Nat.le_succ_of_le (Node.depth_le_of_at? (Disk.find_at located))
  obtain ⟨told, directories⟩ := Glob.directoriesFrom_complete wellNamed start bound
  simp only [Location.below_nil, List.nil_append] at told directories
  -- What is selected are the directories, each of them once.
  have selecting (selected : List Location) : Glob.select disk [.anyDepth] base = .ok selected ↔
      ∃ here, Glob.directoriesFrom disk (disk.root.depth + 1) base = .ok here ∧
        here.eraseDups = selected := by
    simp [Glob.select, exceptBind_ok_iff, Glob.collect_single, Pure.pure, Except.pure]
  obtain ⟨answers, files⟩ := findFiles_complete disk omissions base byPath read
  refine ⟨answers.trans ⟨?_, ?_⟩, fun found searched => ?_⟩
  · rintro ⟨-, selects⟩
    obtain ⟨selected, chosen, -⟩ := selects stands
    obtain ⟨here, reached, -⟩ := (selecting selected).mp chosen
    exact told.mp ⟨here, reached⟩
  · intro short
    obtain ⟨here, reached⟩ := told.mpr short
    refine ⟨Disk.not_exceeds_of_isDirectory stands, fun _ =>
      ⟨_, (selecting _).mpr ⟨here, reached, rfl⟩, fun l among => ?_⟩⟩
    obtain ⟨way, inner, holds, rfl⟩ := directories here reached l (List.mem_eraseDups.mp among)
    exact short way inner holds
  · rw [List.eq_nil_iff_forall_not_mem]
    intro l member
    obtain ⟨-, selected, chosen, among, isFile⟩ := (files found searched l).mp member
    obtain ⟨here, reached, rfl⟩ := (selecting selected).mp chosen
    obtain ⟨way, inner, holds, rfl⟩ := directories here reached l (List.mem_eraseDups.mp among)
    -- A directory is no file.
    obtain ⟨spot, bytes, file⟩ := Disk.isFile_true_iff.mp isFile
    rcases holds.found wellNamed (by simp) with ⟨place, directory⟩ | exceeds
    · rw [file] at directory
      cases directory
    · rw [Disk.Exceeds, file] at exceeds
      cases exceeds

omit wellNamed stands real isName in
/-- No scan of a directory in another one finds what the other one holds directly. -/
theorem child_not_mem_joinScans {search : Search} {depth : Nat} {outer names : List String}
    {below : List Location} {name : String} (joined : joinScans (fun inner =>
      scanDirectory disk search depth (base.child inner) (outer ++ [inner])) names = .ok below) :
    base.child name ∉ below := by
  intro member
  obtain ⟨directory, -, part, inner, within⟩ := joinScans_mem joined member
  obtain ⟨⟨names, some, same, -⟩, -⟩ := scanDirectory_found inner _ within
  -- What is found there has a further name.
  have longer : base.below [name] = base.below (directory :: names) := by
    simpa [Location.child, Location.below] using same
  rw [Location.below_inj, List.cons.injEq] at longer
  exact some longer.2.symm

omit wellNamed stands real isName in
/-- What stands in the directory that is searched is ignored by its name. -/
theorem not_ignores_entry_iff {search : Search} {name : String} (apart : '/' ∉ name.toList)
    {isDirectory : Bool} : ¬ search.Ignores [name] isDirectory ↔
      isIgnored name isDirectory (search.ignorePatterns ++ alwaysIgnored) = false := by
  have told : search.leavesOut ([] ++ [name]) isDirectory = true ↔
      search.Ignores ([] ++ [name]) isDirectory := leavesOut_iff apart
  rw [List.nil_append] at told
  rw [← told, Search.leavesOut, String.intercalate_singleton, Bool.not_eq_true]

/-- What a search at all depths finds directly in the directory are the fitting files there that no
rule leaves out. -/
theorem findFiles_anyDepth_direct {all : List Location}
    (searched : findFiles disk omissions base ("**/" ++ pattern) = .ok all) :
    ∃ listed, (if omissions.respectGitignore then gitignorePatterns disk base else .ok []) =
        .ok listed ∧
      ∀ name, base.child name ∈ all ↔ HoldsFitting disk base pattern name ∧
        isIgnored name false (omissions.ignorePatterns ++ listed ++ alwaysIgnored) = false := by
  -- The directory stands, so the search has run, and the run starts with the directory's own
  -- entries.
  rcases (findFiles_anyDepth_iff isName).mp searched with ⟨none, -⟩ | ⟨-, named⟩
  · rw [stands] at none
    cases none
  obtain ⟨listed, scanned, read, ran, rfl⟩ := findNamed_ok_iff.mp named
  refine ⟨listed, read, fun name => ?_⟩
  obtain ⟨entries, entered⟩ := Disk.entriesOf_of_isDirectory stands
  rw [scan, scanDepth, scanDirectory, entered] at ran
  simp only [exceptBind_ok_iff, Pure.pure, Except.pure, Except.ok.injEq] at ran
  obtain ⟨below, joined, rfl⟩ := ran
  -- What is listed is what the disk holds one name below, and a deeper location is no child.
  have start (name : String) (node : Node) :
      (name, node) ∈ entries ↔ disk.Holds base ([] ++ [name]) node :=
    Disk.mem_entriesOf_iff wellNamed entered
  obtain ⟨search, shown⟩ : ∃ search, search =
    (⟨[pattern], omissions.ignorePatterns ++ listed, omissions.outputDirectories⟩ : Search) := ⟨_, rfl⟩
  have kept := @mem_keptNames_iff disk search base [] name entries wellNamed start real false
  rw [Location.below_nil] at kept
  rw [← shown, mem_sorted, List.mem_append, or_iff_left (child_not_mem_joinScans joined),
    List.mem_map_of_injective base.child_injective, List.mem_filter, kept]
  -- The one name wanted is the pattern.
  have wants : search.wants name = true ↔ Wildcard.fits name pattern = true := by
    simp [shown, Search.wants]
  -- For a name below the base the long ignore test is `isIgnored` of the bare name.
  have ignores {node : Node} (holds : disk.Holds base [name] node) :
      ¬ search.Ignores [name] false ↔
        isIgnored name false (omissions.ignorePatterns ++ listed ++ alwaysIgnored) = false := by
    have slashless := noSlash_of_isEntryName (holds.isEntryName wellNamed name (by simp))
    rw [not_ignores_entry_iff slashless, shown]
  rw [wants]
  constructor
  · rintro ⟨⟨node, holds, kind, kept⟩, fitting⟩
    cases node with
    | file bytes => exact ⟨⟨⟨bytes, holds⟩, fitting⟩, (ignores holds).mp kept⟩
    | directory inner => cases kind
    | link target => exact absurd holds (real name target)
  · rintro ⟨⟨⟨bytes, holds⟩, fitting⟩, kept⟩
    exact ⟨⟨_, holds, rfl, (ignores holds).mpr kept⟩, fitting⟩

/-- A search for a pattern without two stars in a row comes to an answer exactly if nothing that it asks
for is too long, and finds the fitting files. -/
theorem findFiles_direct (omissions : Omissions) (noDot : pattern ≠ ".")
    (noStars : Glob.hasStars pattern = false) :
    ((∃ found, findFiles disk omissions base pattern = .ok found) ↔
      ∀ name, Asks disk base pattern name → ¬ disk.Exceeds (base.child name)) ∧
      ∀ found, findFiles disk omissions base pattern = .ok found →
        ListsFitting disk base pattern found := by
  -- A pattern with wildcards is matched against each entry, one without is asked for.
  cases wild : Glob.hasWildcard pattern with
  | true => exact findFiles_wildcard wellNamed stands real isName omissions noStars wild
  | false => exact findFiles_plain wellNamed stands real isName omissions noDot noStars wild

omit wellNamed real in
/-- A pattern that is no path pattern is refused. -/
theorem findFiles_refused (omissions : Omissions) {fault : GlobFault}
    (refused : Glob.parts pattern = .error fault) :
    findFiles disk omissions base pattern = .error (.pattern fault) := by
  simp [findFiles, namePattern?_eq_none isName, stands, findByPath, refused, Except.mapError,
    Bind.bind, Except.bind]

/-- When a search for a pattern for names in one directory, which itself holds no links, comes to what
a search for it at all depths finds directly there. It does so unless the pattern is a dot or has two
stars in a row and no name is too long that it asks for; two stars alone do by chance, where there is
no file and no directory that is too long to be looked at. A dot and stars among other characters are
refused as path patterns, and two stars find directories only. -/
theorem direct_compared (omissions : Omissions) :
    ((∃ found, findFiles disk omissions base pattern = .ok found ∧
        ListsFitting disk base pattern found) ↔
      pattern ≠ "." ∧ Glob.hasStars pattern = false ∧
          (∀ name, Asks disk base pattern name → ¬ disk.Exceeds (base.child name)) ∨
        pattern = "**" ∧ (∀ name bytes, ¬ disk.Holds base [name] (.file bytes)) ∧
          ∀ way entries, disk.Holds base way (.directory entries) → ¬ disk.Exceeds (base.below way)) ∧
    (pattern = "." → findFiles disk omissions base pattern = .error (.pattern .noParts)) ∧
    (Glob.hasStars pattern = true → pattern ≠ "**" →
      findFiles disk omissions base pattern = .error (.pattern .partlyAnyDepth)) ∧
    (pattern = "**" → ∀ found, findFiles disk omissions base pattern = .ok found → found = []) ∧
    ∀ all, findFiles disk omissions base ("**/" ++ pattern) = .ok all →
      ∃ listed, (if omissions.respectGitignore then gitignorePatterns disk base else .ok []) =
          .ok listed ∧
        ∀ name, base.child name ∈ all ↔ HoldsFitting disk base pattern name ∧
          isIgnored name false (omissions.ignorePatterns ++ listed ++ alwaysIgnored) = false := by
  have dot : pattern = "." → findFiles disk omissions base pattern = .error (.pattern .noParts) := by
    rintro rfl
    exact findFiles_refused stands isName omissions (by decide)
  have among : Glob.hasStars pattern = true → pattern ≠ "**" →
      findFiles disk omissions base pattern = .error (.pattern .partlyAnyDepth) := by
    intro stars partly
    have noDot : pattern ≠ "." := by
      rintro rfl
      exact absurd stars (by decide)
    refine findFiles_refused stands isName omissions ?_
    rw [Glob.parts_name isName noDot, Glob.partOf_eq, if_neg partly, stars]
    rfl
  refine ⟨⟨?_, ?_⟩, dot, among, fun whole => ?_, fun all => ?_⟩
  · rintro ⟨found, searched, lists⟩
    have noDot : pattern ≠ "." := fun same => by
      rw [dot same] at searched
      cases searched
    cases stars : Glob.hasStars pattern with
    | false =>
      have direct := findFiles_direct wellNamed stands real isName omissions noDot stars
      exact .inl ⟨noDot, rfl, direct.1.mp ⟨found, searched⟩⟩
    | true =>
      have whole : pattern = "**" := by
        by_contra partly
        rw [among stars partly] at searched
        cases searched
      obtain ⟨answers, nothing⟩ := findFiles_stars wellNamed stands isName omissions whole
      refine .inr ⟨whole, fun name bytes holds => ?_, answers.mp ⟨found, searched⟩⟩
      -- Every name fits two stars, so any file would have to be listed.
      have fitting : Wildcard.fits name pattern = true := whole ▸ Wildcard.fits_stars name
      have listed := (lists.members _).mpr ⟨name, ⟨⟨bytes, holds⟩, fitting⟩, rfl⟩
      rw [nothing found searched] at listed
      cases listed
  · rintro (⟨noDot, stars, within⟩ | ⟨whole, fileless, short⟩)
    · obtain ⟨answers, lists⟩ := findFiles_direct wellNamed stands real isName omissions noDot stars
      obtain ⟨found, searched⟩ := answers.mpr within
      exact ⟨found, searched, lists found searched⟩
    · obtain ⟨answers, nothing⟩ := findFiles_stars wellNamed stands isName omissions whole
      obtain ⟨found, searched⟩ := answers.mpr short
      rw [nothing found searched] at searched
      refine ⟨[], searched, .nil, .nil, fun l => iff_of_false List.not_mem_nil ?_⟩
      rintro ⟨name, ⟨⟨bytes, holds⟩, -⟩, -⟩
      exact fileless name bytes holds
  · exact (findFiles_stars wellNamed stands isName omissions whole).2
  · exact findFiles_anyDepth_direct wellNamed stands real isName

end

/-- A disk with a directory that holds two files, and a third one further down. -/
def nestedDisk : Disk where
  root := .directory [("d", .directory [("A.apj", .file []), ("b.apj", .file []),
    ("sub", .directory [("C.apj", .file [])])])]

/-- Two stars among other characters stand for any run of them in a search at all depths, and are
refused in one directory. -/
theorem direct_compared_nestedDisk :
    nestedDisk.isWellNamed = true ∧ nestedDisk.isDirectory (Location.posix "/d") = .ok true ∧
      (∀ name target, ¬ nestedDisk.Holds (Location.posix "/d") [name] (.link target)) ∧
      isNamePattern "A**.apj" = true ∧
      findFiles nestedDisk {} (Location.posix "/d") ("**/" ++ "A**.apj") =
        .ok [Location.posix "/d/A.apj"] ∧
      findFiles nestedDisk {} (Location.posix "/d") "A**.apj" = .error (.pattern .partlyAnyDepth) := by
  have wellNamed : nestedDisk.isWellNamed = true := by decide
  have stands : nestedDisk.isDirectory (Location.posix "/d") = .ok true := by decide
  have real : ∀ name target, ¬ nestedDisk.Holds (Location.posix "/d") [name] (.link target) :=
    fun name target => Disk.Holds.not_link (Node.lacksLinks_of_targets (by decide))
  have isName : isNamePattern "A**.apj" = true := by decide
  -- The pattern is refused by the search in one directory, and names one file at any depth.
  obtain ⟨-, -, refused, -⟩ := direct_compared wellNamed stands real isName {}
  have listed : nestedDisk.entriesOf (Location.posix "/d") =
      .ok [("A.apj", .file []), ("b.apj", .file []), ("sub", .directory [("C.apj", .file [])])] :=
    Disk.entriesOf_inOrder rfl (by decide)
  -- The listing is in order already, so the whole scan is computed on it.
  have scanned : scan nestedDisk ⟨["A**.apj"], [], []⟩ (Location.posix "/d") =
      .ok [Location.posix "/d/A.apj"] := by
    rw [scan, scanDepth, scanDirectory, listed]
    decide +kernel
  have named : findNamed nestedDisk {} (Location.posix "/d") "A**.apj" =
      .ok [Location.posix "/d/A.apj"] :=
    findNamed_ok_iff.mpr ⟨[], _, by decide, scanned, by simp [sorted]⟩
  exact ⟨wellNamed, stands, real, isName, (findFiles_anyDepth_iff isName).mpr (.inr ⟨stands, named⟩),
    refused (by decide) (by decide)⟩

end Scan

end AutomationIndex
