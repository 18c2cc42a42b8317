import AutomationIndex.Proofs.Scan.Exact

/-! Narrowed searches: further patterns for directories take away what lies in the directories that
they are about, and nothing else. -/

namespace AutomationIndex.Scan

/-- Whether a pattern is written for directories only. -/
def IsForDirectories (pattern : String) : Prop :=
  pattern.toList.getLast? = some '/'

/-- The search that leaves out more. -/
def Search.narrowed (search : Search) (more : List String) : Search :=
  { search with ignorePatterns := search.ignorePatterns ++ more }

/-- Whether patterns are about none of the directories on a way that begins below the scanned one and
ends in a directory. -/
def KeepsClear (more : List String) (way : List String) : Prop :=
  ∀ outer, outer <+: way → outer ≠ [] → isIgnored ("/".intercalate outer) true more = false

/-- Whether patterns are about one of the directories, below the scanned one, that a file lies in. -/
def liesInIgnored (more : List String) (way : List String) : Bool :=
  way.inits.any fun outer =>
    outer != [] && outer != way && isIgnored ("/".intercalate outer) true more

variable {disk : Disk} {search : Search} {root : Location} {more outer way : List String}
  {name : String}

/-- A file lies in no directory that patterns are about exactly if its own directory keeps clear of
them. -/
theorem liesInIgnored_snoc : liesInIgnored more (outer ++ [name]) = false ↔ KeepsClear more outer := by
  simp only [liesInIgnored, List.any_eq_false, List.mem_inits, Bool.and_eq_true, bne_iff_ne,
    KeepsClear]
  -- What the way of the file begins with is the whole way or begins the way of its directory.
  constructor
  · intro none start begins some
    have shorter : start ≠ outer ++ [name] := by
      rintro rfl
      exact absurd begins.length_le (by simp)
    simpa [some, shorter] using none start (begins.trans (List.prefix_append _ _))
  · rintro clear start begins ⟨⟨some, shorter⟩, about⟩
    rcases List.prefix_concat_iff.mp begins with whole | begins
    · exact shorter whole
    · rw [clear start begins some] at about
      cases about

/-- A directory keeps clear of patterns exactly if the one that it lies in does and they are not about
the directory itself. -/
theorem keepsClear_snoc : KeepsClear more (outer ++ [name]) ↔
    -- A beginning of the longer way is the way itself or a beginning of the shorter one.
    KeepsClear more outer ∧ isIgnored ("/".intercalate (outer ++ [name])) true more = false := by
  constructor
  · intro clear
    exact ⟨fun start begins => clear start (begins.trans (List.prefix_append _ _)),
      clear _ List.prefix_rfl (by simp)⟩
  · rintro ⟨clear, last⟩ start begins some
    rcases List.prefix_concat_iff.mp begins with rfl | begins
    · exact last
    · exact clear start begins some

/-- Patterns for directories are about no file. -/
theorem isIgnored_file (each : ∀ pattern ∈ more, IsForDirectories pattern) (path : String) :
    isIgnored path false more = false := by
  rw [isIgnored, List.any_eq_false]
  intro pattern among
  -- A pattern that is a rule at all is one for directories.
  have last : pattern.toList.getLast? = some '/' := each pattern among
  unfold IgnoreRule.ofText?
  dsimp only
  split
  · rename_i rule read
    split at read
    · cases read
    · cases read
      simp [IgnoreRule.drops, last]
  · simp

/-- A narrowed search ignores what the search does and what the further patterns are about. -/
theorem narrowed_ignores_iff (apart : '/' ∉ name.toList) {isDirectory : Bool} :
    (search.narrowed more).Ignores (outer ++ [name]) isDirectory ↔
      search.Ignores (outer ++ [name]) isDirectory ∨
        isIgnored ("/".intercalate (outer ++ [name])) isDirectory more = true := by
  rw [← leavesOut_iff apart, ← leavesOut_iff apart]
  simp only [Search.leavesOut, Search.narrowed, isIgnored, List.any_append, Bool.or_eq_true]
  exact or_right_comm

section

variable (wellNamed : disk.isWellNamed = true) (each : ∀ pattern ∈ more, IsForDirectories pattern)

include wellNamed each

/-- A narrowed search keeps the files of a directory. -/
theorem narrowed_file_iff {bytes : List UInt8}
    (holds : disk.Holds root (outer ++ [name]) (.file bytes)) :
    (search.narrowed more).Ignores (outer ++ [name]) false ↔
      search.Ignores (outer ++ [name]) false := by
  have apart := noSlash_of_isEntryName (holds.isEntryName wellNamed name (by simp))
  rw [narrowed_ignores_iff apart, isIgnored_file each]
  simp

/-- A directory holds a file that a narrowed search wants exactly if the search wants it. So outputs
are passed over beside the same files. -/
theorem narrowed_holdsWanted_iff :
    HoldsWanted disk (search.narrowed more) root way ↔ HoldsWanted disk search root way := by
  refine exists_congr fun name => exists_congr fun bytes => and_congr_right fun holds => ?_
  rw [narrowed_file_iff wellNamed each holds]
  rfl

/-- A narrowed search enters the directories that the search does and that keep clear of the further
patterns. -/
theorem narrowed_isEntered_iff : IsEntered disk (search.narrowed more) root way ↔
    IsEntered disk search root way ∧ KeepsClear more way := by
  -- The induction takes the way apart from its end, one directory at a time.
  induction way using List.reverseRecOn with
  | nil =>
    have clear : KeepsClear more [] := fun start begins some =>
      absurd (List.prefix_nil.mp begins) some
    simp [IsEntered, clear]
  | append_singleton outer name ih =>
    have split (search : Search) : IsEntered disk search root (outer ++ [name]) ↔
        IsEntered disk search root outer ∧
          (∃ entries, disk.Holds root (outer ++ [name]) (.directory entries)) ∧
          ¬ search.Ignores (outer ++ [name]) true ∧
            (name ∈ search.pruned → ¬ HoldsWanted disk search root outer) :=
      ⟨fun entered => ⟨entered.outer, (isEntered_snoc_iff entered.outer).mp entered⟩,
        fun ⟨entered, onward⟩ => (isEntered_snoc_iff entered).mpr onward⟩
    rw [split, split, ih, keepsClear_snoc, narrowed_holdsWanted_iff wellNamed each]
    have kept : (∃ entries, disk.Holds root (outer ++ [name]) (.directory entries)) →
        (¬ (search.narrowed more).Ignores (outer ++ [name]) true ↔
          ¬ search.Ignores (outer ++ [name]) true ∧
            isIgnored ("/".intercalate (outer ++ [name])) true more = false) := by
      rintro ⟨entries, holds⟩
      have apart := noSlash_of_isEntryName (holds.isEntryName wellNamed name (by simp))
      rw [narrowed_ignores_iff apart, not_or, Bool.not_eq_true]
    constructor
    · rintro ⟨⟨entered, clear⟩, holds, ignored, outputs⟩
      obtain ⟨ignored, apart⟩ := (kept holds).mp ignored
      exact ⟨⟨entered, holds, ignored, outputs⟩, clear, apart⟩
    · rintro ⟨⟨entered, holds, ignored, outputs⟩, clear, apart⟩
      exact ⟨⟨entered, clear⟩, holds, (kept holds).mpr ⟨ignored, apart⟩, outputs⟩

/-- A narrowed search is meant to find the files that the search is and that lie in no directory that
the further patterns are about. -/
theorem narrowed_isIntended_iff : IsIntended disk (search.narrowed more) root way ↔
    IsIntended disk search root way ∧ liesInIgnored more way = false := by
  -- A file's own name is judged beside its directories, which the added patterns must leave alone.
  rcases List.eq_nil_or_concat' way with rfl | ⟨outer, name, rfl⟩
  · simp [IsIntended]
  · rw [isIntended_snoc_iff, isIntended_snoc_iff, liesInIgnored_snoc,
      narrowed_isEntered_iff wellNamed each]
    constructor
    · rintro ⟨⟨bytes, holds⟩, seeks, kept, entered, clear⟩
      exact ⟨⟨⟨bytes, holds⟩, seeks, (narrowed_file_iff wellNamed each holds).not.mp kept, entered⟩,
        clear⟩
    · rintro ⟨⟨⟨bytes, holds⟩, seeks, kept, entered⟩, clear⟩
      exact ⟨⟨bytes, holds⟩, seeks, (narrowed_file_iff wellNamed each holds).not.mpr kept, entered,
        clear⟩

end

/-- What further patterns for directories do to a scan of a disk without links, whatever the search
and the location are. Where the search answers, so does the narrowed one, with the same files in the
same order but for those that lie in a directory that the patterns are about. The narrowed search
answers exactly if no directory that the search enters has too long a path and keeps clear of the
patterns, and lists those of the files that the search is meant to find even where the search itself
fails for a directory that the patterns are about. -/
theorem scan_narrowed (wellNamed : disk.isWellNamed = true) (unlinked : disk.root.LacksLinks)
    (search : Search) (root : Location) {more : List String}
    (each : ∀ pattern ∈ more, IsForDirectories pattern) :
    (∀ found, scan disk search root = .ok found → ∃ ways : List (List String),
      found = ways.map root.below ∧ scan disk (search.narrowed more) root =
        .ok ((ways.filter fun way => !liesInIgnored more way).map root.below)) ∧
    ((∃ less, scan disk (search.narrowed more) root = .ok less) ↔
      root.LacksNul ∧ ¬ disk.Exceeds root ∧ ∀ way, IsEntered disk search root way →
        KeepsClear more way → ¬ disk.Exceeds (root.below way)) ∧
    ∀ less, scan disk (search.narrowed more) root = .ok less →
      ListsInOrder root.below
        (fun way => IsIntended disk search root way ∧ liesInIgnored more way = false) less := by
  have answers : (∃ less, scan disk (search.narrowed more) root = .ok less) ↔
      root.LacksNul ∧ ¬ disk.Exceeds root ∧ ∀ way, IsEntered disk search root way →
        KeepsClear more way → ¬ disk.Exceeds (root.below way) := by
    simp only [scan_answers_iff wellNamed unlinked, narrowed_isEntered_iff wellNamed each, and_imp]
  have lists : ∀ less, scan disk (search.narrowed more) root = .ok less →
      ListsInOrder root.below
        (fun way => IsIntended disk search root way ∧ liesInIgnored more way = false) less :=
    fun less scanned => (scan_listed wellNamed unlinked scanned).congr fun way =>
      narrowed_isIntended_iff wellNamed each
  refine ⟨fun found scanned => ?_, answers, lists⟩
  -- The narrowed search enters less, so it does not fail where the search does not.
  obtain ⟨lacks, within, short⟩ := (scan_answers_iff wellNamed unlinked).mp ⟨found, scanned⟩
  obtain ⟨less, narrowed⟩ := answers.mpr ⟨lacks, within, fun way entered _ => short way entered⟩
  obtain ⟨ways, located, kept⟩ :=
    (scan_listed wellNamed unlinked scanned).filter fun way => !liesInIgnored more way
  refine ⟨ways, located, narrowed.trans (congrArg Except.ok ?_)⟩
  exact (lists less narrowed).unique (kept.congr fun way => by simp)

/-- A disk with a project, and with a copy of it in the outputs of an archive. -/
def archiveDisk : Disk where
  root := .directory [("ws", .directory [("New", .directory [("A.apj", .file [])]),
    ("Old", .directory [("Temp", .directory [("A.apj", .file [])])])])]

/-- A pattern for the outputs of the archive takes away the copy, and the project stays. -/
theorem scan_narrowed_archiveDisk :
    archiveDisk.isWellNamed = true ∧ archiveDisk.root.LacksLinks ∧
      (∀ pattern ∈ ["Old/Temp/"], IsForDirectories pattern) ∧
      let search : Search := { patterns := ["*.apj"], pruned := ["Temp"] }
      scan archiveDisk search (Location.posix "/ws") =
          .ok [Location.posix "/ws/New/A.apj", Location.posix "/ws/Old/Temp/A.apj"] ∧
        scan archiveDisk (search.narrowed ["Old/Temp/"]) (Location.posix "/ws") =
          .ok [Location.posix "/ws/New/A.apj"] := by
  have wellNamed : archiveDisk.isWellNamed = true := by decide
  have unlinked : archiveDisk.root.LacksLinks := Node.lacksLinks_of_targets (by decide)
  have each : ∀ pattern ∈ ["Old/Temp/"], IsForDirectories pattern := by
    simp [IsForDirectories]
  refine ⟨wellNamed, unlinked, each, ?_⟩
  intro search
  have listed : archiveDisk.entriesOf (Location.posix "/ws") =
      .ok [("New", .directory [("A.apj", .file [])]),
        ("Old", .directory [("Temp", .directory [("A.apj", .file [])])])] :=
    Disk.entriesOf_inOrder rfl (by decide)
  have scanned : scan archiveDisk search (Location.posix "/ws") =
      .ok [Location.posix "/ws/New/A.apj", Location.posix "/ws/Old/Temp/A.apj"] := by
    rw [scan, scanDepth, scanDirectory, listed]
    decide +kernel
  obtain ⟨same, -, -⟩ := scan_narrowed wellNamed unlinked search (Location.posix "/ws") each
  obtain ⟨ways, located, narrowed⟩ := same _ scanned
  refine ⟨scanned, narrowed.trans (congrArg Except.ok ?_)⟩
  -- The ways of the answer are known by their locations.
  have written : [Location.posix "/ws/New/A.apj", Location.posix "/ws/Old/Temp/A.apj"] =
      [["New", "A.apj"], ["Old", "Temp", "A.apj"]].map (Location.posix "/ws").below := by
    decide
  have known : ways = [["New", "A.apj"], ["Old", "Temp", "A.apj"]] :=
    List.map_injective_iff.mpr (fun _ _ => Location.below_inj.mp) (located.symm.trans written)
  rw [known]
  decide +kernel

end AutomationIndex.Scan
