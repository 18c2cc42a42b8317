import AutomationIndex.Proofs.Command.Agreement
import AutomationIndex.Proofs.Disk.Added
import AutomationIndex.Proofs.Scan.Direct

/-! Locations that are described without named roots: the nearest directory around them that holds a
project file is the project's, or there is no answer. -/

namespace AutomationIndex

/-- A proper segment that is no double dot and has no NUL can name an entry. -/
theorem isEntryName_of_isSegment {name : String} (segment : isSegment name = true)
    (noUp : name ≠ "..") (lacks : LacksNul name) : isEntryName name = true := by
  simp only [isSegment, Bool.and_eq_true, List.all_eq_true] at segment
  obtain ⟨⟨nonempty, noDot⟩, slashless⟩ := segment
  simp only [isEntryName, Bool.and_eq_true, List.all_eq_true, bne_iff_ne]
  refine ⟨⟨⟨by simpa using nonempty, by simpa using noDot⟩, noUp⟩, fun c inside => ?_⟩
  exact ⟨by simpa using slashless c inside, fun nul => lacks (nul ▸ inside)⟩

namespace Location

/-- The locations around a location are those that enclose it. -/
theorem mem_ancestors_iff {outer l : Location} : outer ∈ l.ancestors ↔ outer.Encloses l := by
  -- An ancestor keeps some number of leading segments, and each such number is climbed to.
  simp only [ancestors, List.mem_map, List.mem_range]
  constructor
  · rintro ⟨climbed, -, rfl⟩
    exact ⟨rfl, rfl, rfl, List.take_prefix _ _⟩
  · rintro ⟨style, drive, root, begins⟩
    have shorter := begins.length_le
    refine ⟨l.segments.length - outer.segments.length, by omega, ?_⟩
    rw [Nat.sub_sub_self shorter, ← List.prefix_iff_eq_take.mp begins, ← style, ← drive, ← root]

/-- Each of the locations around a location encloses those that come before it. -/
theorem ancestors_pairwise (l : Location) :
    l.ancestors.Pairwise fun inner outer => outer.Encloses inner := by
  rw [ancestors, List.pairwise_map]
  refine List.pairwise_lt_range.imp fun climbs => ?_
  exact ⟨rfl, rfl, rfl, List.take_prefix_take_left (by omega)⟩

/-- What encloses a location and is another one encloses what is directly around the location. -/
theorem Encloses.parent {outer l : Location} (encloses : outer.Encloses l) (other : outer ≠ l) :
    outer.Encloses l.parent := by
  obtain ⟨style, drive, root, begins⟩ := encloses
  refine ⟨style, drive, root, ?_⟩
  rcases List.eq_nil_or_concat' l.segments with none | ⟨before, last, parted⟩
  · simpa [Location.parent, none] using begins
  · rw [Location.parent, parted, List.dropLast_concat]
    rw [parted] at begins
    rcases List.prefix_concat_iff.mp begins with whole | begins
    · -- All the parts would be the same.
      cases outer
      cases l
      simp_all
    · exact begins

/-- What is directly around a location encloses it. -/
theorem parent_encloses (l : Location) : l.parent.Encloses l :=
  ⟨rfl, rfl, rfl, List.dropLast_prefix _⟩

/-- What encloses a posix location is one. -/
theorem Encloses.isPosix {outer l : Location} (encloses : outer.Encloses l) (plain : l.IsPosix) :
    outer.IsPosix :=
  ⟨encloses.style_eq.trans plain.style_eq, encloses.drive_eq.trans plain.drive_eq,
    encloses.root_eq ▸ plain.root_cases, fun segment among =>
      plain.segments_ok segment (encloses.segments_begin.subset among)⟩

end Location

namespace Command

variable {disk : Disk}

/-- A disk without links stays one with a log file, which is made under names of entries. -/
theorem openLog_keeps (wellNamed : disk.isWellNamed = true) (unlinked : disk.root.LacksLinks)
    {path : String} {opened : Disk} (ran : openLog disk path = .ok opened) :
    opened.isWellNamed = true ∧ opened.root.LacksLinks := by
  have posix := Location.posix_isPosix path
  unfold openLog at ran
  extract_lets written l place at ran
  have rooted : l.root ≠ "" := by
    dsimp only [l]
    split
    · simp
    · rename_i some
      simpa using some
  have plain : ∀ name ∈ l.segments, name ≠ "." ∧ name ≠ ".." := Disk.plainNames_noDots _
  have segments : ∀ name ∈ l.segments, isSegment name = true := by
    refine Disk.plainNames_isSegment fun name among => ?_
    rcases List.mem_append.mp among with outer | own
    · split at outer
      · simp only [Disk.isWellNamed, Bool.and_eq_true, List.all_eq_true] at wellNamed
        exact Disk.isStep_of_isSegment (isSegment_of_isEntryName (wellNamed.2 name outer))
      · cases outer
    · exact Disk.isStep_of_isSegment (posix.segments_ok name own)
  have self : place = l.segments := Disk.resolvePlace_self unlinked rooted plain
  clear_value place
  clear_value l
  split at ran
  · cases ran
  · cases ran
    exact ⟨wellNamed, unlinked⟩
  · rename_i missing
    split at ran
    · cases ran
      -- The new file has the names of the location, none of which has a NUL.
      have lacks : l.LacksNul := by
        rw [Location.lacksNul_iff]
        intro written
        rw [(Disk.find_nullCharacter_iff disk l true).mpr written] at missing
        cases missing
      rw [self]
      exact ⟨Disk.putAt_isWellNamed wellNamed (fun name among => isEntryName_of_isSegment
        (segments name among) (plain name among).2 (lacks.segments_lack name among)) [],
        Disk.putAt_lacksLinks unlinked _ []⟩
    · cases ran
  · cases ran

/-- Whether a directory directly holds a file whose name fits the pattern for project files. -/
def HoldsProject (disk : Disk) (pattern : String) (directory : Location) : Prop :=
  ∃ name, Scan.HoldsFitting disk directory pattern name

/-- Whether a directory is the nearest one around a location that holds a project file. -/
structure IsNearest (disk : Disk) (pattern : String) (l root : Location) : Prop where
  encloses : root.Encloses l
  holds : HoldsProject disk pattern root
  nearest : ∀ outer : Location, outer.Encloses l → HoldsProject disk pattern outer →
    outer.Encloses root

/-- Only a directory holds a project file. -/
theorem HoldsProject.isDirectory {pattern : String} {directory : Location}
    (holds : HoldsProject disk pattern directory) : disk.isDirectory directory = .ok true := by
  obtain ⟨name, ⟨bytes, stands⟩, -⟩ := holds
  exact stands.isDirectory

section

variable {scan : ScanSettings} (wellNamed : disk.isWellNamed = true) (unlinked : disk.root.LacksLinks)
  (noStars : Glob.hasStars scan.projectFilePattern = false) (noDot : scan.projectFilePattern ≠ ".")

include wellNamed unlinked noStars noDot

/-- A search for project files in one place finds some exactly if the place directly holds some. -/
theorem findFiles_eq_nil_iff {directory : Location} {found : List Location}
    (searched : Scan.findFiles disk scan.omissions directory scan.projectFilePattern = .ok found) :
    found = [] ↔ ¬ HoldsProject disk scan.projectFilePattern directory := by
  -- The search asks first whether the directory stands.
  obtain ⟨stands, asked⟩ : ∃ stands, disk.isDirectory directory = .ok stands := by
    simp only [Scan.findFiles, exceptBind_ok_iff, mapError_ok_iff] at searched
    obtain ⟨stands, asked, -⟩ := searched
    exact ⟨stands, asked⟩
  cases stands with
  | false =>
    have none : found = [] := by
      simpa [Scan.findFiles, asked, Except.mapError, Bind.bind, Except.bind, Pure.pure, Except.pure,
        eq_comm] using searched
    -- A project in it would make it stand.
    refine iff_of_true none fun holds => ?_
    have stands := holds.isDirectory
    rw [asked] at stands
    cases stands
  | true =>
    -- In a standing directory the list is the matching files, since the pattern stays in one
    -- directory.
    have lists := (Scan.findFiles_direct wellNamed asked
      (fun name target => Disk.Holds.not_link unlinked) scan.pattern_isName scan.omissions noDot
      noStars).2 found searched
    rw [List.eq_nil_iff_forall_not_mem]
    simp only [lists.members, HoldsProject]
    constructor
    · rintro none ⟨name, holds⟩
      exact none _ ⟨name, holds, rfl⟩
    · rintro none l ⟨name, holds, rfl⟩
      exact none ⟨name, holds⟩

/-- The nearest of some directories with a project file is the first one that holds some. -/
theorem nearest?_cases {directories : List Location} {answer : Option Location}
    (ran : nearest? disk scan directories = .ok answer) :
    answer = none ∧ (∀ directory ∈ directories,
        ¬ HoldsProject disk scan.projectFilePattern directory) ∨
      ∃ inner root outer, answer = some root ∧ directories = inner ++ root :: outer ∧
        HoldsProject disk scan.projectFilePattern root ∧
        ∀ directory ∈ inner, ¬ HoldsProject disk scan.projectFilePattern directory := by
  -- The induction follows the search outwards, and `found` decides each directory.
  induction directories with
  | nil =>
    cases ran
    exact .inl ⟨rfl, by simp⟩
  | cons directory outer ih =>
    simp only [nearest?, exceptBind_ok_iff] at ran
    obtain ⟨found, searched, ran⟩ := ran
    have holds := findFiles_eq_nil_iff wellNamed unlinked noStars noDot searched
    cases found with
    -- Nothing matched here: the directory joins those passed over, or none is left.
    | nil =>
      have bare := holds.mp rfl
      rcases ih ran with ⟨none, others⟩ | ⟨inner, root, more, answered, parted, here, before⟩
      · exact .inl ⟨none, List.forall_mem_cons.mpr ⟨bare, others⟩⟩
      · refine .inr ⟨directory :: inner, root, more, answered, by rw [parted]; rfl, here, ?_⟩
        exact List.forall_mem_cons.mpr ⟨bare, before⟩
    -- The first match ends the search.
    | cons first rest =>
      cases ran
      have here : HoldsProject disk scan.projectFilePattern directory := by
        by_contra bare
        cases holds.mpr bare
      exact .inr ⟨[], directory, outer, rfl, rfl, here, by simp⟩

/-- The root that is guessed for a location is the nearest directory around it with a project file, or
the working directory if there is none. -/
theorem guessRoot_cases {l root : Location} (guessed : guessRoot disk scan l = .ok root) :
    IsNearest disk scan.projectFilePattern l root ∨
      root = Disk.locationOf disk.working ∧ ∀ outer : Location, outer.Encloses l →
        ¬ HoldsProject disk scan.projectFilePattern outer := by
  simp only [guessRoot, exceptBind_ok_iff, mapError_ok_iff, Pure.pure, Except.pure,
    Except.ok.injEq] at guessed
  obtain ⟨stands, asked, answer, ran, rfl⟩ := guessed
  obtain ⟨start, shown⟩ : ∃ start, start = if stands then l else l.parent := ⟨_, rfl⟩
  -- What holds a project file around the location is where the search starts or around it.
  have around : ∀ outer : Location, outer.Encloses l →
      HoldsProject disk scan.projectFilePattern outer → outer.Encloses start := by
    intro outer encloses holds
    rw [shown]
    cases stands with
    | true => exact encloses
    | false =>
      refine encloses.parent ?_
      rintro rfl
      have directory := holds.isDirectory
      rw [asked] at directory
      cases directory
  have within : start.Encloses l := by
    rw [shown]
    split
    · exact Location.Encloses.refl l
    · exact l.parent_encloses
  rw [← shown] at ran
  rcases nearest?_cases wellNamed unlinked noStars noDot ran with
    ⟨rfl, none⟩ | ⟨inner, root, outer, rfl, parted, here, before⟩
  · exact .inr ⟨rfl, fun outer encloses holds =>
      none outer (Location.mem_ancestors_iff.mpr (around outer encloses holds)) holds⟩
  · have chain := start.ancestors_pairwise
    rw [parted] at chain
    obtain ⟨-, after, -⟩ := List.pairwise_append.mp chain
    have reached : root ∈ start.ancestors := by simp [parted]
    refine .inl ⟨(Location.mem_ancestors_iff.mp reached).trans within, here, ?_⟩
    intro other encloses holds
    -- The other directory comes after the first one that holds a project file.
    have among := Location.mem_ancestors_iff.mpr (around other encloses holds)
    rw [parted, List.mem_append, List.mem_cons] at among
    rcases among with sooner | rfl | later
    · exact absurd holds (before other sooner)
    · exact Location.Encloses.refl _
    · exact (List.pairwise_cons.mp after).1 other later

end

section

variable (wellNamed : disk.isWellNamed = true) (unlinked : disk.root.LacksLinks)

include wellNamed unlinked

/-- The directory of every file that is found below a root holds a project file. -/
theorem filesBelow_holds {index : Index} {root file : Location} {found : List Location}
    (searched : index.filesBelow disk root = .ok found) (member : file ∈ found) :
    HoldsProject disk index.settings.scan.projectFilePattern file.parent := by
  rcases Index.filesBelow_isSearchOf searched with ⟨-, rfl⟩ | ⟨-, listed, scanned, -, ran, same, -⟩
  · cases member
  obtain ⟨ways, located, -, members⟩ := Scan.scan_listed wellNamed unlinked ran
  obtain ⟨-, -, short⟩ := (Scan.scan_answers_iff wellNamed unlinked).mp ⟨_, ran⟩
  rw [same.mem_iff, located] at member
  obtain ⟨way, among, rfl⟩ := List.mem_map.mp member
  obtain ⟨outer, name, bytes, rfl, holds, ⟨pattern, looked, fits⟩, -, entered⟩ := (members way).mp among
  rw [List.mem_singleton.mp looked] at fits
  have directory : (root.below (outer ++ [name])).parent = root.below outer := by
    simp [Location.parent, Location.below, ← List.append_assoc]
  rw [directory]
  -- The directory was entered, so it is found by its own location.
  obtain ⟨⟨entries, stands⟩, -⟩ := id entered
  rcases stands.found wellNamed (by simp) with ⟨place, below⟩ | exceeds
  · refine ⟨name, ⟨bytes, _, below, ?_⟩, Wildcard.fits_iff.mpr fits⟩
    simpa [Node.at?] using stands.snoc_iff.mp holds
  · exact absurd exceeds (short outer entered)

/-- The root of every project of a scanned workspace directly holds a project file. -/
theorem known_holds {settings : Settings} {roots : List String} {index : Index}
    (ran : scanned disk settings roots = .ok index) :
    ∀ p ∈ index.known, HoldsProject disk settings.scan.projectFilePattern p.root ∧
      ∃ root ∈ roots, ∃ l, disk.resolveNamed (.posix root) = .ok l ∧ l.Encloses p.root := by
  -- The run is the creation of the index and one scan of it.
  obtain ⟨made, created, updated⟩ := exceptBind_ok_iff.mp ran
  rw [mapError_ok_iff] at created updated
  have named := Index.create_roots created
  obtain ⟨places, rfl⟩ := Index.create_atPlaces created
  obtain ⟨found, discovered, -, rfl⟩ :=
    (Index.update_ok_iff (Index.atPlaces_rooted places settings none)).mp updated
  intro p known
  -- A known project was loaded from a file found below one of the roots.
  obtain ⟨file, first, loaded⟩ := Index.mem_loaded.mp known
  rw [Project.load_root loaded]
  obtain ⟨l, among, part, below, within⟩ :=
    Index.discovered_from discovered (Index.firstPerDirectory_subset first)
  refine ⟨filesBelow_holds wellNamed unlinked below within, ?_⟩
  obtain ⟨root, given, resolves⟩ := named l among
  obtain ⟨text, listed, rfl⟩ := List.mem_map.mp given
  exact ⟨text, listed, l, resolves, Index.liesUnder_parent (Index.filesBelow_mem below within).1⟩

omit wellNamed in
/-- What encloses a resolved location is resolved already. -/
theorem resolveNamed_outer {path : String} {l root again : Location}
    (resolves : disk.resolveNamed (.posix path) = .ok l) (encloses : root.Encloses l)
    (reads : disk.resolveNamed root = .ok again) : again = root := by
  obtain ⟨place, rfl, noDots⟩ := Disk.resolveNamed_place resolves
  obtain ⟨style, drive, start, begins⟩ := encloses
  have dots : ∀ name ∈ root.segments, name ≠ "." ∧ name ≠ ".." :=
    fun name among => noDots name (begins.subset among)
  have rooted : root = Disk.locationOf root.segments := by
    cases root
    simp_all [Disk.locationOf]
  -- The root begins at the top, so it stands for its own names.
  have named : disk.expandHome root = .ok root := by
    rw [rooted]
    rfl
  simp only [Disk.resolveNamed, named, Bind.bind, Except.bind, Disk.resolve] at reads
  rw [Disk.resolvePlace_self unlinked (by rw [start]; simp [Disk.locationOf]) dots, ← rooted] at reads
  split at reads
  · cases reads
  · split at reads
    · cases reads
    · cases reads
      rfl

end

/-- Whether an outcome tells that a location belongs to the project with a root. -/
def Reports (asJson : Bool) (l root : Location) (outcome : Outcome) : Prop :=
  ∃ p info, p.root = root ∧
    outcome = succeed asJson (locationJson l p info) (locationPrinted l p info)

/-- A location is described from the scan of the root that is guessed for it. -/
theorem runInfo_guessed {settings : Settings} {asJson : Bool} {task : Task} {path : String}
    {l root : Location} (resolves : disk.resolveNamed (.posix path) = .ok l)
    (guessed : guessRoot disk settings.scan l = .ok root) (plain : root.IsPosix) :
    (runInfo disk settings asJson task path []).result =
      (scanned disk settings [root.text]).map (described asJson l) := by
  -- The guessed root is put in the place of the missing one, and the rest of the run is the same.
  have same : (runInfo disk settings asJson task path []).result =
      (runInfo disk settings asJson task path [root.text]).result := by
    simp only [runInfo, resolved, Logged.bind_result, Logged.ofExcept_result, Logged.pure_result,
      resolves, List.isEmpty_nil, List.isEmpty_cons, if_true, Bool.false_eq_true, if_false,
      List.map_cons, List.map_nil, Location.posix_text plain]
    simp only [Except.mapError, Bind.bind, Except.bind, guessed]
  rw [same, runInfo_result _ _ _ _ _ (by simp), resolves]
  cases scanned disk settings [root.text] <;> rfl

/-- A location is described only if a root can be guessed for it. -/
theorem guessed_of_runInfo {settings : Settings} {asJson : Bool} {task : Task} {path : String}
    {l : Location} (resolves : disk.resolveNamed (.posix path) = .ok l) {outcome : Outcome}
    (ran : (runInfo disk settings asJson task path []).result = .ok outcome) :
    ∃ root, guessRoot disk settings.scan l = .ok root := by
  -- A search for the root that fails ends the command before anything is described.
  cases guessed : guessRoot disk settings.scan l with
  | ok root => exact ⟨root, rfl⟩
  | error fault =>
    simp only [runInfo, resolved, Logged.bind_result, Logged.ofExcept_result, resolves,
      List.isEmpty_nil, if_true] at ran
    simp only [Except.mapError, Bind.bind, Except.bind, guessed] at ran
    cases ran

/-- Only one directory is the nearest. -/
theorem IsNearest.unique {pattern : String} {l root other : Location}
    (nearest : IsNearest disk pattern l root) (again : IsNearest disk pattern l other) : root = other :=
  (again.nearest root nearest.encloses nearest.holds).antisymm
    (nearest.nearest other again.encloses again.holds)

/-- Whether a scan of a directory publishes a project with this root. -/
def Publishes (disk : Disk) (settings : Settings) (root : Location) : Prop :=
  ∃ index, scanned disk settings [root.text] = .ok index ∧ ∃ p ∈ index.known, p.root = root

/-- A location is described with success exactly if the nearest directory around it with a project file
is published as a project, which is then told of. -/
theorem runInfo_nearest {settings : Settings} {asJson : Bool} {task : Task} {path : String}
    {l : Location} (wellNamed : disk.isWellNamed = true) (unlinked : disk.root.LacksLinks)
    (noStars : Glob.hasStars settings.scan.projectFilePattern = false)
    (noDot : settings.scan.projectFilePattern ≠ ".")
    (resolves : disk.resolveNamed (.posix path) = .ok l) {outcome : Outcome}
    (ran : (runInfo disk settings asJson task path []).result = .ok outcome) :
    outcome.exitCode = 0 ∧ (∃ root, IsNearest disk settings.scan.projectFilePattern l root ∧
        Publishes disk settings root ∧ Reports asJson l root outcome) ∨
      outcome.exitCode = 1 ∧ ∀ root, IsNearest disk settings.scan.projectFilePattern l root →
        ¬ Publishes disk settings root := by
  obtain ⟨guess, guessed⟩ := guessed_of_runInfo resolves ran
  have plain := Disk.resolveNamed_isPosix wellNamed (Location.posix_isPosix path) resolves
  have cases := guessRoot_cases wellNamed unlinked noStars noDot guessed
  have posix : guess.IsPosix := by
    rcases cases with nearest | ⟨rfl, -⟩
    · exact nearest.encloses.isPosix plain
    · simp only [Disk.isWellNamed, Bool.and_eq_true, List.all_eq_true] at wellNamed
      exact ⟨rfl, rfl, .inr (.inl rfl), fun name among =>
        isSegment_of_isEntryName (wellNamed.2 name among)⟩
  rw [runInfo_guessed resolves guessed posix, exceptMap_ok_iff] at ran
  obtain ⟨index, published, rfl⟩ := ran
  have laidOut := scanned_isLaidOut wellNamed published
  have known := known_holds wellNamed unlinked published
  -- The answer is about the owner, whose root holds a project file, as that of every project does.
  cases owner : index.owner? l with
  | none =>
    refine .inr ⟨by simp [described, owner], ?_⟩
    rintro root nearest ⟨again, same, p, member, rfl⟩
    rcases cases with guess | ⟨-, bare⟩
    · -- The scan was of this very root, and its project would own the location.
      obtain rfl := guess.unique nearest
      rw [published] at same
      cases same
      exact (laidOut.owner?_eq_none_iff plain).mp owner p member nearest.encloses
    · exact bare p.root nearest.encloses nearest.holds
  | some p =>
    obtain ⟨member, encloses, -⟩ := (laidOut.owner?_eq_some_iff plain).mp owner
    obtain ⟨holds, text, listed, again, reads, below⟩ := known p member
    rw [List.mem_singleton.mp listed, Location.posix_text posix] at reads
    rcases cases with nearest | ⟨-, bare⟩
    · -- The root of the owner encloses the guess and lies below it.
      rw [resolveNamed_outer unlinked resolves nearest.encloses reads] at below
      have same : p.root = guess := (nearest.nearest p.root encloses holds).antisymm below
      refine .inl ⟨?_, guess, nearest, ⟨index, published, p, member, same⟩, p, index.buildInfo? l,
        same, by simp [described, owner]⟩
      cases asJson <;> simp [described, owner, succeed]
    · exact absurd holds (bare p.root encloses)

/-- A disk stays well named and without links in a run. -/
theorem run_keeps (wellNamed : disk.isWellNamed = true) (unlinked : disk.root.LacksLinks)
    (arguments : List String) : (run disk arguments).1.isWellNamed = true ∧
      (run disk arguments).1.root.LacksLinks := by
  cases read : readRequest arguments with
  | error stop =>
    simp only [run, read]
    exact ⟨wellNamed, unlinked⟩
  | ok request =>
    simp only [run, read]
    -- The log file is all that a run adds to the disk.
    split
    · exact ⟨wellNamed, unlinked⟩
    all_goals
      rename_i opened _
      split at opened
      · split at opened
        · cases opened
          exact ⟨wellNamed, unlinked⟩
        · exact openLog_keeps wellNamed unlinked opened
      · cases opened
        exact ⟨wellNamed, unlinked⟩

/-- A run carries out the command of its command line on the disk that it leaves, unless its log file
cannot be made. -/
theorem run_task {arguments : List String} {request : Request} {task : Task}
    (read : readRequest arguments = .ok request) (given : request.task = some task) :
    (∃ fault, (run disk arguments).2.result = .error fault) ∨
      (run disk arguments).2 = runWithSettings (run disk arguments).1 request task := by
  -- Of the three branches of `run` only the one of a task is left, behind the opening of the log.
  simp only [run, read, given]
  split
  · exact .inl ⟨_, rfl⟩
  · rename_i same
    cases same
  · rename_i same
    cases same
    exact .inr rfl

/-- A location that cannot be resolved is not described. -/
theorem runInfo_unresolved {settings : Settings} {asJson : Bool} {task : Task} {path : String}
    {roots : List String} {fault : ResolveFault}
    (unresolved : disk.resolveNamed (.posix path) = .error fault) :
    (runInfo disk settings asJson task path roots).result = .error (.index (.resolve fault)) := by
  simp only [runInfo, resolved, Logged.bind_result, Logged.ofExcept_result, unresolved]
  rfl

/-- What the command for a location comes to where no roots are named and the settings are accepted,
whatever the disk without links, its working directory and the location are. It succeeds only if a
directory that is the location or lies around it directly holds a project file, and the project that is
told of is that of the nearest such directory. Where there is none it fails, and where there is one it
succeeds, unless it comes to a fault, exactly if a scan of that directory publishes its project. -/
theorem info_nearest (wellNamed : disk.isWellNamed = true) (unlinked : disk.root.LacksLinks)
    {arguments : List String} {request : Request} {path : String}
    (read : readRequest arguments = .ok request) (given : request.task = some (.info path [])) :
    let asked := (run disk arguments).1
    let answer := (run disk arguments).2.result
    ∀ settings, Settings.load asked (sourceOf request.settings) = .ok settings →
      let pattern := settings.scan.projectFilePattern
      Glob.hasStars pattern = false → pattern ≠ "." →
      (∀ fault, asked.resolveNamed (.posix path) = .error fault → exitCode answer = 1) ∧
      ∀ l, asked.resolveNamed (.posix path) = .ok l →
        (exitCode answer = 0 ∨ exitCode answer = 1) ∧
        (exitCode answer = 0 → ∃ root, IsNearest asked pattern l root ∧
          (∃ outcome, answer = .ok outcome ∧ Reports request.json l root outcome) ∧
          (request.json = true → ∃ told, printedValue? answer = some told ∧
            told.field? "project_root" = some (.text root.text))) ∧
        ((∀ outer : Location, outer.Encloses l → ¬ HoldsProject asked pattern outer) →
          exitCode answer = 1) ∧
        ∀ outcome, answer = .ok outcome → (outcome.exitCode = 0 ↔
          ∃ root, IsNearest asked pattern l root ∧ Publishes asked settings root) := by
  intro asked answer settings accepted pattern noStars noDot
  obtain ⟨askedNamed, askedUnlinked⟩ := run_keeps wellNamed unlinked arguments
  -- Either the log file is refused, or the command is carried out on the disk with it.
  have carried : (∃ fault, answer = .error fault) ∨
      answer = (runInfo asked settings request.json (.info path []) path []).result := by
    refine (run_task read given).imp_right fun same => ?_
    simp only [answer, same, runWithSettings]
    rw [← sourceOf, accepted]
    rfl
  refine ⟨fun fault unresolved => ?_, fun l resolves => ?_⟩
  · rcases carried with ⟨fault, failed⟩ | same
    · rw [failed, exitCode]
    · rw [same, runInfo_unresolved unresolved, exitCode]
  have settled : ∀ outcome, answer = .ok outcome →
      outcome.exitCode = 0 ∧ (∃ root, IsNearest asked pattern l root ∧ Publishes asked settings root ∧
        Reports request.json l root outcome) ∨
      outcome.exitCode = 1 ∧ ∀ root, IsNearest asked pattern l root →
        ¬ Publishes asked settings root := by
    intro outcome ran
    rcases carried with ⟨fault, failed⟩ | same
    · rw [failed] at ran
      cases ran
    · exact runInfo_nearest askedNamed askedUnlinked noStars noDot resolves (same ▸ ran)
  -- A fault is no success, so all that is left is what the two outcomes say.
  clear_value answer
  cases answer with
  | error fault => simp [exitCode]
  | ok outcome =>
    rcases settled outcome rfl with ⟨success, root, nearest, published, reports⟩ | ⟨failure, unpublished⟩
    · refine ⟨.inl success, fun _ => ⟨root, nearest, ⟨outcome, rfl, reports⟩, fun json => ?_⟩,
        fun bare => absurd nearest.holds (bare root nearest.encloses), ?_⟩
      · obtain ⟨p, info, rfl, rfl⟩ := reports
        refine ⟨locationJson l p info, ?_, (locationJson_fields l p info).2.1⟩
        rw [json, printedValue?, read_printed (isTold_locationJson l p info)]
        rfl
      · rintro _ ⟨⟩
        exact iff_of_true success ⟨root, nearest, published⟩
    · have unsuccessful : outcome.exitCode ≠ 0 := by
        rw [failure]
        exact Nat.one_ne_zero
      refine ⟨.inr failure, fun success => absurd success unsuccessful, fun _ => failure, ?_⟩
      rintro _ ⟨⟩
      refine iff_of_false unsuccessful ?_
      rintro ⟨root, nearest, published⟩
      exact unpublished root nearest published

/-- The directory of a workspace with nothing in it but the descriptor of a project. -/
def loneDisk : Disk where
  root := .directory [("ws", .directory [("Lone.apj", .file "<Project/>".toUTF8.toList)])]

/-- The project in that directory. -/
def loneProject : Project :=
  ⟨Project.bareDescriptor ["ws", "Lone.apj"], [], none⟩

/-- An index of what is below the directory. -/
theorem loneDisk_created : Index.create loneDisk (["/ws"].map Location.posix) {} =
    .ok (Index.atPlaces [["ws"]] {} none) := rfl

/-- A scan publishes the project. -/
theorem loneDisk_scanned : ((Index.atPlaces [["ws"]] {} none).update loneDisk).result =
    .ok (Index.atPlaces [["ws"]] {} (some [loneProject])) := by
  -- The one project below the root is bare, so it loads without any configuration.
  have loads : (Project.load loneDisk loneProject.descriptor.file).result = .ok (some loneProject) :=
    Project.load_bare (Project.bareDescriptor_loads rfl) rfl (by decide +kernel) (by decide +kernel)
  have searched : (Index.atPlaces [["ws"]] {} none).discovered loneDisk [Disk.locationOf ["ws"]] =
      .ok [loneProject.descriptor.file] := by decide +kernel
  exact Index.update_of_loaded (Index.atPlaces_rooted _ _ _) searched (by decide)
    (List.forall_mem_singleton.mpr loads)

/-- The directory of a lone descriptor is guessed for a location beside the descriptor. -/
theorem guessRoot_loneDisk : guessRoot loneDisk ({} : Settings).scan
    (.posix "/ws/Missing/main.c") = .ok (.posix "/ws") := by
  decide +kernel

/-- A location beside a lone descriptor is described with success. -/
theorem runInfo_loneDisk {task : Task}
    (resolves : loneDisk.resolveNamed (.posix "/ws/Missing/main.c") =
      .ok (.posix "/ws/Missing/main.c")) :
    exitCode (runInfo loneDisk {} true task "/ws/Missing/main.c" []).result = 0 := by
  have wellNamed : loneDisk.isWellNamed = true := by decide
  have text : (Location.posix "/ws").text = "/ws" := by decide
  have ran : scanned loneDisk {} [(Location.posix "/ws").text] =
      .ok (Index.atPlaces [["ws"]] {} (some [loneProject])) := by
    simp only [text, scanned, loneDisk_created, Except.mapError, Bind.bind, Except.bind,
      loneDisk_scanned]
  -- The only project is around the location.
  have owner : (Index.atPlaces [["ws"]] {} (some [loneProject])).owner?
      (.posix "/ws/Missing/main.c") = some loneProject :=
    ((scanned_isLaidOut wellNamed ran).owner?_eq_some_iff (Location.posix_isPosix _)).mpr
      ⟨List.mem_singleton_self _, ⟨rfl, rfl, rfl, by decide⟩, fun q member _ =>
        List.mem_singleton.mp member ▸ Location.Encloses.refl _⟩
  rw [runInfo_guessed resolves guessRoot_loneDisk (Location.posix_isPosix _), ran]
  exact (exitCode_described _ _).mpr ⟨_, owner⟩

/-- A location beside a lone descriptor belongs to the project that it describes, and a location outside
of the directory to none, though the program works in the directory. -/
theorem info_nearest_loneDisk :
    let within := (run loneDisk ("info" ::
      infoArguments "/ws/Missing/main.c" [] "\x7b\x7d")).2.result
    let outside := (run { loneDisk with working := ["ws"] } ("info" ::
      infoArguments "/main.c" [] "\x7b\x7d")).2.result
    exitCode within = 0 ∧ (∃ told, printedValue? within = some told ∧
      told.field? "project_root" = some (.text "/ws")) ∧ exitCode outside = 1 := by
  intro within outside
  have unlinked : loneDisk.root.LacksLinks := Node.lacksLinks_of_targets (by decide)
  have wellNamed : loneDisk.isWellNamed = true := by decide
  have noStars : Glob.hasStars ({} : Settings).scan.projectFilePattern = false := by decide
  have noDot : ({} : Settings).scan.projectFilePattern ≠ "." := by decide
  have asked {path : String} (plain : IsPlain path) :=
    readRequest_info plain (List.forall_mem_nil IsPlain) (by decide : IsPlain "\x7b\x7d")
  rw [← and_assoc]
  constructor
  · have read := asked (by decide : IsPlain "/ws/Missing/main.c")
    have accepted : Settings.load loneDisk (sourceOf (some "\x7b\x7d")) = .ok {} := by
      decide
    have kept : (run loneDisk ("info" ::
        infoArguments "/ws/Missing/main.c" [] "\x7b\x7d")).1 = loneDisk := by
      simp only [run, read]
    have resolves : loneDisk.resolveNamed (.posix "/ws/Missing/main.c") =
        .ok (.posix "/ws/Missing/main.c") := by decide
    have success : exitCode within = 0 := by
      simp only [within]
      rw [run_accepted read accepted, runTask, runInfo_loneDisk resolves]
    obtain ⟨-, found⟩ := info_nearest wellNamed unlinked read rfl {} (by rw [kept]; exact accepted)
      noStars noDot
    obtain ⟨-, reports, -⟩ := found _ (by rw [kept]; exact resolves)
    obtain ⟨root, nearest, -, told⟩ := reports success
    -- The directory that is guessed is the nearest one.
    have same : root = .posix "/ws" := by
      rw [kept] at nearest
      rcases guessRoot_cases wellNamed unlinked noStars noDot guessRoot_loneDisk with
        guess | ⟨-, bare⟩
      · exact nearest.unique guess
      · exact absurd nearest.holds (bare root nearest.encloses)
    obtain ⟨value, printed, field⟩ := told rfl
    refine ⟨success, value, printed, ?_⟩
    rw [field, same]
    rfl
  · obtain ⟨disk, shown⟩ : ∃ disk, disk = { loneDisk with working := ["ws"] } := ⟨_, rfl⟩
    have accepted : Settings.load disk (sourceOf (some "\x7b\x7d")) = .ok {} := by
      rw [shown]
      decide
    have read := asked (by decide : IsPlain "/main.c")
    have kept : (run disk ("info" :: infoArguments "/main.c" [] "\x7b\x7d")).1 = disk := by
      simp only [run, read]
    have resolves : disk.resolveNamed (.posix "/main.c") = .ok (.posix "/main.c") := by
      rw [shown]
      decide
    have named : disk.isWellNamed = true := by
      rw [shown]
      decide
    have real : disk.root.LacksLinks := by
      rw [shown]
      exact unlinked
    obtain ⟨-, found⟩ := info_nearest named real read rfl {} (by rw [kept]; exact accepted) noStars
      noDot
    obtain ⟨-, -, failed, -⟩ := found _ (by rw [kept]; exact resolves)
    have nothing : ∀ outer ∈ (Location.posix "/main.c").ancestors, Scan.findFiles disk
        ({} : Settings).scan.omissions outer ({} : Settings).scan.projectFilePattern = .ok [] := by
      rw [shown]
      decide +kernel
    simp only [outside, ← shown]
    refine failed fun outer encloses holds => ?_
    rw [kept] at holds
    have searched := nothing outer (Location.mem_ancestors_iff.mpr encloses)
    exact (findFiles_eq_nil_iff named real noStars noDot searched).mp rfl holds

end Command

end AutomationIndex
