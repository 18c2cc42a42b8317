import AutomationIndex.Proofs.Project.Degradation
import AutomationIndex.Proofs.Workspace.Lookup

/-! What replacing one file changes of a scan: only the projects that are loaded from that file. -/

namespace AutomationIndex

/-- Whether a location is written from the top of a disk and without dots. -/
def Location.IsPlain (l : Location) : Prop :=
  ∃ place, l = Disk.locationOf place ∧ ∀ name ∈ place, name ≠ "." ∧ name ≠ ".."

/-- A plain location is rooted. -/
theorem Location.IsPlain.isRooted {l : Location} (plain : l.IsPlain) : l.IsRooted := by
  obtain ⟨place, rfl, _⟩ := plain
  exact ⟨place, rfl⟩

namespace Index

/-- What two scans have in common if only the file at a place differs. Projects that are not loaded
from it are the same, in the same order. A file that is no descriptor changes of the others what a
file of its kind tells; a descriptor decides on one project. -/
structure Confined (disk other : Disk) (place : Place) (kind : FileKind)
    (before after : List Project) : Prop where
  untouched_eq : (after.filter fun p => !Project.opens other place p.descriptor.file) =
    before.filter fun p => !Project.opens disk place p.descriptor.file
  kept : kind ≠ .project → List.Forall₂ (Project.KeptBut disk place kind) before after
  entry : kind = .project → ∃ (earlier later : List Project) (old new : Option Project),
    before = earlier ++ old.toList ++ later ∧ after = earlier ++ new.toList ++ later ∧
      (∀ p ∈ old, p.descriptor.file = Disk.locationOf place) ∧
      ∀ p ∈ new, p.descriptor.file = Disk.locationOf place

/-- When a scan fails that did not fail before: a descriptor describes a project for the first time,
and beside it the search for the project's files meets a path that is too long. -/
structure Refused (disk other : Disk) (place : Place) (kind : FileKind) (fault : SearchFault) :
    Prop where
  kind_eq : kind = .project
  absent : (Project.load disk (Disk.locationOf place)).result = .ok none
  fails : (Project.load other (Disk.locationOf place)).result = .error fault
  tooLong : fault.IsTooLong

/-- How two scans compare if only the file at a place differs. -/
inductive Compared (disk other : Disk) (place : Place) (kind : FileKind) :
    Except IndexFault Index → Except IndexFault Index → Prop where
  | confined {before after : Index}
      (kept : Confined disk other place kind before.known after.known) :
      Compared disk other place kind (.ok before) (.ok after)
  | spoilt {before : Index} {fault : SearchFault} (refused : Refused disk other place kind fault) :
      Compared disk other place kind (.ok before) (.error (.search fault))
  | cured {after : Index} {fault : SearchFault} (refused : Refused other disk place kind fault) :
      Compared disk other place kind (.error (.search fault)) (.ok after)
  | failed {first second : IndexFault} :
      Compared disk other place kind (.error first) (.error second)

/-- The roots of an index are plain, whatever directories a user names. -/
theorem create_isPlain {disk : Disk} {roots : List Location} {settings : Settings} {index : Index}
    (created : create disk roots settings = .ok index) : ∀ root ∈ index.roots, root.IsPlain := by
  intro l member
  obtain ⟨_, _, named⟩ := create_roots created l member
  exact Disk.resolveNamed_place named

variable {place : Place} {disk other : Disk} {kind : FileKind}

/-- Every file that is discovered below plain roots has a plain location. -/
theorem discovered_isPlain {index : Index} (wellNamed : disk.isWellNamed = true)
    {roots found : List Location} (plain : ∀ root ∈ roots, root.IsPlain)
    (searched : index.discovered disk roots = .ok found) : ∀ file ∈ found, file.IsPlain := by
  intro file member
  -- A discovered file lies below its root, by names of entries.
  obtain ⟨root, among, ⟨names, _, rfl, proper⟩, _⟩ := discovered_mem searched member
  obtain ⟨start, rfl, noDots⟩ := plain root among
  refine ⟨start ++ names, rfl, List.forall_mem_append.mpr ⟨noDots, ?_⟩⟩
  -- The names below the root are those of entries.
  intro name inside
  have entry := proper wellNamed name inside
  simp only [isEntryName, Bool.and_eq_true, bne_iff_ne] at entry
  exact ⟨entry.1.1.2, entry.1.2⟩

/-- A discovered file that was asked for is one that projects can be described at. -/
theorem discovered_isSource {index : Index} {roots found : List Location}
    (pattern : index.settings.scan.projectFilePattern = "*.apj")
    (plain : ∀ root ∈ roots, root.IsPlain) (searched : index.discovered disk roots = .ok found)
    {file : Location} (member : file ∈ found) {answer : Option Project}
    (loaded : (Project.load disk file).result = .ok answer) : Project.IsSource file := by
  obtain ⟨root, among, ⟨names, some, rfl, _⟩, fitting⟩ := discovered_mem searched member
  obtain ⟨start, rfl, _⟩ := plain root among
  -- The file was looked at when it was asked for a project.
  have lacks : (Location.below (Disk.locationOf start) names).LacksNul := by
    apply Disk.load_completes_iff.mp
    cases answer with
    | none => exact ⟨none, Project.load_none_iff.mp loaded⟩
    | some p => exact ⟨_, (Project.load_some_iff.mp loaded).1⟩
  -- The last name is the one that fits the pattern.
  obtain ⟨inner, last, rfl⟩ := List.eq_nil_or_concat names |>.resolve_left some
  refine ⟨rfl, lacks, (Disk.locationOf start).below inner, last, ?_, ?_⟩
  · simp [Location.below]
  · rw [pattern] at fitting
    simpa [Location.name, Location.below, FileKind.names] using fitting

section

variable (same : Disk.SameBut place disk other) (role : kind.isAt place = true)

include same role

/-- The same files are discovered. -/
theorem discovered_eq (index : Index) {roots : List Location}
    (plain : ∀ root ∈ roots, root.IsPlain) :
    index.discovered other roots = index.discovered disk roots := by
  -- No ignore file differs, so each root is searched in the same way.
  induction roots with
  | nil => rfl
  | cons root rest ih =>
    obtain ⟨here, later⟩ := List.forall_mem_cons.mp plain
    have style : root.style = .posix := by
      obtain ⟨start, rfl, _⟩ := here
      rfl
    simp only [discovered, filesBelow, ih later,
      same.findFiles_eq _ style (FileKind.not_ignoreFile role)]

/-- A descriptor is opened for the project at its own location only. -/
theorem load_eq_of_ne {file : Location} (source : Project.IsSource file) (project : kind = .project)
    (plain : file.IsPlain) (apart : file ≠ Disk.locationOf place) :
    Project.load other file = Project.load disk file := by
  apply Project.load_eq same (FileKind.not_ignoreFile role) source.style_eq
  apply Project.passes_of_project same role source project
  -- A plain location leads to the place of its own names only.
  obtain ⟨way, rfl, noDots⟩ := plain
  rw [← Bool.not_eq_true]
  intro reached
  exact apart (congrArg Disk.locationOf (same.reaches_locationOf noDots reached))

section

variable {files : List Location} (sources : ∀ file ∈ files, Project.IsSource file)

include sources

/-- The projects that are loaded without the file are the same, in the same order. -/
theorem loaded_untouched_eq :
    ((files.filterMap fun file => (Project.load other file).found?).filter
        fun p => !Project.opens other place p.descriptor.file) =
      (files.filterMap fun file => (Project.load disk file).found?).filter
        fun p => !Project.opens disk place p.descriptor.file := by
  -- The files are the same, so the projects are compared one by one.
  rw [List.filter_filterMap, List.filter_filterMap]
  apply List.filterMap_congr
  intro file member
  exact Project.load_untouched_eq same role (sources file member)

/-- A file that is no descriptor changes of each project what a file of its kind tells. -/
theorem loaded_kept (differ : kind ≠ .project) (wellNamed : disk.isWellNamed = true)
    (again : other.isWellNamed = true)
    (all : ∀ file ∈ files, ∃ answer, (Project.load disk file).result = .ok answer) :
    List.Forall₂ (Project.KeptBut disk place kind)
      (files.filterMap fun file => (Project.load disk file).found?)
      (files.filterMap fun file => (Project.load other file).found?) := by
  induction files with
  | nil => exact List.Forall₂.nil
  | cons file rest ih =>
    obtain ⟨source, others⟩ := List.forall_mem_cons.mp sources
    obtain ⟨⟨answer, loaded⟩, later⟩ := List.forall_mem_cons.mp all
    obtain ⟨reloaded, second, kept⟩ :=
      Project.load_kept same role source differ wellNamed again loaded
    have following := ih others later
    rw [List.filterMap_cons, List.filterMap_cons, Logged.found?_of_ok loaded,
      Logged.found?_of_ok second]
    -- Either both disks have a project here, or neither has.
    cases kept with
    | none => exact following
    | some kept => exact List.Forall₂.cons kept following

/-- A descriptor decides on at most one of the projects that are loaded. -/
theorem loaded_entry (project : kind = .project) (plain : ∀ file ∈ files, file.IsPlain)
    (distinct : files.Nodup) : ∃ (earlier later : List Project) (old new : Option Project),
    (files.filterMap fun file => (Project.load disk file).found?) =
        earlier ++ old.toList ++ later ∧
      (files.filterMap fun file => (Project.load other file).found?) =
        earlier ++ new.toList ++ later ∧
      (∀ p ∈ old, p.descriptor.file = Disk.locationOf place) ∧
      ∀ p ∈ new, p.descriptor.file = Disk.locationOf place := by
  have asked : ∀ (start : Disk) (p : Project),
      p ∈ (Project.load start (Disk.locationOf place)).found? →
        p.descriptor.file = Disk.locationOf place :=
    fun start p found => Project.load_file (Logged.found?_eq_some_iff.mp found)
  -- Everywhere else the same projects load.
  have elsewhere : ∀ part ⊆ files, Disk.locationOf place ∉ part →
      (part.filterMap fun file => (Project.load other file).found?) =
        part.filterMap fun file => (Project.load disk file).found? := by
    intro part within absent
    apply List.filterMap_congr
    intro file member
    rw [load_eq_of_ne same role (sources file (within member)) project (plain file (within member))]
    rintro rfl
    exact absent member
  by_cases member : Disk.locationOf place ∈ files
  · -- The file stands once among those that are loaded.
    obtain ⟨before, after, rfl⟩ := List.append_of_mem member
    have once := List.nodup_middle.mp distinct
    rw [List.nodup_cons, List.mem_append, not_or] at once
    have first := elsewhere before (List.subset_append_left _ _) once.1.1
    have last := elsewhere after
      (List.Subset.trans (List.subset_cons_self _ _) (List.subset_append_right _ _)) once.1.2
    have parts : ∀ start : Disk,
        ((before ++ Disk.locationOf place :: after).filterMap fun file =>
            (Project.load start file).found?) =
          (before.filterMap fun file => (Project.load start file).found?) ++
            (Project.load start (Disk.locationOf place)).found?.toList ++
              after.filterMap fun file => (Project.load start file).found? := by
      intro start
      rw [List.filterMap_append, List.filterMap_cons]
      cases (Project.load start (Disk.locationOf place)).found? <;> simp
    refine ⟨_, _, _, _, parts disk, ?_, asked disk, asked other⟩
    rw [parts other, first, last]
  · refine ⟨files.filterMap fun file => (Project.load disk file).found?, [], none, none, ?_, ?_,
      by simp, by simp⟩
    · simp
    · simpa using elsewhere files (List.Subset.refl _) member

end

section

variable (wellNamed : disk.isWellNamed = true) (again : other.isWellNamed = true) {index : Index}
  (pattern : index.settings.scan.projectFilePattern = "*.apj")
  (plain : ∀ root ∈ index.roots, root.IsPlain)

include wellNamed again pattern plain

/-- Two scans that succeed differ in what the file tells. -/
theorem update_confined {before after : Index} (first : (index.update disk).result = .ok before)
    (second : (index.update other).result = .ok after) :
    Confined disk other place kind before.known after.known := by
  have rooted : ∀ root ∈ index.roots, root.IsRooted := fun root member =>
    (plain root member).isRooted
  obtain ⟨found, searched, all, rfl⟩ := (update_ok_iff rooted).mp first
  obtain ⟨refound, researched, _, rfl⟩ := (update_ok_iff rooted).mp second
  -- Both scans load the same files.
  rw [discovered_eq same role index plain, searched] at researched
  cases researched
  have sources : ∀ file ∈ firstPerDirectory found, Project.IsSource file := by
    intro file member
    obtain ⟨answer, loaded⟩ := all file member
    exact discovered_isSource pattern plain searched (firstPerDirectory_subset member) loaded
  have places : ∀ file ∈ firstPerDirectory found, file.IsPlain := fun file member =>
    discovered_isPlain wellNamed plain searched file (firstPerDirectory_subset member)
  refine ⟨loaded_untouched_eq same role sources, ?_, ?_⟩
  · intro differ
    exact loaded_kept same role sources differ wellNamed again all
  · intro project
    exact loaded_entry same role sources project places (firstPerDirectory_nodup found).of_map

/-- A scan that fails although the other one succeeds fails at a project that is new. -/
theorem update_refused {before : Index} {fault : IndexFault}
    (first : (index.update disk).result = .ok before)
    (second : (index.update other).result = .error fault) :
    ∃ cause, fault = .search cause ∧ Refused disk other place kind cause := by
  have rooted : ∀ root ∈ index.roots, root.IsRooted := fun root member =>
    (plain root member).isRooted
  obtain ⟨found, searched, all, rfl⟩ := (update_ok_iff rooted).mp first
  rw [update_result, loadProjects_result, projectFiles_result other rooted,
    discovered_eq same role index plain, searched] at second
  -- The search succeeds on both disks, so one of the loads fails.
  have each : ∀ file ∈ firstPerDirectory found,
      FailsOnly (Refused disk other place kind) (Project.load other file).result := by
    intro file member cause failed
    obtain ⟨answer, loaded⟩ := all file member
    have among := firstPerDirectory_subset member
    have source := discovered_isSource pattern plain searched among loaded
    have placed := discovered_isPlain wellNamed plain searched file among
    -- Only a replaced descriptor can bring in a project, and only at its own location.
    by_cases project : kind = .project
    · by_cases here : file = Disk.locationOf place
      · subst here
        cases answer with
        | none =>
          exact ⟨project, loaded, failed,
            Project.load_failsOnly again source.style_eq source.lacksNul cause failed⟩
        -- A project that was there before has made its searches, and they come to the same.
        | some p =>
          obtain ⟨reloaded, completed⟩ :=
            Project.load_completes_of_some same role source again loaded
          rw [completed] at failed
          cases failed
      · rw [load_eq_of_ne same role source project placed here, loaded] at failed
        cases failed
    · obtain ⟨reloaded, completed, _⟩ :=
        Project.load_kept same role source project wellNamed again loaded
      rw [completed] at failed
      cases failed
  cases collected : (Logged.collect (Project.load other) (firstPerDirectory found)).result with
  | ok projects =>
    simp [Except.map, Except.mapError, Bind.bind, Except.bind, collected] at second
  | error cause =>
    simp only [Except.map, Except.mapError, Bind.bind, Except.bind, collected,
      Except.error.injEq] at second
    exact ⟨cause, second.symm, Logged.collect_failsOnly each cause collected⟩

end

end

/-- Replacing what one file holds changes of a scan what that file tells of the projects that are
loaded from it. A scan fails for it only where the file becomes a descriptor beside which a path is
too long. -/
theorem replacement_compared {start : Disk} {roots : List Location} {settings : Settings}
    {made : Index} (created : create start roots settings = .ok made)
    (pattern : settings.scan.projectFilePattern = "*.apj") (wellNamed : disk.isWellNamed = true)
    (unlinked : disk.root.targets = []) {old : List UInt8}
    (stands : disk.root.at? place = some (.file old)) (role : kind.isAt place = true)
    (new : List UInt8) :
    Compared disk (disk.putAt place (.file new)) place kind (made.update disk).result
      (made.update (disk.putAt place (.file new))).result := by
  -- From here on, all that counts is that the disks differ in one file.
  have same := Disk.putAt_sameBut new wellNamed unlinked stands
  have again := same.other_isWellNamed wellNamed
  have plain := create_isPlain created
  obtain ⟨places, rfl⟩ := create_atPlaces created
  generalize disk.putAt place (.file new) = other at same again ⊢
  cases first : ((atPlaces places settings none).update disk).result with
  | ok before =>
    cases second : ((atPlaces places settings none).update other).result with
    | ok after =>
      exact Compared.confined (update_confined same role wellNamed again pattern plain first second)
    | error fault =>
      obtain ⟨cause, rfl, refused⟩ :=
        update_refused same role wellNamed again pattern plain first second
      exact Compared.spoilt refused
  | error fault =>
    cases second : ((atPlaces places settings none).update other).result with
    | ok after =>
      -- Seen from the other disk, it is the second scan that fails.
      obtain ⟨cause, rfl, refused⟩ :=
        update_refused same.symm role again wellNamed pattern plain second first
      exact Compared.cured refused
    | error later => exact Compared.failed

/-- The package of the controller of one of the two configurations of the inner project. -/
def lineController : Place :=
  ["ws", "Line", "Physical", "Run", "X", "Cpu.pkg"]

/-- Loading the outer project opens no file of the inner one. -/
theorem hallProject_opens : Project.opens Project.hallDisk lineController
    Project.hallProject.descriptor.file = false := by
  -- The descriptor is bare, so what the project opens is told by its listings alone.
  have described : (Project.hallDisk.load "project" Project.hallProject.descriptor.file
      Descriptor.read).found? = some Project.hallProject.descriptor :=
    Logged.found?_of_ok (Project.bareDescriptor_loads rfl)
  simp only [Project.opens, Project.opened, described, Project.openedBelow, Project.hallRoots_found,
    Project.hallSettings_found, Except.toOption, Option.getD_some, List.flatMap_nil]
  decide

/-- Emptying the package of a controller leaves the outer project and, of the inner one, all but the
configuration that is read from it. -/
theorem replacement_compared_hallDisk :
    ∃ made before after q, create Project.hallDisk (["/ws"].map Location.posix) {} = .ok made ∧
      (made.update Project.hallDisk).result = .ok before ∧
      before.known = [Project.hallProject, Project.lineProject] ∧
      (made.update (Project.hallDisk.putAt lineController (.file []))).result = .ok after ∧
      after.known = [Project.hallProject, q] ∧ q.descriptor = Project.lineProject.descriptor ∧
      q.activeName = some "Run" ∧ Project.lineConfiguration "Lab" {} none ∈ q.configurations := by
  have wellNamed : Project.hallDisk.isWellNamed = true := by decide
  have unlinked : Project.hallDisk.root.targets = [] := rfl
  have stands : Project.hallDisk.root.at? lineController = some (.file
      (CpuPackage.writtenText Project.lineSection Project.lineBuild).toUTF8.toList) := rfl
  have same := Disk.putAt_sameBut [] wellNamed unlinked stands
  have compared := replacement_compared hallDisk_created rfl wellNamed unlinked stands
    (by decide : FileKind.cpu.isAt lineController = true) []
  rw [hallDisk_scanned] at compared
  generalize answered : ((atPlaces [["ws"]] {} none).update
    (Project.hallDisk.putAt lineController (.file []))).result = second at compared
  cases compared with
  | spoilt refused => cases refused.kind_eq
  | @confined _ after kept =>
    obtain ⟨p, _, outer, others, listed⟩ := List.forall₂_cons_left_iff.mp (kept.kept (by decide))
    obtain ⟨q, _, inner, nothing, rfl⟩ := List.forall₂_cons_left_iff.mp others
    obtain rfl := List.forall₂_nil_left_iff.mp nothing
    -- The outer project opens the file on neither disk, so it is the first that is untouched.
    have passed : Project.opens (Project.hallDisk.putAt lineController (.file [])) lineController
        p.descriptor.file = false := by
      rw [outer.descriptor_eq (by decide), Project.opens_eq same (by decide) rfl]
      exact hallProject_opens
    have untouched := kept.untouched_eq
    rw [listed] at untouched
    simp only [known, atPlaces, Option.getD_some, List.filter_cons, passed, hallProject_opens,
      Bool.not_false, if_true] at untouched
    obtain ⟨rfl, -⟩ := List.cons.inj untouched
    have unread := inner.unread_eq (.inr rfl)
    have among : Project.lineConfiguration "Lab" {} none ∈ q.configurations.filter fun c =>
        !c.isReadFrom Project.hallDisk lineController := by
      rw [unread]
      exact List.mem_filter.mpr ⟨by simp [Project.lineProject], by decide⟩
    exact ⟨_, _, after, q, hallDisk_created, hallDisk_scanned, rfl, answered, listed,
      inner.descriptor_eq (by decide), inner.activeName_eq (by decide), List.mem_of_mem_filter among⟩

end Index

end AutomationIndex
