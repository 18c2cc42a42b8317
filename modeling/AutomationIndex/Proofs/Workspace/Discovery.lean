import AutomationIndex.Proofs.Disk.Resolved
import AutomationIndex.Proofs.Project.Load
import AutomationIndex.Proofs.Scan.Found
import AutomationIndex.Workspace.Session
import Mathlib.Data.List.Dedup

/-! What a scan of a workspace finds: one project file for each directory, and what of it loads. -/

namespace AutomationIndex

namespace Location

/-- Whether a location is written from the top of a disk. -/
def IsRooted (l : Location) : Prop :=
  ∃ place, l = Disk.locationOf place

/-- Names below a rooted location make a rooted location. -/
theorem IsRooted.below {l : Location} (rooted : l.IsRooted) (names : List String) :
    (l.below names).IsRooted := by
  obtain ⟨place, rfl⟩ := rooted
  exact ⟨place ++ names, rfl⟩

/-- What encloses a rooted location directly is rooted. -/
theorem IsRooted.parent {l : Location} (rooted : l.IsRooted) : l.parent.IsRooted := by
  obtain ⟨place, rfl⟩ := rooted
  exact ⟨place.dropLast, rfl⟩

/-- Rooted locations count as the same only if they are, whatever their names. -/
theorem IsRooted.same_iff {a b : Location} (first : a.IsRooted) (second : b.IsRooted) :
    a.same b = true ↔ a = b := by
  obtain ⟨place, rfl⟩ := first
  obtain ⟨other, rfl⟩ := second
  have folded : PathStyle.posix.folded = id := rfl
  -- Case counts, and the parts of a rooted location are its names after the slash.
  simp [same, foldedParts, parts, isAnchored, anchor, Disk.locationOf, folded]

end Location

namespace Index

/-- The files that come first in their directories. -/
def firstPerDirectory : List Location → List Location
  | [] => []
  | file :: rest =>
    file :: (firstPerDirectory rest).filter fun other => other.parent ≠ file.parent

/-- Files that come first in their directories are among the files. -/
theorem firstPerDirectory_subset {files : List Location} {file : Location}
    (first : file ∈ firstPerDirectory files) : file ∈ files := by
  induction files with
  | nil => exact first
  | cons head rest ih =>
    -- The first file is kept, and of the rest only what is in other directories.
    rcases List.mem_cons.mp first with same | later
    · exact same ▸ List.mem_cons_self
    · exact List.mem_cons_of_mem head (ih (List.mem_of_mem_filter later))

/-- Every directory keeps a file. -/
theorem mem_firstPerDirectory_parents {files : List Location} {directory : Location} :
    directory ∈ (firstPerDirectory files).map (·.parent) ↔ directory ∈ files.map (·.parent) := by
  induction files with
  | nil => rfl
  | cons head rest ih =>
    simp only [firstPerDirectory, List.map_cons, List.mem_cons, ← ih]
    -- Only the directory of the first file loses its later ones.
    by_cases same : directory = head.parent
    · simp [same]
    · simp only [same, false_or, List.mem_map, List.mem_filter, decide_eq_true_eq]
      constructor
      · rintro ⟨file, ⟨member, _⟩, rfl⟩
        exact ⟨file, member, rfl⟩
      · rintro ⟨file, member, rfl⟩
        exact ⟨file, ⟨member, same⟩, rfl⟩

/-- No directory keeps two files. -/
theorem firstPerDirectory_nodup (files : List Location) :
    ((firstPerDirectory files).map (·.parent)).Nodup := by
  -- Behind the first file of a directory the others of that directory are filtered out.
  induction files with
  | nil => exact List.nodup_nil
  | cons head rest ih =>
    rw [firstPerDirectory, List.map_cons, List.nodup_cons]
    refine ⟨by simp, ?_⟩
    exact ih.sublist ((List.filter_sublist).map _)

/-- As many files are kept as there are directories. -/
theorem firstPerDirectory_length (files : List Location) :
    (firstPerDirectory files).length = (files.map (·.parent)).dedup.length := by
  -- Both lists hold each directory once.
  rw [← List.length_map (·.parent)]
  apply List.Perm.length_eq
  apply (List.perm_ext_iff_of_nodup (firstPerDirectory_nodup files) (List.nodup_dedup _)).mpr
  intro directory
  rw [mem_firstPerDirectory_parents, List.mem_dedup]

/-- Of files that follow others, those in new directories are kept. -/
theorem firstPerDirectory_append (files more : List Location) :
    firstPerDirectory (files ++ more) = firstPerDirectory files ++
      (firstPerDirectory more).filter fun file => file.parent ∉ files.map (·.parent) := by
  -- Each of the first files takes its directory from all that follow.
  induction files with
  | nil => simp [firstPerDirectory]
  | cons head rest ih =>
    simp only [List.cons_append, firstPerDirectory, ih, List.filter_append, List.filter_filter]
    congr 2
    apply List.filter_congr
    intro file _
    simp

/-- Files that all lie in directories of earlier ones change nothing. -/
theorem firstPerDirectory_absorb {files repeated : List Location} (more : List Location)
    (known : ∀ file ∈ repeated, file.parent ∈ files.map (·.parent)) :
    firstPerDirectory (files ++ repeated ++ more) = firstPerDirectory (files ++ more) := by
  -- None of the repeated files is kept, and they hide no directory that was not hidden before.
  have dropped : (firstPerDirectory repeated).filter
      (fun file => file.parent ∉ files.map (·.parent)) = [] := by
    rw [List.filter_eq_nil_iff]
    intro file member
    simpa using known file (firstPerDirectory_subset member)
  rw [firstPerDirectory_append (files ++ repeated), firstPerDirectory_append files repeated,
    firstPerDirectory_append files more, dropped, List.append_nil]
  congr 1
  apply List.filter_congr
  intro file _
  rw [decide_eq_decide, not_iff_not, List.map_append, List.mem_append, or_iff_left_iff_imp]
  intro member
  obtain ⟨other, among, same⟩ := List.mem_map.mp member
  exact same ▸ known other among

/-- A file is kept where its directory has none yet. -/
theorem addFile_result {files : List Location} {file : Location}
    (rooted : ∀ other ∈ file :: files, other.IsRooted) :
    (addFile (firstPerDirectory files) file).result =
      .ok (firstPerDirectory (files ++ [file])) := by
  -- For rooted locations, counting as the same is being the same.
  have sames : ∀ other ∈ firstPerDirectory files,
      (other.parent.same file.parent = true ↔ other.parent = file.parent) := by
    intro other member
    have first := rooted other (List.mem_cons_of_mem _ (firstPerDirectory_subset member))
    exact first.parent.same_iff (rooted file List.mem_cons_self).parent
  rw [firstPerDirectory_append]
  unfold addFile
  split
  · rename_i absent
    -- No kept file shares the directory, so none of the files does.
    have fresh : file.parent ∉ files.map (·.parent) := by
      rw [← mem_firstPerDirectory_parents]
      intro member
      obtain ⟨other, kept, same⟩ := List.mem_map.mp member
      exact List.find?_eq_none.mp absent other kept ((sames other kept).mpr same)
    simp only [firstPerDirectory, List.filter_nil, List.filter_cons, fresh, not_false_eq_true,
      decide_true, if_true, Logged.pure_result]
  · rename_i first present
    have kept := List.mem_of_find?_eq_some present
    have same := (sames first kept).mp (by simpa using List.find?_some present)
    have known : file.parent ∈ files.map (·.parent) := by
      rw [← mem_firstPerDirectory_parents]
      exact List.mem_map.mpr ⟨first, kept, same⟩
    simp only [firstPerDirectory, List.filter_nil, List.filter_cons, known, not_true_eq_false,
      decide_false, Bool.false_eq_true, if_false, List.append_nil, Logged.bind_result,
      Logged.record_result, Logged.pure_result]
    rfl

/-- Adding files keeps those that come first in their directories. -/
theorem addFiles_result {files more : List Location}
    (rooted : ∀ file ∈ files ++ more, file.IsRooted) :
    (addFiles (firstPerDirectory files) more).result =
      .ok (firstPerDirectory (files ++ more)) := by
  induction more generalizing files with
  | nil => simp [addFiles]
  | cons file rest ih =>
    have added : (addFile (firstPerDirectory files) file).result = _ :=
      addFile_result fun other member => rooted other (by simp at member ⊢; tauto)
    -- After one file has been added, the others follow by induction.
    rw [addFiles, Logged.bind_result, added]
    change (addFiles _ rest).result = _
    rw [ih fun other member => rooted other (by simpa using member)]
    simp

/-- The project files below roots, root by root and in the order of their paths within a root. -/
def discovered (index : Index) (disk : Disk) : List Location → Except SearchFault (List Location)
  | [] => .ok []
  | root :: roots => do
    let found ← index.filesBelow disk root
    let others ← index.discovered disk roots
    return found ++ others

/-- The files below roots are those below the first ones and then those below the others. -/
theorem discovered_append (index : Index) (disk : Disk) (roots more : List Location) :
    index.discovered disk (roots ++ more) = do
      let found ← index.discovered disk roots
      let others ← index.discovered disk more
      return found ++ others := by
  -- The first fault ends the search in either order.
  induction roots with
  | nil =>
    cases searched : index.discovered disk more <;>
      simp [discovered, searched, Bind.bind, Except.bind, Pure.pure, Except.pure]
  | cons root rest ih =>
    simp only [List.cons_append, discovered, ih]
    cases index.filesBelow disk root with
    | error fault => rfl
    | ok found =>
      cases index.discovered disk rest with
      | error fault => rfl
      | ok others =>
        cases index.discovered disk more <;>
          simp [Bind.bind, Except.bind, Pure.pure, Except.pure]

/-- A file below a root lies under it and has a name that the settings ask for. -/
theorem filesBelow_mem {index : Index} {disk : Disk} {root : Location} {found : List Location}
    (searched : index.filesBelow disk root = .ok found) {file : Location} (member : file ∈ found) :
    root.LiesUnder disk file ∧
      Wildcard.fits file.name index.settings.scan.projectFilePattern = true :=
  Scan.findFiles_anyDepth index.settings.scan.pattern_isName searched file member

/-- Every file below some roots is found below one of them. -/
theorem discovered_from {index : Index} {disk : Disk} {roots found : List Location}
    (searched : index.discovered disk roots = .ok found) {file : Location} (member : file ∈ found) :
    ∃ root ∈ roots, ∃ part, index.filesBelow disk root = .ok part ∧ file ∈ part := by
  induction roots generalizing found with
  | nil =>
    cases searched
    simp at member
  | cons root rest ih =>
    simp only [discovered, exceptBind_ok_iff, Pure.pure, Except.pure, Except.ok.injEq] at searched
    -- A file is found below the first root or below the others.
    obtain ⟨first, here, others, later, rfl⟩ := searched
    rcases List.mem_append.mp member with member | member
    · exact ⟨root, List.mem_cons_self, first, here, member⟩
    · obtain ⟨outer, among, part, below, within⟩ := ih later member
      exact ⟨outer, List.mem_cons_of_mem root among, part, below, within⟩

/-- Every file below some roots lies under one of them. -/
theorem discovered_mem {index : Index} {disk : Disk} {roots found : List Location}
    (searched : index.discovered disk roots = .ok found) {file : Location}
    (member : file ∈ found) : ∃ root ∈ roots, root.LiesUnder disk file ∧
      Wildcard.fits file.name index.settings.scan.projectFilePattern = true := by
  obtain ⟨root, among, part, below, within⟩ := discovered_from searched member
  exact ⟨root, among, filesBelow_mem below within⟩

/-- What lies under a rooted location is rooted. -/
theorem liesUnder_isRooted {disk : Disk} {root file : Location} (rooted : root.IsRooted)
    (under : root.LiesUnder disk file) : file.IsRooted := by
  obtain ⟨names, _, rfl, _⟩ := under
  exact rooted.below names

/-- What lies under a location has its directory there or below. -/
theorem liesUnder_parent {disk : Disk} {root file : Location}
    (under : root.LiesUnder disk file) : root.Encloses file.parent := by
  obtain ⟨names, some, rfl, _⟩ := under
  refine ⟨rfl, rfl, rfl, ?_⟩
  simp [Location.parent, Location.below, List.dropLast_append_of_ne_nil some]

/-- Adding the files below roots keeps those that come first in their directories. -/
theorem addRoots_result (index : Index) (disk : Disk) {files roots : List Location}
    (rooted : ∀ root ∈ roots, root.IsRooted) (filed : ∀ file ∈ files, file.IsRooted) :
    (index.addRoots disk (firstPerDirectory files) roots).result =
      (index.discovered disk roots).map fun found => firstPerDirectory (files ++ found) := by
  -- The invariant is that the files kept so far are the first ones of all files seen so far.
  induction roots generalizing files with
  | nil => simp [addRoots, discovered, Except.map]
  | cons root rest ih =>
    obtain ⟨here, later⟩ := List.forall_mem_cons.mp rooted
    simp only [addRoots, discovered, Logged.bind_result, Logged.ofExcept_result]
    cases searched : index.filesBelow disk root with
    | error fault => rfl
    | ok found =>
      -- New files lie below a rooted location and are rooted too.
      have all : ∀ file ∈ files ++ found, file.IsRooted := by
        intro file member
        rcases List.mem_append.mp member with old | new
        · exact filed file old
        · exact liesUnder_isRooted here (filesBelow_mem searched new).1
      change (addFiles (firstPerDirectory files) found).result >>= _ = _
      rw [addFiles_result all]
      change (index.addRoots disk (firstPerDirectory (files ++ found)) rest).result = _
      rw [ih later all]
      cases index.discovered disk rest <;>
        simp [Except.map, Bind.bind, Except.bind, Pure.pure, Except.pure]

/-- The project files of a workspace are the first ones of their directories. -/
theorem projectFiles_result {index : Index} (disk : Disk)
    (rooted : ∀ root ∈ index.roots, root.IsRooted) :
    (index.projectFiles disk).result =
      (index.discovered disk index.roots).map firstPerDirectory := by
  have added : (index.addRoots disk (firstPerDirectory []) index.roots).result = _ :=
    index.addRoots_result disk rooted (by simp)
  simpa [projectFiles, firstPerDirectory] using added

/-- Telling how many projects did not load has no other result. -/
theorem tellSkipped_result (count : Nat) : (tellSkipped count).result = .ok () := by
  unfold tellSkipped
  split <;> rfl

/-- Loading the projects of a workspace loads its project files one by one. -/
theorem loadProjects_result (index : Index) (disk : Disk) :
    (index.loadProjects disk).result =
      (index.projectFiles disk).result >>= fun files =>
        (Logged.collect (Project.load disk) files).result := by
  -- What is told about skipped projects does not touch the result.
  unfold loadProjects
  rw [Logged.bind_result]
  cases (index.projectFiles disk).result with
  | error fault => rfl
  | ok files =>
    change Logged.result _ = Logged.result _
    rw [Logged.bind_result]
    cases (Logged.collect (Project.load disk) files).result with
    | error fault => rfl
    | ok projects =>
      change Logged.result _ = _
      rw [Logged.bind_result, tellSkipped_result]
      rfl

/-- What a scan publishes is the projects that it loads. -/
theorem update_result (index : Index) (disk : Disk) :
    (index.update disk).result = ((index.loadProjects disk).result.mapError .search).map
      fun projects => { index with snapshot := some projects } := by
  unfold update
  rw [Logged.bind_result, Logged.mapFault_result]
  cases (index.loadProjects disk).result <;> rfl

/-- A scan succeeds where all searches do and no load fails, and publishes the projects that load
from the first files of their directories. -/
theorem update_ok_iff {index after : Index} {disk : Disk}
    (rooted : ∀ root ∈ index.roots, root.IsRooted) :
    (index.update disk).result = .ok after ↔
      ∃ found, index.discovered disk index.roots = .ok found ∧
        (∀ file ∈ firstPerDirectory found, ∃ answer, (Project.load disk file).result = .ok answer) ∧
        after = { index with snapshot := some ((firstPerDirectory found).filterMap
          fun file => (Project.load disk file).found?) } := by
  rw [update_result, loadProjects_result, projectFiles_result disk rooted]
  -- Without a search there is nothing to load, and one failed load ends the scan.
  cases index.discovered disk index.roots with
  | error fault => simp [Except.map, Except.mapError, Bind.bind, Except.bind]
  | ok found =>
    simp only [Except.map, Bind.bind, Except.bind, Except.ok.injEq, exists_eq_left']
    cases collected : (Logged.collect (Project.load disk) (firstPerDirectory found)).result with
    | error fault =>
      simp only [Except.mapError, reduceCtorEq, false_iff, not_and]
      intro all
      have loaded := Logged.collect_ok_iff.mpr ⟨all, rfl⟩
      simp [collected] at loaded
    | ok projects =>
      obtain ⟨all, rfl⟩ := Logged.collect_ok_iff.mp collected
      simp only [Except.mapError, Except.ok.injEq, eq_comm (b := after)]
      exact ⟨fun same => ⟨all, same⟩, fun loaded => loaded.2⟩

/-- A scan publishes projects if it finds their files and all of them load. -/
theorem update_of_loaded {index : Index} {disk : Disk} {found : List Location}
    {projects : List Project} (rooted : ∀ root ∈ index.roots, root.IsRooted)
    (searched : index.discovered disk index.roots = .ok found)
    (files : firstPerDirectory found = projects.map (·.descriptor.file))
    (loads : ∀ p ∈ projects, (Project.load disk p.descriptor.file).result = .ok (some p)) :
    (index.update disk).result = .ok { index with snapshot := some projects } := by
  refine (update_ok_iff rooted).mpr ⟨found, searched, ?_, ?_⟩
  · rw [files]
    exact List.forall_mem_map.mpr fun p member => ⟨_, loads p member⟩
  · -- Each file gives its project back.
    have each : projects.filterMap (fun p => (Project.load disk p.descriptor.file).found?) =
        projects.filterMap some :=
      List.filterMap_congr fun p member => Logged.found?_of_ok (loads p member)
    rw [files, List.filterMap_map]
    simp only [Function.comp_def, each, List.filterMap_some]

/-- Every project that is loaded from some files comes from one of them. -/
theorem mem_loaded {disk : Disk} {files : List Location} {p : Project} :
    p ∈ (files.filterMap fun file => (Project.load disk file).found?) ↔
      ∃ file ∈ files, (Project.load disk file).result = .ok (some p) := by
  simp [List.mem_filterMap, Logged.found?_eq_some_iff]

/-- Projects that are loaded from files in different directories have different roots. -/
theorem loaded_roots_nodup {disk : Disk} {files : List Location}
    (distinct : (files.map (·.parent)).Nodup) :
    ((files.filterMap fun file => (Project.load disk file).found?).map (·.root)).Nodup := by
  rw [List.Nodup, List.pairwise_map] at distinct ⊢
  -- The root of a project is the directory of its file.
  rw [List.pairwise_filterMap]
  apply distinct.imp
  intro first second apart p loaded q loading
  rw [Project.load_root (Logged.found?_eq_some_iff.mp loaded),
    Project.load_root (Logged.found?_eq_some_iff.mp loading)]
  exact apart

/-- The projects that load have the descriptors that load. -/
theorem loaded_descriptors {disk : Disk} {files : List Location}
    (all : ∀ file ∈ files, ∃ answer, (Project.load disk file).result = .ok answer) :
    (files.filterMap fun file => (Project.load disk file).found?).map (·.descriptor) =
      files.filterMap fun file => (disk.load "project" file Descriptor.read).found? := by
  rw [List.map_filterMap]
  apply List.filterMap_congr
  intro file member
  obtain ⟨answer, ran⟩ := all file member
  -- A file whose descriptor loads is one whose project loads.
  cases answer with
  | none => rw [Logged.found?_of_ok ran, Logged.found?_of_ok (Project.load_none_iff.mp ran)]; rfl
  | some p =>
    rw [Logged.found?_of_ok ran, Logged.found?_of_ok (Project.load_some_iff.mp ran).1]
    rfl

/-- What a scan records about projects that did not load. -/
def skipReport (count : Nat) : List LogRecord :=
  if count = 0 then []
  else [⟨.warning, speaker, "Skipped " ++ toString count ++ " project(s) which failed to load"⟩]

/-- A scan records what its search and its loads do, and at last how many projects did not load. -/
theorem update_records {index : Index} {disk : Disk} {files : List Location}
    (searched : (index.projectFiles disk).result = .ok files)
    (all : ∀ file ∈ files, ∃ answer, (Project.load disk file).result = .ok answer) :
    (index.update disk).records = (index.projectFiles disk).records ++
      files.flatMap (fun file => (Project.load disk file).records) ++
      skipReport (files.length -
        (files.filterMap fun file => (Project.load disk file).found?).length) := by
  have collected := Logged.collect_ok_iff.mpr ⟨all, rfl⟩
  have told : ∀ count, (tellSkipped count).records = skipReport count := by
    intro count
    by_cases none : count = 0 <;> simp [tellSkipped, skipReport, none]
  have loaded : (index.loadProjects disk).result =
      .ok (files.filterMap fun file => (Project.load disk file).found?) := by
    rw [loadProjects_result, searched]
    exact collected
  -- The records follow the order of the steps: the search, the loads, and the count.
  unfold update
  rw [Logged.bind_records (by rw [Logged.mapFault_result, loaded]; rfl), Logged.mapFault_records]
  unfold loadProjects
  rw [Logged.bind_records searched, Logged.bind_records collected,
    Logged.bind_records (tellSkipped_result _), Logged.collect_records all, told]
  simp

/-- An index of what is below some places. -/
def atPlaces (places : List Place) (settings : Settings) (snapshot : Option (List Project)) :
    Index :=
  ⟨places.map Disk.locationOf, settings, snapshot⟩

/-- The roots of an index of places are rooted. -/
theorem atPlaces_rooted (places : List Place) (settings : Settings)
    (snapshot : Option (List Project)) :
    ∀ root ∈ (atPlaces places settings snapshot).roots, root.IsRooted := by
  intro root member
  obtain ⟨place, _, rfl⟩ := List.mem_map.mp member
  exact ⟨place, rfl⟩

/-- Every resolved root is the resolved location of one of the named directories. -/
theorem resolveRoots_mem {disk : Disk} {roots resolved : List Location}
    (ran : resolveRoots disk roots = .ok resolved) :
    ∀ l ∈ resolved, ∃ root ∈ roots, disk.resolveNamed root = .ok l := by
  -- The directories are resolved one by one.
  induction roots generalizing resolved with
  | nil =>
    cases ran
    simp
  | cons root rest ih =>
    simp only [resolveRoots, exceptBind_ok_iff, Pure.pure, Except.pure, Except.ok.injEq] at ran
    obtain ⟨first, named, others, later, rfl⟩ := ran
    intro l member
    rcases List.mem_cons.mp member with rfl | member
    · exact ⟨root, List.mem_cons_self, named⟩
    · obtain ⟨other, among, named⟩ := ih later l member
      exact ⟨other, List.mem_cons_of_mem root among, named⟩

/-- Every root of an index that is made is the resolved location of a directory that was named. -/
theorem create_roots {disk : Disk} {roots : List Location} {settings : Settings} {index : Index}
    (created : create disk roots settings = .ok index) :
    ∀ l ∈ index.roots, ∃ root ∈ roots, disk.resolveNamed root = .ok l := by
  simp only [create, exceptBind_ok_iff, Pure.pure, Except.pure, Except.ok.injEq] at created
  obtain ⟨resolved, ran, rfl⟩ := created
  exact resolveRoots_mem ran

/-- Every index is made for places, whatever directories a user names. -/
theorem create_atPlaces {disk : Disk} {roots : List Location} {settings : Settings} {index : Index}
    (created : create disk roots settings = .ok index) :
    ∃ places, index = atPlaces places settings none := by
  have named := create_roots created
  simp only [create, exceptBind_ok_iff, Pure.pure, Except.pure, Except.ok.injEq] at created
  obtain ⟨resolved, _, rfl⟩ := created
  -- The segments of a resolved root spell its place.
  refine ⟨resolved.map (·.segments), ?_⟩
  have spelled : resolved.map (Disk.locationOf ∘ (·.segments)) = resolved.map id := by
    apply List.map_congr_left
    intro l member
    obtain ⟨_, _, ran⟩ := named l member
    obtain ⟨place, rfl, _⟩ := Disk.resolveNamed_place ran
    rfl
  rw [atPlaces, List.map_map, spelled, List.map_id]

/-- Searching roots depends on the settings of an index alone. -/
theorem discovered_settings {index other : Index} (same : index.settings = other.settings)
    (disk : Disk) (roots : List Location) :
    index.discovered disk roots = other.discovered disk roots := by
  induction roots with
  | nil => rfl
  | cons root rest ih => simp only [discovered, filesBelow, same, ih]

/-- A scan of more roots first publishes what a scan of the first ones does. -/
theorem update_more {disk : Disk} {settings : Settings} {snapshot : Option (List Project)}
    {places more : List Place} {longer : Index}
    (ran : ((atPlaces (places ++ more) settings snapshot).update disk).result = .ok longer) :
    ∃ after, ((atPlaces places settings snapshot).update disk).result = .ok after ∧
      after.known <+: longer.known := by
  -- Files of later roots come after those of the first roots, and hide none of them.
  obtain ⟨all, searched, loads, rfl⟩ := (update_ok_iff (atPlaces_rooted _ _ _)).mp ran
  have split : (atPlaces (places ++ more) settings snapshot).roots =
      (atPlaces places settings snapshot).roots ++ more.map Disk.locationOf := List.map_append
  rw [split, discovered_append, exceptBind_ok_iff] at searched
  obtain ⟨found, first, searched⟩ := searched
  rw [exceptBind_ok_iff] at searched
  obtain ⟨others, _, same⟩ := searched
  cases same
  rw [firstPerDirectory_append] at loads
  refine ⟨_, (update_ok_iff (atPlaces_rooted _ _ _)).mpr ⟨found, ?_, ?_, rfl⟩, ?_⟩
  · rw [← first]
    apply discovered_settings
    rfl
  · exact fun file member => loads file (List.mem_append_left _ member)
  · simp only [known, Option.getD_some, firstPerDirectory_append, List.filterMap_append]
    exact List.prefix_append _ _

/-- What is below one of the roots is found. -/
theorem discovered_includes {index : Index} {disk : Disk} {roots found : List Location}
    (searched : index.discovered disk roots = .ok found) {root : Location}
    (member : root ∈ roots) : ∃ part, index.filesBelow disk root = .ok part ∧ part ⊆ found := by
  induction roots generalizing found with
  | nil => simp at member
  | cons first rest ih =>
    simp only [discovered, exceptBind_ok_iff, Pure.pure, Except.pure, Except.ok.injEq] at searched
    -- The root is either the first one or among the others.
    obtain ⟨part, here, others, later, rfl⟩ := searched
    rcases List.mem_cons.mp member with same | member
    · exact ⟨part, same ▸ here, List.subset_append_left part others⟩
    · obtain ⟨inner, below, within⟩ := ih later member
      exact ⟨inner, below, fun file among => List.mem_append_right part (within among)⟩

/-- Searching a root again finds no first file of a directory. -/
theorem discovered_repeated (index : Index) (disk : Disk) (before between rest : List Location)
    (root : Location) :
    (index.discovered disk (before ++ root :: between ++ root :: rest)).map firstPerDirectory =
      (index.discovered disk (before ++ root :: between ++ rest)).map firstPerDirectory := by
  rw [discovered_append, discovered_append index disk (before ++ root :: between)]
  cases searched : index.discovered disk (before ++ root :: between) with
  | error fault => rfl
  | ok found =>
    obtain ⟨part, below, within⟩ := discovered_includes searched
      (List.mem_append_right before List.mem_cons_self)
    simp only [discovered, below]
    cases index.discovered disk rest with
    | error fault => rfl
    | ok others =>
      -- The files of the repeated root have been found before.
      simp only [Bind.bind, Except.bind, Pure.pure, Except.pure, Except.map, Except.ok.injEq]
      rw [← List.append_assoc]
      exact firstPerDirectory_absorb others fun file member =>
        List.mem_map_of_mem (within member)

/-- A scan publishes the same whether or not a root that was listed before is listed again. -/
theorem update_repeated (disk : Disk) (settings : Settings) (snapshot : Option (List Project))
    (before between rest : List Place) (place : Place) :
    ((atPlaces (before ++ place :: between ++ place :: rest) settings snapshot).update
        disk).result.map known =
      ((atPlaces (before ++ place :: between ++ rest) settings snapshot).update
        disk).result.map known := by
  -- Both find the same project files, and the rest of the scan only depends on these.
  have split : ∀ places, (atPlaces places settings snapshot).roots =
      places.map Disk.locationOf := fun _ => rfl
  have files : ((atPlaces (before ++ place :: between ++ place :: rest) settings
        snapshot).projectFiles disk).result =
      ((atPlaces (before ++ place :: between ++ rest) settings snapshot).projectFiles
        disk).result := by
    rw [projectFiles_result disk (atPlaces_rooted _ _ _),
      projectFiles_result disk (atPlaces_rooted _ _ _), split, split]
    simp only [List.map_append, List.map_cons, discovered_repeated]
    rw [discovered_settings]
    rfl
  simp only [update_result, loadProjects_result, files]
  cases ((atPlaces (before ++ place :: between ++ rest) settings snapshot).projectFiles
    disk).result with
  | error fault => rfl
  | ok found =>
    change ((((Logged.collect (Project.load disk) found).result).mapError _).map _).map known =
      ((((Logged.collect (Project.load disk) found).result).mapError _).map _).map known
    cases (Logged.collect (Project.load disk) found).result <;> rfl

/-- Whether files are what a scan of a root wants, in the order of their paths: the scan leaves out
what the settings and the ignore file of the root name. -/
def IsSearchOf (index : Index) (disk : Disk) (root : Location) (files : List Location) : Prop :=
  ∃ listed scanned,
    (if index.settings.scan.respectGitignore then Scan.gitignorePatterns disk root
      else .ok []) = .ok listed ∧
    Scan.scan disk ⟨[index.settings.scan.projectFilePattern],
      index.settings.scan.ignorePatterns ++ listed, index.settings.scan.outputDirectories⟩ root =
        .ok scanned ∧
    files.Perm scanned ∧ files.Pairwise fun a b => a.notAfter b = true

/-- The files below a directory are what its scan wants; elsewhere there are none. -/
theorem filesBelow_isSearchOf {index : Index} {disk : Disk} {root : Location}
    {files : List Location} (searched : index.filesBelow disk root = .ok files) :
    disk.isDirectory root = .ok false ∧ files = [] ∨
      disk.isDirectory root = .ok true ∧ index.IsSearchOf disk root files := by
  -- The pattern is a name pattern, so the search is one by name at any depth.
  have pattern := index.settings.scan.pattern_isName
  refine ((Scan.findFiles_anyDepth_iff pattern).mp searched).imp id ?_
  rintro ⟨asked, named⟩
  obtain ⟨listed, scanned, ignored, ran, rfl⟩ := Scan.findNamed_ok_iff.mp named
  exact ⟨asked, listed, scanned, ignored, ran, List.mergeSort_perm scanned _,
    Scan.sorted_pairwise scanned⟩

/-- What a scan that found some project files has published. -/
structure Publishes (index : Index) (disk : Disk) (found : List Location) (after : Index) :
    Prop where
  after_eq : after = { index with
    snapshot := some ((firstPerDirectory found).filterMap fun file =>
      (Project.load disk file).found?) }
  descriptors_eq : after.known.map (·.descriptor) = (firstPerDirectory found).filterMap fun file =>
    (disk.load "project" file Descriptor.read).found?
  roots_distinct : (after.known.map (·.root)).Nodup
  roots_enclosed : ∀ p ∈ after.known, ∃ root ∈ index.roots, root.Encloses p.root
  /-- Every directory is either in the snapshot or counted as skipped. -/
  skipped_told : ∃ skipped,
    after.known.length + skipped = (found.map (·.parent)).dedup.length ∧
    (index.update disk).records = (index.projectFiles disk).records ++
      (firstPerDirectory found).flatMap (fun file => (Project.load disk file).records) ++
      skipReport skipped

/-- A scan that succeeds publishes the projects that load from the files that it finds. -/
theorem publishes_of_ok {index after : Index} {disk : Disk} {found : List Location}
    (rooted : ∀ root ∈ index.roots, root.IsRooted)
    (searched : index.discovered disk index.roots = .ok found)
    (ran : (index.update disk).result = .ok after) : index.Publishes disk found after := by
  obtain ⟨same, again, loads, rfl⟩ := (update_ok_iff rooted).mp ran
  rw [searched, Except.ok.injEq] at again
  subst again
  -- What loads and what is skipped make up the first files of all directories.
  have files : (index.projectFiles disk).result = .ok (firstPerDirectory found) := by
    rw [projectFiles_result disk rooted, searched]
    rfl
  have fewer : ((firstPerDirectory found).filterMap fun file =>
      (Project.load disk file).found?).length ≤ (firstPerDirectory found).length :=
    List.length_filterMap_le _ _
  refine ⟨rfl, loaded_descriptors loads, loaded_roots_nodup (firstPerDirectory_nodup found), ?_,
    _, ?_, update_records files loads⟩
  · intro p member
    obtain ⟨file, first, loaded⟩ := mem_loaded.mp member
    obtain ⟨root, among, under, _⟩ := discovered_mem searched (firstPerDirectory_subset first)
    exact ⟨root, among, Project.load_root loaded ▸ liesUnder_parent under⟩
  · rw [← firstPerDirectory_length]
    exact Nat.add_sub_cancel' fewer

end Index

end AutomationIndex
