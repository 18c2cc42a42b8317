import AutomationIndex.Proofs.Disk.RealPlace
import AutomationIndex.Proofs.Scan.Complete
import AutomationIndex.Proofs.Workspace.Degradation
import AutomationIndex.Proofs.Workspace.Lookup

/-! The directories of projects as they are spelled and as they resolve: an index has each spelled
directory once, and a real one as often as it is found under different spellings. -/

namespace AutomationIndex

namespace Disk

/-- Whether a link stands on the way that a location from the top of a disk spells, or at its end. -/
def PassesLink (disk : Disk) (l : Location) : Prop :=
  ∃ way target, way <+: l.segments ∧ disk.root.at? way = some (.link target)

variable {disk : Disk} {root : Node} {count : Nat} {here place way : Place} {names : List String}
  {entries : List (String × Node)}

/-- Names without dots lead straight on, unless they come to a link. -/
theorem Leads.straight (leads : Leads root count here names place)
    (plain : ∀ name ∈ names, name ≠ "." ∧ name ≠ "..") :
    place = here ++ names ∨
      ∃ way target, way <+: names ∧ root.at? (here ++ way) = some (.link target) := by
  -- The induction is on the way: without links a name is entered as it is, and a link ends the
  -- claim.
  induction leads with
  | here here => exact .inl (List.append_nil here).symm
  | dot isDot => exact absurd isDot (List.forall_mem_cons.mp plain).1.1
  | up isUp => exact absurd isUp (List.forall_mem_cons.mp plain).1.2
  | entry noDots real onward ih =>
    obtain straight | ⟨way, target, begins, stands⟩ := ih (List.forall_mem_cons.mp plain).2
    · exact .inl (by simpa using straight)
    · exact .inr ⟨_ :: way, target, List.cons_prefix_cons.mpr ⟨rfl, begins⟩, by simpa using stands⟩
  | link noDots stands =>
    exact .inr ⟨[_], _, List.cons_prefix_cons.mpr ⟨rfl, List.nil_prefix⟩, stands⟩

/-- A directory that is spelled from the top without dots stands where it is spelled exactly if no
link is on the way. -/
theorem place_eq_iff (plain : ∀ name ∈ way, name ≠ "." ∧ name ≠ "..")
    (located : disk.find (locationOf way) = .ok ⟨place, .directory entries⟩) :
    place = way ↔ ¬ disk.PassesLink (locationOf way) := by
  constructor
  · rintro rfl ⟨before, target, ⟨rest, spelled⟩, stands⟩
    -- Nothing stands below a link, and a link is no directory.
    have ends := find_at located
    rw [← show before ++ rest = place from spelled, Node.at?_append, stands] at ends
    cases rest <;> cases ends
  · intro direct
    obtain ⟨count, leads⟩ := leads_of_followLinks (find_follows located)
    exact (leads.straight plain).resolve_right direct

end Disk

namespace Scan

/-- Whatever a scan of a directory finds lies in a directory that can be found. -/
theorem scanDirectory_parent {disk : Disk} {search : Search} {depth : Nat} {directory : Location}
    {names : List String} {found : List Location}
    (scanned : scanDirectory disk search depth directory names = .ok found) :
    ∀ file ∈ found, disk.isDirectory file.parent = .ok true := by
  -- A file is either an entry of the directory or found in one of the directories that it holds.
  induction depth generalizing directory names found with
  | zero =>
    cases scanned
    simp
  | succ depth ih =>
    intro file member
    simp only [scanDirectory] at scanned
    split at scanned
    · cases scanned
      cases member
    · cases scanned
      cases member
    · cases scanned
    · rename_i entries listed
      simp only [exceptBind_ok_iff, Pure.pure, Except.pure, Except.ok.injEq] at scanned
      obtain ⟨below, joined, rfl⟩ := scanned
      rcases List.mem_append.mp member with here | deeper
      · obtain ⟨name, -, rfl⟩ := List.mem_map.mp here
        have outer : (directory.child name).parent = directory := by
          simp [Location.child, Location.parent]
        rw [outer, Disk.isDirectory_true_iff]
        unfold Disk.entriesOf at listed
        split at listed
        · cases listed
        · rename_i place all located
          exact ⟨place, all, located⟩
        · cases listed
      · obtain ⟨name, -, part, scanned, within⟩ := joinScans_mem joined deeper
        exact ih scanned file within

end Scan

namespace Index

variable {disk : Disk} {index made after : Index} {roots found : List Location}
  {directory : Location}

/-- Every project file that is discovered lies in a directory that can be found. -/
theorem discovered_parent (searched : index.discovered disk roots = .ok found) {file : Location}
    (member : file ∈ found) : disk.isDirectory file.parent = .ok true := by
  obtain ⟨root, -, part, below, within⟩ := discovered_from searched member
  rcases filesBelow_isSearchOf below with ⟨-, rfl⟩ | ⟨-, listed, scanned, -, ran, same, -⟩
  · cases within
  · exact Scan.scanDirectory_parent ran file (same.mem_iff.mp within)

/-- Whether the first of some project files in a directory describes a project. -/
def DescribesIn (disk : Disk) (found : List Location) (directory : Location) : Prop :=
  ∃ file ∈ firstPerDirectory found, file.parent = directory ∧
    ∃ p, (Project.load disk file).result = .ok (some p)

/-- The projects of some files are those of the directories that they describe. -/
theorem mem_loaded_roots :
    directory ∈ ((firstPerDirectory found).filterMap fun file =>
      (Project.load disk file).found?).map (·.root) ↔ DescribesIn disk found directory := by
  -- The first file of a directory is the one whose project counts for it.
  constructor
  · intro member
    obtain ⟨p, loaded, rfl⟩ := List.mem_map.mp member
    obtain ⟨file, first, loads⟩ := mem_loaded.mp loaded
    exact ⟨file, first, (Project.load_root loads).symm, p, loads⟩
  · rintro ⟨file, first, rfl, p, loads⟩
    exact List.mem_map.mpr ⟨p, mem_loaded.mpr ⟨file, first, loads⟩, Project.load_root loads⟩

/-- Different roots of projects are different places exactly if no two of them resolve to one. -/
theorem resolved_nodup_iff {projects : List Project} (distinct : (projects.map (·.root)).Nodup) :
    (projects.map fun p => disk.resolve p.root).Nodup ↔
      ∀ d ∈ projects.map (·.root), ∀ e ∈ projects.map (·.root),
        disk.resolve d = disk.resolve e → d = e := by
  -- Projects have distinct roots, so two equal resolutions come from two roots or from one.
  have mapped : (projects.map fun p => disk.resolve p.root) =
      (projects.map (·.root)).map disk.resolve := by
    rw [List.map_map]
    rfl
  rw [mapped, List.nodup_map_iff_inj_on distinct]

/-- A scan publishes the projects of the files that it finds first in their directories. -/
theorem update_known (rooted : ∀ root ∈ index.roots, root.IsRooted)
    (ran : (index.update disk).result = .ok after) :
    ∃ found, index.discovered disk index.roots = .ok found ∧
      after.known = (firstPerDirectory found).filterMap fun file =>
        (Project.load disk file).found? := by
  obtain ⟨found, searched, -, rfl⟩ := (update_ok_iff rooted).mp ran
  exact ⟨found, searched, rfl⟩

/-- A directory with a described project is found on the disk, and resolves to itself exactly if no
link is on the way that it spells. -/
theorem DescribesIn.resolves (describes : DescribesIn disk found directory)
    (wellNamed : disk.isWellNamed = true) (plain : ∀ root ∈ roots, root.IsPlain)
    (searched : index.discovered disk roots = .ok found) :
    (∃ place, disk.resolve directory = .ok (Disk.locationOf place)) ∧
      (disk.resolve directory = .ok directory ↔ ¬ disk.PassesLink directory) := by
  obtain ⟨file, first, rfl, -⟩ := describes
  have member := firstPerDirectory_subset first
  obtain ⟨place, entries, located⟩ :=
    Disk.isDirectory_true_iff.mp (discovered_parent searched member)
  -- The directory is spelled from the top without dots, as the file is.
  obtain ⟨way, rfl, noDots⟩ := discovered_isPlain wellNamed plain searched file member
  change disk.find (Disk.locationOf way.dropLast) = _ at located
  have resolved := Disk.resolve_of_find wellNamed located
  have direct := Disk.place_eq_iff
    (fun name among => noDots name (List.dropLast_subset way among)) located
  change (∃ place, disk.resolve (Disk.locationOf way.dropLast) = .ok (Disk.locationOf place)) ∧
    (disk.resolve (Disk.locationOf way.dropLast) = .ok (Disk.locationOf way.dropLast) ↔
      ¬ disk.PassesLink (Disk.locationOf way.dropLast))
  refine ⟨⟨place, resolved⟩, ?_⟩
  rw [resolved, ← direct]
  simp [Disk.locationOf]

/-- The directories of the projects that a scan publishes. Each is published under one spelling only
if no links lead to it: it resolves to itself exactly if its spelling passes no link, so two projects
share a real directory only if one of them is reached through a link. And some do exactly if the scan
finds described projects under two spellings of one directory. -/
theorem update_places {start : Disk} (wellNamed : disk.isWellNamed = true) {texts : List String}
    {settings : Settings} (created : create start (texts.map Location.posix) settings = .ok made)
    (earlier : Option (List Project))
    (scanned : ({ made with snapshot := earlier }.update disk).result = .ok after) :
    (after.known.map (·.root)).Nodup ∧
    (∀ p ∈ after.known, (∃ place, disk.resolve p.root = .ok (Disk.locationOf place)) ∧
      (disk.resolve p.root = .ok p.root ↔ ¬ disk.PassesLink p.root)) ∧
    (∀ p ∈ after.known, ∀ q ∈ after.known, p.root ≠ q.root →
      disk.resolve p.root = disk.resolve q.root →
        disk.PassesLink p.root ∨ disk.PassesLink q.root) ∧
    ∃ found, made.discovered disk made.roots = .ok found ∧
      (∀ directory, directory ∈ after.known.map (·.root) ↔ DescribesIn disk found directory) ∧
      ((after.known.map fun p => disk.resolve p.root).Nodup ↔
        ∀ d e, DescribesIn disk found d → DescribesIn disk found e →
          disk.resolve d = disk.resolve e → d = e) := by
  have plain : ∀ root ∈ made.roots, root.IsPlain := create_isPlain created
  -- What an earlier scan has found does not matter.
  obtain ⟨again, same⟩ : ∃ again : Index, again = { made with snapshot := earlier } := ⟨_, rfl⟩
  have settled : again.settings = made.settings := by rw [same]
  have placed : again.roots = made.roots := by rw [same]
  rw [← same] at scanned
  obtain ⟨found, searched, known⟩ :=
    update_known (fun root member => (plain root (placed ▸ member)).isRooted) scanned
  rw [placed, discovered_settings settled] at searched
  have distinct : (after.known.map (·.root)).Nodup :=
    known ▸ loaded_roots_nodup (firstPerDirectory_nodup found)
  have described : ∀ directory,
      directory ∈ after.known.map (·.root) ↔ DescribesIn disk found directory :=
    fun directory => known ▸ mem_loaded_roots
  have resolves : ∀ p ∈ after.known, _ := fun p member =>
    ((described p.root).mp (List.mem_map_of_mem member)).resolves wellNamed plain searched
  refine ⟨distinct, resolves, fun p first q second apart shared => ?_, found, searched, described,
    (resolved_nodup_iff distinct).trans ⟨fun unique d e one other => ?_,
      fun unique d one e other => ?_⟩⟩
  · -- Without links, both roots resolve to themselves.
    by_contra direct
    rw [not_or] at direct
    rw [(resolves p first).2.mpr direct.1, (resolves q second).2.mpr direct.2] at shared
    exact apart (Except.ok.inj shared)
  · exact unique d ((described d).mpr one) e ((described e).mpr other)
  · exact unique d e ((described d).mp one) ((described e).mp other)

/-- The directory of a project in one directory, and a link to it in another one. -/
def linkedDisk : Disk where
  root := .directory [
    ("a", .directory [("A", .directory [("A.apj", .file "<Project/>".toUTF8.toList)])]),
    ("b", .directory [("B", .link "/a/A")])]

/-- The project, as it is found at a place. -/
def linkedProject (place : Place) : Project :=
  ⟨Project.bareDescriptor (place ++ ["A.apj"]), [], none⟩

/-- An index that has found the project at both places. -/
def linkedIndex : Index :=
  atPlaces [["a"], ["b"]] {} (some [linkedProject ["a", "A"], linkedProject ["b", "B"]])

/-- A scan publishes the project at both places. -/
theorem linkedDisk_scanned : ((atPlaces [["a"], ["b"]] {} none).update linkedDisk).result =
    .ok linkedIndex := by
  have direct : (Project.load linkedDisk (linkedProject ["a", "A"]).descriptor.file).result =
      .ok (some (linkedProject ["a", "A"])) :=
    Project.load_bare (Project.bareDescriptor_loads rfl) rfl (by decide +kernel) (by decide +kernel)
  have linked : (Project.load linkedDisk (linkedProject ["b", "B"]).descriptor.file).result =
      .ok (some (linkedProject ["b", "B"])) :=
    Project.load_bare (Project.bareDescriptor_loads rfl) rfl (by decide +kernel) (by decide +kernel)
  -- The descriptor is found twice, under two spellings of its directory.
  have searched : (atPlaces [["a"], ["b"]] {} none).discovered linkedDisk
      [Disk.locationOf ["a"], Disk.locationOf ["b"]] =
        .ok [(linkedProject ["a", "A"]).descriptor.file,
          (linkedProject ["b", "B"]).descriptor.file] := by
    decide +kernel
  exact update_of_loaded (atPlaces_rooted _ _ _) searched (by decide)
    (List.forall_mem_cons.mpr ⟨direct, List.forall_mem_singleton.mpr linked⟩)

/-- Of the two places of the project, one is spelled through a link, and the other resolves to
itself. -/
theorem update_places_linkedDisk :
    linkedDisk.PassesLink (linkedProject ["b", "B"]).root ∧
      ¬ linkedDisk.PassesLink (linkedProject ["a", "A"]).root := by
  have created : create linkedDisk (["/a", "/b"].map Location.posix) {} =
      .ok (atPlaces [["a"], ["b"]] {} none) := rfl
  -- The second project is reached through a link, and the first one without any.
  obtain ⟨-, resolves, shared, -⟩ := update_places (by decide) created none linkedDisk_scanned
  have first : linkedProject ["a", "A"] ∈ linkedIndex.known := List.mem_cons_self
  have second : linkedProject ["b", "B"] ∈ linkedIndex.known :=
    List.mem_cons_of_mem _ (List.mem_singleton_self _)
  have direct : ¬ linkedDisk.PassesLink (linkedProject ["a", "A"]).root :=
    (resolves _ first).2.mp (by decide)
  exact ⟨(shared _ first _ second (by decide) (by decide)).resolve_left direct, direct⟩

/-- A scan publishes two projects of one real directory. -/
theorem directory_published_twice :
    ((atPlaces [["a"], ["b"]] {} none).update linkedDisk).result = .ok linkedIndex ∧
      linkedIndex.known.map (fun p => linkedDisk.resolve p.root) =
        [.ok (Disk.locationOf ["a", "A"]), .ok (Disk.locationOf ["a", "A"])] :=
  ⟨linkedDisk_scanned, by decide⟩

end Index

end AutomationIndex
