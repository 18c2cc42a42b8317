import AutomationIndex.Proofs.Project.Completion
import AutomationIndex.Proofs.Scan.Completion
import AutomationIndex.Proofs.Workspace.Discovery
import AutomationIndex.Proofs.Workspace.Lookup

/-! Which scans of a workspace come to an answer, and what they publish then: no content of a file
keeps a scan from it, only a path that is too long does. -/

namespace AutomationIndex

/-- Whether a scan of a workspace fails at a path that is too long. -/
def IndexFault.IsTooLong : IndexFault → Prop
  | .search fault => fault.IsTooLong
  | _ => False

namespace Index

variable {index : Index} {disk : Disk} (wellNamed : disk.isWellNamed = true)

include wellNamed

/-- Searching roots fails only at a path that is too long. -/
theorem discovered_failsOnly (roots : List Location) :
    FailsOnly SearchFault.IsTooLong (index.discovered disk roots) := by
  induction roots with
  | nil => exact FailsOnly.of_ok rfl
  | cons root rest ih =>
    -- The search ends at the first root that fails.
    apply (Scan.findFiles_anyDepth_failsOnly wellNamed index.settings.scan.pattern_isName).bind
    intro found _
    apply ih.bind
    intro others _
    exact FailsOnly.of_ok rfl

/-- A file that is found has a path without a NUL: its root leads to a directory, and names of entries
lead on from there. -/
theorem discovered_lacksNul {roots found : List Location}
    (searched : index.discovered disk roots = .ok found) : ∀ file ∈ found, file.LacksNul := by
  intro file member
  -- A file is found below a root by names of entries, and the root itself was reached.
  obtain ⟨root, _, part, below, within⟩ := discovered_from searched member
  obtain ⟨⟨names, _, rfl, proper⟩, _⟩ := filesBelow_mem below within
  rcases filesBelow_isSearchOf below with ⟨_, rfl⟩ | ⟨stands, _⟩
  · cases within
  · exact (Disk.lacksNul_of_leadsTo stands).below fun name among =>
      lacksNul_of_isEntryName (proper wellNamed name among)

/-- A file that is found below rooted locations loads unless a path is too long. -/
theorem load_failsOnly {roots found : List Location} (rooted : ∀ root ∈ roots, root.IsRooted)
    (searched : index.discovered disk roots = .ok found) : ∀ file ∈ found,
      FailsOnly SearchFault.IsTooLong (Project.load disk file).result := by
  intro file among
  -- The file lies under a root, so its location is the root's with names below it.
  obtain ⟨root, member, under, _⟩ := discovered_mem searched among
  have lacks := discovered_lacksNul wellNamed searched file among
  obtain ⟨place, rfl⟩ := liesUnder_isRooted (rooted root member) under
  exact Project.load_failsOnly wellNamed rfl lacks

/-- A scan of a workspace fails only at a path that is too long. -/
theorem update_failsOnly (rooted : ∀ root ∈ index.roots, root.IsRooted) :
    FailsOnly IndexFault.IsTooLong (index.update disk).result := by
  -- Either the search for project files fails, or the load of one that was found.
  have loading : FailsOnly SearchFault.IsTooLong (index.loadProjects disk).result := by
    rw [loadProjects_result, projectFiles_result disk rooted]
    cases searched : index.discovered disk index.roots with
    | error fault =>
      rintro _ ⟨rfl⟩
      exact discovered_failsOnly wellNamed index.roots fault searched
    | ok found =>
      apply Logged.collect_failsOnly
      intro file first
      exact load_failsOnly wellNamed rooted searched file (firstPerDirectory_subset first)
  rw [update_result]
  intro fault failed
  cases ran : (index.loadProjects disk).result with
  | ok projects => simp [ran, Except.map, Except.mapError] at failed
  | error cause =>
    simp only [ran, Except.map, Except.mapError, Except.error.injEq] at failed
    exact failed ▸ loading cause ran

omit wellNamed

/-- A scan searches the roots in their order, keeps the first file of each directory, and publishes
the projects that load from these; it does so exactly where all searches and loads come to an answer.
What keeps them from it on a well-named disk is a path that is too long and nothing else, and then
the scan publishes nothing. Further roots add projects at the end, and roots that are listed again add
none. -/
theorem update_publishes (disk : Disk) (settings : Settings) (earlier : Option (List Project))
    (places : List Place) :
    let index := atPlaces places settings earlier
    (∀ root files, index.filesBelow disk root = .ok files →
      disk.isDirectory root = .ok false ∧ files = [] ∨
        disk.isDirectory root = .ok true ∧ index.IsSearchOf disk root files) ∧
    (∀ after, (index.update disk).result = .ok after ↔
      ∃ found, index.discovered disk index.roots = .ok found ∧
        (∀ file ∈ firstPerDirectory found,
          ∃ answer, (Project.load disk file).result = .ok answer) ∧
        index.Publishes disk found after) ∧
    (disk.isWellNamed = true → FailsOnly IndexFault.IsTooLong (index.update disk).result ∧
      FailsOnly SearchFault.IsTooLong (index.discovered disk index.roots) ∧
      ∀ found, index.discovered disk index.roots = .ok found → ∀ file ∈ found,
        FailsOnly SearchFault.IsTooLong (Project.load disk file).result) ∧
    (∀ (session : Session) position, session.disk = disk →
      session.indexes[position]? = some index →
      (∀ fault, (index.update disk).result = .error fault →
        (session.act (.update position)).result = .error (.index fault)) ∧
      ∀ after, (index.update disk).result = .ok after →
        (session.act (.update position)).result = .ok
          ({ session with indexes := session.indexes.set position after },
            .count after.known.length)) ∧
    (∀ more longer, ((atPlaces (places ++ more) settings earlier).update disk).result = .ok longer →
      ∃ after, (index.update disk).result = .ok after ∧ after.known <+: longer.known) ∧
    (∀ before place between rest, places = before ++ place :: between ++ rest →
      ((atPlaces (before ++ place :: between ++ place :: rest) settings earlier).update
        disk).result.map known = (index.update disk).result.map known) := by
  intro index
  have rooted := atPlaces_rooted places settings earlier
  refine ⟨fun root files searched => filesBelow_isSearchOf searched, ?_, ?_, ?_, ?_, ?_⟩
  · intro after
    -- A scan is its search and its loads, and what it publishes follows from what they answer.
    constructor
    · intro ran
      obtain ⟨found, searched, loads, _⟩ := (update_ok_iff rooted).mp ran
      exact ⟨found, searched, loads, publishes_of_ok rooted searched ran⟩
    · rintro ⟨found, searched, loads, published⟩
      exact (update_ok_iff rooted).mpr ⟨found, searched, loads, published.after_eq⟩
  · intro wellNamed
    -- Each stage is followed on its own: the whole scan, its search, and each load.
    exact ⟨update_failsOnly wellNamed rooted, discovered_failsOnly wellNamed index.roots,
      fun found searched => load_failsOnly wellNamed rooted searched⟩
  · intro session position held here
    -- The session asks the index at that position, which makes the scan.
    constructor
    · intro fault failed
      simp only [Session.act, Session.ask, held, here, Logged.bind_result, Logged.mapFault_result,
        failed]
      rfl
    · intro after ran
      simp only [Session.act, Session.ask, held, here, Logged.bind_result, Logged.mapFault_result,
        ran]
      rfl
  · intro more longer ran
    -- The longer search begins with the shorter one, and first files stay first.
    exact update_more ran
  · rintro before place between rest rfl
    -- All that is found again lies in directories that have their first file already.
    exact update_repeated disk settings earlier before between rest place

/-- A scan of the directory of two projects answers with their number, and listing the directory twice
changes nothing. -/
theorem update_publishes_hallDisk :
    let session : Session :=
      { disk := Project.hallDisk, indexes := [atPlaces [["ws"]] {} none] }
    let published := atPlaces [["ws"]] {} (some [Project.hallProject, Project.lineProject])
    (session.act (.update 0)).result = .ok ({ session with indexes := [published] }, .count 2) ∧
      ((atPlaces [["ws"], ["ws"]] {} none).update Project.hallDisk).result.map known =
        .ok [Project.hallProject, Project.lineProject] := by
  intro session published
  obtain ⟨-, -, -, answers, -, repeated⟩ := update_publishes Project.hallDisk {} none [["ws"]]
  refine ⟨(answers session 0 rfl rfl).2 published hallDisk_scanned, ?_⟩
  -- The second root stands right after the first one, and nothing after it.
  have same := repeated [] ["ws"] [] [] rfl
  rw [hallDisk_scanned] at same
  exact same

end Index

end AutomationIndex
