import AutomationIndex.Proofs.Disk.Resolved
import AutomationIndex.Proofs.Project.Includes
import AutomationIndex.Proofs.Project.Layout
import AutomationIndex.Proofs.Project.Written
import AutomationIndex.Proofs.Workspace.Discovery

/-! What an index says about a location: which project owns it, and which configuration answers. -/

namespace AutomationIndex

/-- Whether build information carries the root of a project and what one of its configurations says:
its name, its module and, where it has build settings, their compiler, their options and their include
directories. These are the declared fragments below the root, in order; where repeats are to be left
out, none equals the one before it. -/
structure BuildInfo.Carries (info : BuildInfo) (p : Project) (c : Configuration) (dedupe : Bool) :
    Prop where
  projectRoot_eq : info.projectRoot = p.root
  configuration_eq : info.configuration = c.name
  moduleId_eq : info.moduleId = c.cpu.settings.moduleId
  unset : c.cpu.settings.build = none →
    info.gccVersion = none ∧ info.includeDirectories = [] ∧ info.options = []
  set : ∀ build, c.cpu.settings.build = some build →
    let directories := build.includeFragments.map p.root.joinProjectRelative
    info.gccVersion = build.gccVersion ∧
      info.includeDirectories =
        (if dedupe then directories.destutter (· ≠ ·) else directories) ∧
      info.options = build.ansicOptions ++ build.additionalOptions

/-- The build information of a configuration carries what the configuration says. -/
theorem Configuration.buildInfo_carries {p : Project} (posix : p.root.style = .posix)
    (c : Configuration) (dedupe : Bool) : (c.buildInfo p.root dedupe).Carries p c dedupe where
  projectRoot_eq := rfl
  configuration_eq := rfl
  moduleId_eq := rfl
  unset := by
    intro none
    simp [buildInfo, CpuPackage.includeDirectories, CpuPackage.buildOptions, none]
  set := by
    intro build built
    -- Without dropping repeats the directories are those of the fragments, one for each.
    have all : c.cpu.includeDirectories false p.root =
        build.includeFragments.map p.root.joinProjectRelative := by
      simp [CpuPackage.includeDirectories, built]
    refine ⟨by simp [buildInfo, built], ?_, by simp [buildInfo, CpuPackage.buildOptions, built]⟩
    rw [← all, ← c.cpu.includeDirectories_destutter posix]
    cases dedupe <;> rfl

/-- A configuration leaves no choice of the build information that carries it. -/
theorem BuildInfo.Carries.unique {info other : BuildInfo} {p : Project} {c : Configuration}
    {dedupe : Bool} (carries : info.Carries p c dedupe) (again : other.Carries p c dedupe) :
    info = other := by
  -- What a compiler is told depends on whether there are build settings, and is the same either way.
  have told : info.gccVersion = other.gccVersion ∧
      info.includeDirectories = other.includeDirectories ∧ info.options = other.options := by
    cases built : c.cpu.settings.build with
    | none =>
      obtain ⟨version, directories, options⟩ := carries.unset built
      obtain ⟨again_version, again_directories, again_options⟩ := again.unset built
      exact ⟨version.trans again_version.symm, directories.trans again_directories.symm,
        options.trans again_options.symm⟩
    | some build =>
      obtain ⟨version, directories, options⟩ := carries.set build built
      obtain ⟨again_version, again_directories, again_options⟩ := again.set build built
      exact ⟨version.trans again_version.symm, directories.trans again_directories.symm,
        options.trans again_options.symm⟩
  cases info
  cases other
  simp only [BuildInfo.mk.injEq]
  exact ⟨carries.projectRoot_eq.trans again.projectRoot_eq.symm,
    carries.configuration_eq.trans again.configuration_eq.symm,
    carries.moduleId_eq.trans again.moduleId_eq.symm, told⟩

namespace Index

/-- Whether the projects of an index lie in directories of their own and are laid out. -/
structure IsLaidOut (index : Index) : Prop where
  roots_distinct : (index.known.map (·.root)).Nodup
  projects_laidOut : ∀ p ∈ index.known, p.IsLaidOut

/-- The roots of an index that is made on a well-named disk are posix locations. -/
theorem create_isPosix {disk : Disk} (wellNamed : disk.isWellNamed = true) {roots : List Location}
    (plain : ∀ root ∈ roots, root.IsPosix) {settings : Settings} {index : Index}
    (created : create disk roots settings = .ok index) : ∀ root ∈ index.roots, root.IsPosix := by
  intro l member
  obtain ⟨root, among, named⟩ := create_roots created l member
  exact Disk.resolveNamed_isPosix wellNamed (plain root among) named

/-- A scan of a well-named disk leaves the index laid out. -/
theorem update_isLaidOut {disk : Disk} (wellNamed : disk.isWellNamed = true) {index after : Index}
    (rooted : ∀ root ∈ index.roots, root.IsRooted) (plain : ∀ root ∈ index.roots, root.IsPosix)
    (ran : (index.update disk).result = .ok after) : after.IsLaidOut := by
  obtain ⟨found, searched, loads, rfl⟩ := (update_ok_iff rooted).mp ran
  refine ⟨loaded_roots_nodup (firstPerDirectory_nodup found), ?_⟩
  intro p member
  obtain ⟨file, first, loaded⟩ := mem_loaded.mp member
  obtain ⟨root, among, ⟨names, _, rfl, proper⟩, _⟩ :=
    discovered_mem searched (firstPerDirectory_subset first)
  -- The directory of the file has the segments of the root and names of entries.
  have directory : ((root.below names).parent).IsPosix := by
    have file := (plain root among).below fun name member =>
      isSegment_of_isEntryName (proper wellNamed name member)
    exact ⟨file.style_eq, file.drive_eq, file.root_cases, fun segment member =>
      file.segments_ok segment (List.dropLast_subset _ member)⟩
  exact Project.isLaidOut_of_load wellNamed directory loaded

namespace IsLaidOut

variable {index : Index} {l : Location}

/-- A project owns a location exactly if its root is the deepest one that encloses the location. -/
theorem owner?_eq_some_iff (laidOut : index.IsLaidOut) (plain : l.IsPosix) {p : Project} :
    index.owner? l = some p ↔ p ∈ index.known ∧ p.root.Encloses l ∧
      ∀ q ∈ index.known, q.root.Encloses l → q.root.Encloses p.root :=
  Location.find?_deepest_eq_some_iff (fun p member => (laidOut.projects_laidOut p member).root_plain)
    laidOut.roots_distinct plain

/-- A location has no owner exactly if no root encloses it. -/
theorem owner?_eq_none_iff (laidOut : index.IsLaidOut) (plain : l.IsPosix) :
    index.owner? l = none ↔ ∀ p ∈ index.known, ¬ p.root.Encloses l :=
  Location.find?_deepest_eq_none_iff (fun p member => (laidOut.projects_laidOut p member).root_plain)
    laidOut.roots_distinct plain

/-- The owner's configuration for a location says what a compiler needs to know there. -/
theorem buildInfo?_of_owner {p : Project} (owner : index.owner? l = some p) :
    index.buildInfo? l = (p.configurationFor? l).map fun c =>
      c.buildInfo p.root index.settings.dedupeIncludeDirectories := by
  rw [buildInfo?, owner, Option.bind_some]

/-- There is nothing to know exactly where a location has no owner, or its owner has neither a
configuration that encloses it nor an active one. -/
theorem buildInfo?_eq_none_iff (laidOut : index.IsLaidOut) (plain : l.IsPosix) :
    index.buildInfo? l = none ↔ ∀ p, index.owner? l = some p →
      ∀ c ∈ p.configurations, ¬ c.root.Encloses l ∧ p.activeName ≠ some c.name := by
  -- An unowned location has no build information; an owned one asks the owner's configurations.
  cases owner : index.owner? l with
  | none => simp [buildInfo?, owner]
  | some p =>
    have member := ((laidOut.owner?_eq_some_iff plain).mp owner).1
    rw [buildInfo?_of_owner owner, Option.map_eq_none_iff,
      (laidOut.projects_laidOut p member).configurationFor?_eq_none_iff plain]
    simp

end IsLaidOut

/-- Whatever disk an index was made on and whenever it was scanned, it answers queries about absolute
locations by the roots and configurations of its projects alone: the deepest root that encloses the
location decides, then the configuration that does, and then the active one. -/
theorem lookup_answers {start disk : Disk} (startNamed : start.isWellNamed = true)
    (wellNamed : disk.isWellNamed = true) {texts : List String} {settings : Settings}
    {made index : Index} (created : create start (texts.map Location.posix) settings = .ok made)
    (earlier : Option (List Project))
    (scanned : ({ made with snapshot := earlier }.update disk).result = .ok index) (text : String)
    (absolute : (Location.posix text).isAbsolute = true) :
    let l := Location.posix text
    let dedupe := settings.dedupeIncludeDirectories
    (∀ asked, queried asked l = .ok l) ∧
    (index.owner? l = none ↔ ∀ p ∈ index.known, ¬ p.root.Encloses l) ∧
    (∀ p, index.owner? l = some p ↔ p ∈ index.known ∧ p.root.Encloses l ∧
      ∀ q ∈ index.known, q.root.Encloses l → q.root.Encloses p.root) ∧
    (index.buildInfo? l = none ↔ ∀ p, index.owner? l = some p →
      ∀ c ∈ p.configurations, ¬ c.root.Encloses l ∧ p.activeName ≠ some c.name) ∧
    (∀ p, index.owner? l = some p → ∀ c ∈ p.configurations, c.root.Encloses l →
      ∃ info, index.buildInfo? l = some info ∧ info.Carries p c dedupe) ∧
    (∀ p, index.owner? l = some p → (∀ c ∈ p.configurations, ¬ c.root.Encloses l) →
      ∀ c ∈ p.configurations, p.activeName = some c.name →
        ∃ info, index.buildInfo? l = some info ∧ info.Carries p c dedupe) ∧
    (∀ p ∈ index.known, ∀ c ∈ p.configurations, c.root.Encloses l →
      (∀ q ∈ index.known, q.root.Encloses l → q.root.Encloses p.root) →
        ∃ info, index.buildInfo? l = some info ∧ info.Carries p c dedupe) := by
  intro l dedupe
  have plain : l.IsPosix := Location.posix_isPosix text
  have posix : ∀ root ∈ made.roots, root.IsPosix := by
    refine create_isPosix startNamed ?_ created
    intro root member
    obtain ⟨text, _, rfl⟩ := List.mem_map.mp member
    exact Location.posix_isPosix text
  -- The roots are places of the disk, so a scan keeps its shape.
  obtain ⟨places, rfl⟩ := create_atPlaces created
  have rooted := atPlaces_rooted places settings earlier
  have laidOut : index.IsLaidOut := update_isLaidOut wellNamed rooted posix scanned
  have kept : index.settings = settings := by
    obtain ⟨_, _, _, rfl⟩ := (update_ok_iff rooted).mp scanned
    rfl
  -- What answers for a location is one of the configurations of its owner, and says what it carries.
  have carried : ∀ p, index.owner? l = some p → ∀ c, p.configurationFor? l = some c →
      ∃ info, index.buildInfo? l = some info ∧ info.Carries p c dedupe := by
    intro p owner c answers
    have known := ((laidOut.owner?_eq_some_iff plain).mp owner).1
    have style := (laidOut.projects_laidOut p known).root_plain.style_eq
    refine ⟨_, ?_, c.buildInfo_carries style dedupe⟩
    rw [IsLaidOut.buildInfo?_of_owner owner, answers, kept]
    rfl
  have enclosed : ∀ p, index.owner? l = some p → ∀ c ∈ p.configurations, c.root.Encloses l →
      ∃ info, index.buildInfo? l = some info ∧ info.Carries p c dedupe := by
    intro p owner c member encloses
    have known := ((laidOut.owner?_eq_some_iff plain).mp owner).1
    exact carried p owner c
      ((laidOut.projects_laidOut p known).configurationFor?_of_encloses plain member encloses)
  refine ⟨?_, laidOut.owner?_eq_none_iff plain, fun p => laidOut.owner?_eq_some_iff plain,
    laidOut.buildInfo?_eq_none_iff plain, enclosed, ?_, ?_⟩
  · intro asked
    exact if_pos absolute
  · intro p owner outside c member active
    have known := ((laidOut.owner?_eq_some_iff plain).mp owner).1
    exact carried p owner c
      ((laidOut.projects_laidOut p known).configurationFor?_of_active plain outside member active)
  · intro p known c member encloses deepest
    -- The root of the project encloses the directory of its configuration, and so the location.
    have root := ((laidOut.projects_laidOut p known).root_encloses member).trans encloses
    exact enclosed p ((laidOut.owner?_eq_some_iff plain).mpr ⟨known, root, deepest⟩) c member encloses

/-- An index of what is below the directory of the two projects. -/
theorem hallDisk_created : create Project.hallDisk (["/ws"].map Location.posix) {} =
    .ok (atPlaces [["ws"]] {} none) := rfl

/-- A scan publishes both projects. -/
theorem hallDisk_scanned : ((atPlaces [["ws"]] {} none).update Project.hallDisk).result =
    .ok (atPlaces [["ws"]] {} (some [Project.hallProject, Project.lineProject])) := by
  -- Both projects load as they were written, in the order in which the walk finds them.
  have searched : (atPlaces [["ws"]] {} none).discovered Project.hallDisk [Disk.locationOf ["ws"]] =
      .ok [Project.hallProject.descriptor.file, Project.lineProject.descriptor.file] :=
    exceptBind_ok_iff.mpr ⟨_, Project.hallDisk_found, rfl⟩
  exact update_of_loaded (atPlaces_rooted _ _ _) searched (by decide)
    (List.forall_mem_cons.mpr ⟨Project.hallProject_loads,
      List.forall_mem_singleton.mpr Project.lineProject_loads⟩)

/-- Below the inner project, a location in the directory of a configuration is answered by this one,
and any other by the active one, with its directories and options in order. -/
theorem lookup_answers_hallDisk :
    ∃ made index, create Project.hallDisk (["/ws"].map Location.posix) {} = .ok made ∧
      (made.update Project.hallDisk).result = .ok index ∧
      index.owner? (Location.posix "/ws/main.c") = some Project.hallProject ∧
      index.buildInfo? (Location.posix "/ws/main.c") = none ∧
      index.buildInfo? (Location.posix "/ws/Line/Physical/Lab/main.c") =
        some ⟨Location.posix "/ws/Line", "Lab", none, none, [], []⟩ ∧
      index.buildInfo? (Location.posix "/ws/Line/main.c") =
        some ⟨Location.posix "/ws/Line", "Run", "X20", "11.3.0",
          [Location.posix "/ws/Line/Logical/Inc", Location.posix "/ws/Line/Lib"],
          ["-Wall", "-O2", "-g"]⟩ := by
  have answers := lookup_answers (by decide) (by decide) hallDisk_created none hallDisk_scanned
  have outer : Project.hallProject ∈ [Project.hallProject, Project.lineProject] := by simp
  have inner : Project.lineProject ∈ [Project.hallProject, Project.lineProject] := by simp
  -- The root of the inner project is below that of the outer one.
  have nested : ∀ q ∈ [Project.hallProject, Project.lineProject],
      q.root.Encloses Project.lineProject.root :=
    List.forall_mem_cons.mpr ⟨⟨rfl, rfl, rfl, by decide⟩,
      List.forall_mem_singleton.mpr (Location.Encloses.refl _)⟩
  obtain ⟨-, -, owner, silent, -⟩ := answers "/ws/main.c" (by decide)
  have beside := (owner Project.hallProject).mpr ⟨outer, ⟨rfl, rfl, rfl, by decide⟩,
    List.forall_mem_cons.mpr ⟨fun _ => Location.Encloses.refl _, List.forall_mem_singleton.mpr
      fun encloses => absurd encloses.segments_begin (by decide)⟩⟩
  refine ⟨_, _, hallDisk_created, hallDisk_scanned, beside, silent.mpr ?_, ?_, ?_⟩
  · -- The outer project has no configuration.
    rintro p same c member
    cases beside.symm.trans same
    cases member
  · obtain ⟨-, -, -, -, -, -, within⟩ := answers "/ws/Line/Physical/Lab/main.c" (by decide)
    obtain ⟨info, answered, carries⟩ := within Project.lineProject inner
      (Project.lineConfiguration "Lab" {} none) (by simp [Project.lineProject])
      ⟨rfl, rfl, rfl, by decide⟩ fun q member _ => nested q member
    rw [answered, carries.unique (Configuration.buildInfo_carries rfl _ _)]
    decide
  · obtain ⟨-, -, owner, -, -, active, -⟩ := answers "/ws/Line/main.c" (by decide)
    have owned := (owner Project.lineProject).mpr ⟨inner, ⟨rfl, rfl, rfl, by decide⟩,
      fun q member _ => nested q member⟩
    have outside : ∀ c ∈ Project.lineProject.configurations,
        ¬ c.root.Encloses (Location.posix "/ws/Line/main.c") :=
      List.forall_mem_cons.mpr ⟨fun encloses => absurd encloses.segments_begin (by decide),
        List.forall_mem_singleton.mpr fun encloses =>
          absurd encloses.segments_begin (by decide)⟩
    obtain ⟨info, answered, carries⟩ := active Project.lineProject owned outside _
      List.mem_cons_self rfl
    rw [answered, carries.unique (Configuration.buildInfo_carries rfl _ _)]
    decide +kernel

end Index

end AutomationIndex
