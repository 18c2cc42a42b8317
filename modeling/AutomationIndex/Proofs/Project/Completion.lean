import AutomationIndex.Proofs.Disk.Reading
import AutomationIndex.Proofs.Location.Characters
import AutomationIndex.Proofs.Project.Configurations
import AutomationIndex.Proofs.Scan.Faults
import AutomationIndex.Proofs.Xml.Readable

/-! Which loads come to an answer: no content of a file keeps one from it, only a path that is too
long does. -/

namespace AutomationIndex

/-- Loading a file comes to an answer exactly if its path is written without a NUL. -/
theorem Disk.load_completes_iff {α : Type} {disk : Disk} {kind : String} {file : Location}
    {read : Location → Xml.Source → Except ContentFault α} :
    (∃ found, (disk.load kind file read).result = .ok found) ↔ file.LacksNul := by
  rw [Location.lacksNul_iff, Disk.load_result]
  cases answered : disk.readText file with
  | error fault =>
    -- Reading fails only if the path is written with a NUL.
    have written := (Disk.readText_error_iff.mp answered).1
    simp [Except.map, LacksNul, written]
  | ok answer =>
    -- A path with a NUL would have failed instead.
    have lacks : LacksNul file.text := by
      intro written
      have failed : disk.readText file = .error (Disk.faultAt file .nullCharacter) :=
        Disk.readText_error_iff.mpr ⟨written, rfl⟩
      rw [answered] at failed
      cases failed
    simp [Except.map, lacks]

/-- No document holds a NUL. -/
theorem lacksNul_of_readable {text : String} (readable : Xml.IsReadable text.toList) :
    LacksNul text := by
  intro member
  -- A NUL is not among the characters that documents may hold.
  have allowed := readable _ member
  revert allowed
  decide

/-- The objects that readable elements declare have names without a NUL. -/
theorem readObjects_lacksNul {position : Nat} {elements : List Xml.Element}
    {objects : List ChildObject} (readable : ∀ element ∈ elements, element.IsReadable)
    (read : readObjects position elements = .ok objects) :
    ∀ object ∈ objects, LacksNul object.name := by
  -- The elements are read one by one, each into an object of its own.
  induction elements generalizing position objects with
  | nil =>
    cases read
    simp
  | cons element rest ih =>
    obtain ⟨first, later⟩ := List.forall_mem_cons.mp readable
    simp only [readObjects, exceptBind_ok_iff, Except.ok.injEq] at read
    obtain ⟨object, here, others, following, rfl⟩ := read
    refine List.forall_mem_cons.mpr ⟨?_, ih later following⟩
    -- The name is the text of the element, less the blanks around it.
    unfold ChildObject.read at here
    split at here
    · cases here
    · split at here
      · cases here
      · split at here
        · cases here
        · dsimp only at here
          split at here
          · cases here
          · cases here
            exact Text.strip_lacksNul (lacksNul_of_readable first.text)

/-- The objects that a package document declares have names without a NUL. -/
theorem packageDocument_lacksNul {content : String} {document : PackageDocument}
    (read : PackageDocument.read (Xml.Source.ofText content) = .ok document) :
    ∀ object ∈ document.children, LacksNul object.name := by
  unfold PackageDocument.read at read
  split at read
  · cases read
  · rename_i marked markup
    -- Whatever the text is, a document that is read from it holds characters of documents only.
    have root : marked.root.IsReadable := by
      unfold MarkedUp.read at markup
      split at markup
      · cases markup
      · rename_i parsed
        cases markup
        exact Xml.documentRead_readable (Xml.ofText_readable content) parsed
    split at read
    · cases read
    · rename_i children declared
      cases read
      unfold declaredObjects at declared
      split at declared
      · cases declared
        simp
      · rename_i objects only
        -- The objects are declared inside of the only section for them.
        have among : objects ∈ marked.root.childrenNamed "Objects" := only ▸ List.mem_singleton_self _
        exact readObjects_lacksNul (root.children _ (List.mem_of_mem_filter among)).children declared
      · cases declared

/-- A package of a configuration tells the file that it was read from. -/
theorem ConfigurationPackage.read_file {file : Location} {source : Xml.Source}
    {p : ConfigurationPackage} (reading : ConfigurationPackage.read file source = .ok p) :
    p.file = file ∧ ∃ document, PackageDocument.read source = .ok document ∧
      p.cpu ∈ document.children := by
  simp only [ConfigurationPackage.read, exceptBind_ok_iff, RoleFault.inFile, mapError_ok_iff] at reading
  obtain ⟨document, read, checked⟩ := reading
  unfold ConfigurationPackage.check at checked
  split at checked
  · split at checked
    · cases checked
    · rename_i cpu found
      cases checked
      refine ⟨rfl, document, read, ?_⟩
      -- The controller is the only child of its type.
      have among : cpu ∈ (document.toFile file).childrenOfType "Cpu" :=
        found ▸ List.mem_singleton_self _
      exact List.mem_of_mem_filter among
    · cases checked
  · cases checked

/-- A package of a controller tells the file that it was read from. -/
theorem CpuPackage.read_file {file : Location} {source : Xml.Source} {p : CpuPackage}
    (reading : CpuPackage.read file source = .ok p) : p.file = file := by
  -- The file is handed through to the checked package.
  simp only [CpuPackage.read, exceptBind_ok_iff, RoleFault.inFile, mapError_ok_iff] at reading
  obtain ⟨document, _, settings, _, checked⟩ := reading
  unfold CpuPackage.check at checked
  split at checked
  · cases checked
    rfl
  · cases checked

section

variable {object : ChildObject} {projectRoot file : Location}
  (rootStyle : projectRoot.style = .posix) (fileStyle : file.style = .posix)

include rootStyle fileStyle

/-- Where an object is found is written as the files of its project are. -/
theorem ChildObject.location_style : (object.location projectRoot file).style = .posix := by
  unfold ChildObject.location
  split
  · exact (Location.joinParts_style _ _).trans rootStyle
  · split
    · exact (Location.join_style _ _).trans ((Location.join_style _ _).trans rootStyle)
    · exact (Location.join_style _ _).trans fileStyle

/-- Where an object is found is written without a NUL, if its name and the rest of the way are. -/
theorem ChildObject.location_lacksNul (own : LacksNul object.name) (outer : projectRoot.LacksNul)
    (beside : file.LacksNul) : (object.location projectRoot file).LacksNul := by
  -- The three ways to write an object begin at the project, its packages or the file.
  unfold ChildObject.location
  split
  · exact outer.joinProjectRelative rootStyle own
  · split
    · have physical : (projectRoot / "Physical").LacksNul := outer.join rootStyle (by decide)
      exact physical.join ((Location.join_style _ _).trans rootStyle) own
    · exact beside.parent.join fileStyle own

end

namespace Configuration

variable {disk : Disk} {root projectRoot : Location}

section

variable {kind : String} {package : ConfigurationPackage} (rootStyle : root.style = .posix)
  (projectStyle : projectRoot.style = .posix)
  (loaded : (disk.load kind (root / packageName) ConfigurationPackage.read).result =
    .ok (some package))

include rootStyle projectStyle loaded

/-- A package that loads leads on to a directory that is written as its own is. -/
theorem cpuDirectory_style : (package.cpuDirectory projectRoot).style = .posix := by
  obtain ⟨content, _, reading⟩ := Disk.load_some_iff.mp loaded
  obtain ⟨file, _⟩ := ConfigurationPackage.read_file reading
  apply ChildObject.location_style projectStyle
  rw [file]
  exact (Location.join_style _ _).trans rootStyle

/-- A package that loads leads on to a controller whose path is written without a NUL. -/
theorem cpuFile_lacksNul (inner : root.LacksNul) (outer : projectRoot.LacksNul) :
    (package.cpuDirectory projectRoot / cpuPackageName).LacksNul := by
  obtain ⟨content, _, reading⟩ := Disk.load_some_iff.mp loaded
  obtain ⟨file, document, read, among⟩ := ConfigurationPackage.read_file reading
  have own := packageDocument_lacksNul read _ among
  have packageFile : package.file.LacksNul := file ▸ inner.join rootStyle (by decide)
  have fileStyle : package.file.style = .posix :=
    file ▸ (Location.join_style _ _).trans rootStyle
  -- The name of the controller is read from the package, and the rest is given.
  have directory : (package.cpuDirectory projectRoot).LacksNul :=
    ChildObject.location_lacksNul projectStyle fileStyle own outer packageFile
  exact directory.join (cpuDirectory_style rootStyle projectStyle loaded) (by decide)

end

/-- Loading a configuration comes to an answer, whatever its files hold. -/
theorem load_completes (rootStyle : root.style = .posix) (projectStyle : projectRoot.style = .posix)
    (inner : root.LacksNul) (outer : projectRoot.LacksNul) (description : Option String) :
    ∃ answer, (load disk root projectRoot description).result = .ok answer := by
  have packageFile : (root / packageName).LacksNul := inner.join rootStyle (by decide)
  obtain ⟨package, loaded⟩ : ∃ package, (disk.load Role.configuration.kind (root / packageName)
      ConfigurationPackage.read).result = .ok package := Disk.load_completes_iff.mpr packageFile
  cases package with
  | none => exact ⟨none, Logged.bind_ok_iff.mpr ⟨none, loaded, rfl⟩⟩
  | some package =>
    -- The package may lead anywhere, but never to a path that nothing can have.
    have cpuFile := cpuFile_lacksNul rootStyle projectStyle loaded inner outer
    obtain ⟨cpu, reached⟩ : ∃ cpu, (disk.load Role.cpu.kind
        (package.cpuDirectory projectRoot / cpuPackageName) CpuPackage.read).result = .ok cpu :=
      Disk.load_completes_iff.mpr cpuFile
    cases cpu with
    | none =>
      exact ⟨none, Logged.bind_ok_iff.mpr ⟨_, loaded, Logged.bind_ok_iff.mpr ⟨none, reached, rfl⟩⟩⟩
    | some cpu =>
      exact ⟨_, Logged.bind_ok_iff.mpr ⟨_, loaded, Logged.bind_ok_iff.mpr ⟨_, reached, rfl⟩⟩⟩

end Configuration

/-- What a location leads to is found at a path without a NUL. -/
theorem Disk.lacksNul_of_leadsTo {disk : Disk} {l : Location} {kind : Node → Bool}
    (stands : disk.leadsTo l kind = .ok true) : l.LacksNul := by
  rw [Location.lacksNul_iff]
  intro written
  -- A path with a NUL leads nowhere.
  have refused := (Disk.find_nullCharacter_iff disk l true).mpr written
  simp [Disk.leadsTo, refused, Disk.meansNothing] at stands

namespace Project

variable {disk : Disk} {d : Descriptor} {file : Location}

/-- The settings files always tell the active configuration, or that there is none. -/
theorem loadActiveName_completes {files : List Location} (each : ∀ l ∈ files, l.LacksNul) :
    ∃ active, (loadActiveName disk files).result = .ok active := by
  induction files with
  | nil => exact ⟨none, rfl⟩
  | cons first rest ih =>
    obtain ⟨here, later⟩ := List.forall_mem_cons.mp each
    obtain ⟨settings, loaded⟩ : ∃ settings, (disk.load "user settings" first
        UserSettings.read).result = .ok settings := Disk.load_completes_iff.mpr here
    obtain ⟨active, named⟩ := ih later
    unfold loadActiveName
    -- The first settings that name a configuration end the search.
    cases told : settings.bind (·.active) with
    | some name => exact ⟨some name, Logged.bind_ok_iff.mpr ⟨settings, loaded, by rw [told]; rfl⟩⟩
    | none => exact ⟨active, Logged.bind_ok_iff.mpr ⟨settings, loaded, by rw [told]; exact named⟩⟩

/-- The settings files are files of the project's root, with the names of settings. -/
theorem settingsFiles_found {files : List Location}
    (searched : Scan.findFiles disk {} d.root "*.set" = .ok files) :
    ∀ l ∈ settingsOrder files, disk.isFile l = .ok true ∧
      ∃ name, l = d.root.child name ∧ Wildcard.fits name "*.set" = true := by
  intro l member
  -- Ordering the files brings in no new one.
  have among : l ∈ files := by
    rcases List.mem_append.mp member with last | others
    · exact List.mem_of_mem_filter last
    · exact List.mem_of_mem_filter others
  have byPath : Scan.namePattern? "*.set" = none := by decide
  have read : Glob.parts "*.set" = .ok [.matching "*.set"] := by decide
  exact Scan.findFiles_matching byPath read searched l among

/-- The settings files have paths without a NUL. -/
theorem settingsFiles_lacksNul {files : List Location}
    (searched : Scan.findFiles disk {} d.root "*.set" = .ok files) :
    ∀ l ∈ settingsOrder files, l.LacksNul :=
  fun l member => Disk.lacksNul_of_leadsTo (settingsFiles_found searched l member).1

/-- Looking for the directories of configurations fails only at a path that is too long. -/
theorem configurationRoots_failsOnly :
    FailsOnly SearchFault.IsTooLong (configurationRoots disk d) := by
  -- The pattern is a wildcard and a name, and what follows the search cannot fail.
  have byPath : Scan.namePattern? ("*/" ++ Configuration.packageName) = none := by decide
  have read : Glob.parts ("*/" ++ Configuration.packageName) =
      .ok (.matching "*" :: [Configuration.packageName].map .named) := by decide
  apply (Scan.findFiles_failsOnly byPath read).bind
  intro packages _
  exact FailsOnly.of_ok rfl

/-- Looking for settings files fails only at a path that is too long. -/
theorem settingsSearch_failsOnly :
    FailsOnly SearchFault.IsTooLong (Scan.findFiles disk {} d.root "*.set") := by
  have byPath : Scan.namePattern? "*.set" = none := by decide
  have read : Glob.parts "*.set" = .ok (.matching "*.set" :: [].map .named) := by decide
  exact Scan.findFiles_failsOnly byPath read

/-- The directories of configurations are written as their project is. -/
theorem configurationRoots_style (style : d.root.style = .posix) {roots : List Location}
    (listed : configurationRoots disk d = .ok roots) : ∀ root ∈ roots, root.style = .posix := by
  intro root member
  obtain ⟨names, same, _⟩ := configurationRoots_names listed
  obtain ⟨name, _, rfl⟩ := List.mem_map.mp (same.mem_iff.mp member)
  exact Descriptor.physical_style style

section

variable (wellNamed : disk.isWellNamed = true) (style : d.root.style = .posix)
  (lacks : d.root.LacksNul)

include style lacks

/-- Looking for the list of configurations comes to an answer. -/
theorem physical_completes : ∃ physical, (disk.load Role.physical.kind
    (d.physical / physicalPackageName) PhysicalPackage.read).result = .ok physical := by
  have inner : d.physical.LacksNul := lacks.join style (by decide)
  exact Disk.load_completes_iff.mpr (inner.join (Descriptor.physical_style style) (by decide))

include wellNamed

/-- The directories of configurations are written without a NUL. -/
theorem configurationRoots_lacksNul {roots : List Location}
    (listed : configurationRoots disk d = .ok roots) : ∀ root ∈ roots, root.LacksNul := by
  intro root member
  obtain ⟨names, same, proper⟩ := configurationRoots_names listed
  obtain ⟨name, among, rfl⟩ := List.mem_map.mp (same.mem_iff.mp member)
  apply (lacks.join style (by decide : LacksNul "Physical")).below
  exact List.forall_mem_singleton.mpr (lacksNul_of_isEntryName ((proper wellNamed).2 name among))

/-- Loading a configuration from a directory that was found comes to an answer. -/
theorem configuration_completes {roots : List Location}
    (listed : configurationRoots disk d = .ok roots) (description : Option String) :
    ∀ root ∈ roots, ∃ answer,
      (Configuration.load disk root d.root description).result = .ok answer := by
  -- The directory of a configuration is a POSIX location without null characters, like the root's.
  intro root member
  have rootStyle := configurationRoots_style style listed root member
  have inner := configurationRoots_lacksNul wellNamed style lacks listed root member
  exact Configuration.load_completes rootStyle style inner lacks description

/-- Loading the configurations comes to an answer where their directories can be found. -/
theorem loadConfigurations_completes {roots : List Location}
    (listed : configurationRoots disk d = .ok roots) :
    ∃ configurations, (loadConfigurations disk d).result = .ok configurations := by
  obtain ⟨physical, loaded⟩ := physical_completes style lacks
  refine ⟨_, loadConfigurations_ok_iff.mpr ⟨physical, roots, loaded, listed, ?_, rfl⟩⟩
  -- The order of the directories brings in no new one.
  intro root member
  exact configuration_completes wellNamed style lacks listed _ root (inOrder_subset member)

/-- Loading the configurations fails only at a path that is too long. -/
theorem loadConfigurations_failsOnly :
    FailsOnly SearchFault.IsTooLong (loadConfigurations disk d).result := by
  -- The list itself comes to an answer, so only the search for directories can fail.
  obtain ⟨physical, loaded⟩ := physical_completes style lacks
  unfold loadConfigurations
  rw [Logged.bind_result]
  apply FailsOnly.bind
  · exact FailsOnly.of_ok (Logged.mapFault_ok_iff.mpr loaded)
  · intro physical _
    rw [Logged.bind_result]
    apply configurationRoots_failsOnly.bind
    intro roots listed
    apply Logged.collect_failsOnly
    intro root member
    obtain ⟨answer, ran⟩ := configuration_completes wellNamed style lacks listed
      (physical.bind (·.description? root.name)) root (inOrder_subset member)
    exact FailsOnly.of_ok (Logged.mapFault_ok_iff.mpr ran)

end

section

variable (wellNamed : disk.isWellNamed = true) (style : file.style = .posix)
  (lacks : file.LacksNul)

include lacks

/-- Looking for a descriptor comes to an answer. -/
theorem descriptor_completes : ∃ answer,
    (disk.load "project" file Descriptor.read).result = .ok answer :=
  Disk.load_completes_iff.mpr lacks

include wellNamed style

/-- Loading a project comes to an answer exactly if the searches beside its descriptor do. -/
theorem load_completes_iff : (∃ answer, (load disk file).result = .ok answer) ↔
    ∀ d, (disk.load "project" file Descriptor.read).result = .ok (some d) →
      (∃ roots, configurationRoots disk d = .ok roots) ∧
        ∃ files, Scan.findFiles disk {} d.root "*.set" = .ok files := by
  constructor
  · rintro ⟨answer, ran⟩ d read
    cases answer with
    | none =>
      rw [load_none_iff, read] at ran
      cases ran
    | some p =>
      -- A project that loads has made both searches.
      obtain ⟨again, configured, files, searched, _⟩ := load_some_iff.mp ran
      rw [read] at again
      cases again
      obtain ⟨_, roots, _, listed, _⟩ := loadConfigurations_ok_iff.mp configured
      exact ⟨⟨roots, listed⟩, files, searched⟩
  · intro found
    obtain ⟨answer, read⟩ := descriptor_completes lacks
    cases answer with
    | none => exact ⟨none, load_none_iff.mpr read⟩
    | some d =>
      -- Where both searches succeed, everything that they lead to can be read or left out.
      obtain ⟨⟨roots, listed⟩, files, searched⟩ := found d read
      have rooted := descriptor_style read style
      have outer : d.root.LacksNul := descriptor_root read ▸ lacks.parent
      obtain ⟨configurations, configured⟩ :=
        loadConfigurations_completes wellNamed rooted outer listed
      obtain ⟨active, named⟩ := loadActiveName_completes (settingsFiles_lacksNul searched)
      exact ⟨some ⟨d, configurations, active⟩,
        load_some_iff.mpr ⟨read, configured, files, searched, named⟩⟩

/-- Loading a project fails only at a path that is too long. -/
theorem load_failsOnly : FailsOnly SearchFault.IsTooLong (load disk file).result := by
  obtain ⟨answer, read⟩ := descriptor_completes lacks
  unfold load
  rw [Logged.bind_result]
  apply FailsOnly.bind
  · exact FailsOnly.of_ok (Logged.mapFault_ok_iff.mpr read)
  · intro descriptor loaded
    rw [Logged.mapFault_ok_iff] at loaded
    cases descriptor with
    | none => exact FailsOnly.of_ok rfl
    | some d =>
      -- Of the three steps after the descriptor, only the searches can fail.
      have rooted := descriptor_style loaded style
      have outer : d.root.LacksNul := descriptor_root loaded ▸ lacks.parent
      dsimp only
      rw [Logged.bind_result]
      apply (loadConfigurations_failsOnly wellNamed rooted outer).bind
      intro configurations _
      rw [Logged.bind_result]
      apply settingsSearch_failsOnly.bind
      intro files searched
      obtain ⟨active, named⟩ := loadActiveName_completes (settingsFiles_lacksNul searched)
      rw [Logged.bind_result, Logged.mapFault_result, named]
      exact FailsOnly.of_ok rfl

end

end Project

end AutomationIndex
