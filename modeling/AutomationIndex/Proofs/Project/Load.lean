import AutomationIndex.Project.Basic
import AutomationIndex.Proofs.Location.Spelling
import AutomationIndex.Proofs.Logged

/-! What loading a project comes to: when it succeeds, and what it takes from which files. -/

namespace AutomationIndex

/-- A file that was read or not is never a failure: at fault, it only yields nothing. -/
theorem loadFile_result {ε α : Type} (kind : String) (file : Location)
    (answer : Except ReadFault String) (read : Location → Xml.Source → Except ContentFault α) :
    (loadFile kind file answer read : Logged ε (Option α)).result =
      .ok (answer.toOption.bind fun content => (read file (Xml.Source.ofText content)).toOption) := by
  unfold loadFile
  cases answer with
  -- A file that cannot be read is recorded and left out.
  | error fault => rfl
  | ok content =>
    dsimp only [Except.toOption, Option.bind_some]
    split <;> rename_i reading <;> simp [reading]

/-- Loading a file fails only on a path that no file can have. -/
theorem Disk.load_result {α : Type} (disk : Disk) (kind : String) (file : Location)
    (read : Location → Xml.Source → Except ContentFault α) :
    (disk.load kind file read).result = (disk.readText file).map fun answer =>
      answer.toOption.bind fun content => (read file (Xml.Source.ofText content)).toOption := by
  -- A disk fault passes through; a text is read or recorded as a failure.
  unfold Disk.load
  cases disk.readText file with
  | error fault => rfl
  | ok answer => exact loadFile_result kind file answer read

/-- A file yields a value exactly if its text can be read and says one. -/
theorem Disk.load_some_iff {α : Type} {disk : Disk} {kind : String} {file : Location}
    {read : Location → Xml.Source → Except ContentFault α} {a : α} :
    (disk.load kind file read).result = .ok (some a) ↔
      ∃ content, disk.readText file = .ok (.ok content) ∧
        read file (Xml.Source.ofText content) = .ok a := by
  rw [Disk.load_result]
  constructor
  · intro loaded
    -- The file has a text, and this text says a value.
    cases answered : disk.readText file with
    | error fault => simp [answered, Except.map] at loaded
    | ok answer =>
      cases answer with
      | error fault => simp [answered, Except.map, Except.toOption] at loaded
      | ok content =>
        cases reading : read file (Xml.Source.ofText content) with
        | error fault => simp [answered, reading, Except.map, Except.toOption] at loaded
        | ok value =>
          simp only [answered, reading, Except.map, Except.toOption, Option.bind_some,
            Except.ok.injEq, Option.some.injEq] at loaded
          exact ⟨content, rfl, loaded ▸ reading⟩
  · rintro ⟨content, answered, reading⟩
    simp [answered, reading, Except.map, Except.toOption]

/-- A descriptor tells the file that it was read from. -/
theorem Descriptor.read_file {file : Location} {source : Xml.Source} {d : Descriptor}
    (reading : Descriptor.read file source = .ok d) : d.file = file := by
  simp only [Descriptor.read, exceptBind_ok_iff] at reading
  obtain ⟨marked, _, reading⟩ := reading
  split at reading
  · simp at reading
  · cases reading
    rfl

/-- The directory of the configurations is written as the project's root is. -/
theorem Descriptor.physical_style {d : Descriptor} (style : d.root.style = .posix) :
    d.physical.style = .posix :=
  (Location.join_style d.root "Physical").trans style

namespace Project

/-- A loaded descriptor stands for the file that was asked for. -/
theorem descriptor_file {disk : Disk} {kind : String} {file : Location} {d : Descriptor}
    (loaded : (disk.load kind file Descriptor.read).result = .ok (some d)) : d.file = file := by
  obtain ⟨_, _, reading⟩ := Disk.load_some_iff.mp loaded
  exact Descriptor.read_file reading

/-- The root of a loaded descriptor is the directory of the file that was asked for. -/
theorem descriptor_root {disk : Disk} {kind : String} {file : Location} {d : Descriptor}
    (loaded : (disk.load kind file Descriptor.read).result = .ok (some d)) : d.root = file.parent := by
  rw [Descriptor.root, descriptor_file loaded]

/-- The root of a loaded descriptor is written as the file is. -/
theorem descriptor_style {disk : Disk} {kind : String} {file : Location} {d : Descriptor}
    (loaded : (disk.load kind file Descriptor.read).result = .ok (some d))
    (style : file.style = .posix) : d.root.style = .posix := by
  rw [descriptor_root loaded]
  exact style

/-- The parts of a project that loads. -/
theorem load_some_iff {disk : Disk} {file : Location} {p : Project} :
    (load disk file).result = .ok (some p) ↔
      (disk.load "project" file Descriptor.read).result = .ok (some p.descriptor) ∧
        (loadConfigurations disk p.descriptor).result = .ok p.configurations ∧
        ∃ files, Scan.findFiles disk {} p.descriptor.root "*.set" = .ok files ∧
          (loadActiveName disk (settingsOrder files)).result = .ok p.activeName := by
  simp only [load, Logged.bind_ok_iff, Logged.mapFault_result, mapError_ok_iff]
  -- Each part of the load is one step, and a step that fails ends the load.
  constructor
  · rintro ⟨descriptor, loaded, rest⟩
    cases descriptor with
    | none => simp at rest
    | some descriptor =>
      simp only [Logged.bind_ok_iff, Logged.ofExcept_result, Logged.mapFault_result,
        mapError_ok_iff, Logged.pure_result, Except.ok.injEq, Option.some.injEq] at rest
      obtain ⟨configurations, configured, files, listed, active, named, rfl⟩ := rest
      exact ⟨loaded, configured, files, listed, named⟩
  · rintro ⟨loaded, configured, files, listed, named⟩
    refine ⟨_, loaded, ?_⟩
    simp only [Logged.bind_ok_iff, Logged.ofExcept_result, Logged.mapFault_result,
      mapError_ok_iff, Logged.pure_result, Except.ok.injEq, Option.some.injEq]
    exact ⟨_, configured, files, listed, _, named, rfl⟩

/-- A project is left out exactly if its descriptor does not load. -/
theorem load_none_iff {disk : Disk} {file : Location} :
    (load disk file).result = .ok none ↔
      (disk.load "project" file Descriptor.read).result = .ok none := by
  -- Once there is a descriptor, loading ends with a project or a failure.
  simp only [load, Logged.bind_ok_iff, Logged.mapFault_result, mapError_ok_iff]
  constructor
  · rintro ⟨descriptor, loaded, rest⟩
    cases descriptor with
    | none => exact loaded
    | some descriptor =>
      simp only [Logged.bind_ok_iff, Logged.pure_result, Except.ok.injEq, reduceCtorEq, and_false,
        exists_false] at rest
  · intro loaded
    exact ⟨none, loaded, rfl⟩

/-- The descriptor of a project that loads stands for the file that was asked for. -/
theorem load_file {disk : Disk} {file : Location} {p : Project}
    (loaded : (load disk file).result = .ok (some p)) : p.descriptor.file = file :=
  descriptor_file (load_some_iff.mp loaded).1

/-- The root of a project that loads is the directory of its file. -/
theorem load_root {disk : Disk} {file : Location} {p : Project}
    (loaded : (load disk file).result = .ok (some p)) : p.root = file.parent := by
  have descriptor := (load_some_iff.mp loaded).1
  rw [root, descriptor_root descriptor]

end Project

end AutomationIndex
