import AutomationIndex.Proofs.Disk.Resolved
import AutomationIndex.Proofs.Disk.Selection
import AutomationIndex.Proofs.Project.Load
import Mathlib.Data.List.Nodup

/-! The configurations of a project: one for each directory that loads, told apart by their names. -/

namespace AutomationIndex

/-- No element is left twice when repetitions are taken out. -/
theorem nodup_eraseDups {α : Type} [BEq α] [LawfulBEq α] (elements : List α) :
    elements.eraseDups.Nodup := by
  -- What follows the first element no longer has it, and is shorter.
  induction count : elements.length using Nat.strongRecOn generalizing elements with
  | ind count ih =>
    cases elements with
    | nil => simp
    | cons a rest =>
      rw [List.eraseDups_cons, List.nodup_cons]
      refine ⟨by simp [List.mem_eraseDups], ih _ ?_ _ rfl⟩
      have fewer := List.length_filter_le (fun b => !b == a) rest
      simp only [List.length_cons] at count
      omega

namespace Project

variable {disk : Disk} {d : Descriptor}

/-- The directories of configurations are entries of one directory, so their names differ. -/
theorem configurationRoots_names {roots : List Location}
    (listed : configurationRoots disk d = .ok roots) :
    ∃ names : List String, roots.Perm (names.map fun name => d.physical.below [name]) ∧
      (disk.isWellNamed = true → names.Nodup ∧ ∀ name ∈ names, isEntryName name = true) := by
  simp only [configurationRoots, exceptBind_ok_iff, Pure.pure, Except.pure, Except.ok.injEq] at listed
  obtain ⟨packages, searched, rfl⟩ := listed
  -- The pattern asks for a package in any directory of the configurations.
  obtain ⟨names, same, proper⟩ := Scan.findFiles_anyDirectory
    (by decide : Scan.namePattern? ("*/" ++ Configuration.packageName) = none)
    (by decide : Glob.parts ("*/" ++ Configuration.packageName) =
      .ok [.matching "*", .named Configuration.packageName]) searched
  refine ⟨names, ?_, proper⟩
  have parents := same.map Location.parent
  simpa [Function.comp_def, Location.child_eq_below] using parents

/-- No two directories of configurations of a well-named disk have one name. -/
theorem configurationRoots_distinct (wellNamed : disk.isWellNamed = true) {roots : List Location}
    (listed : configurationRoots disk d = .ok roots) : (roots.map (·.name)).Nodup := by
  obtain ⟨names, same, proper⟩ := configurationRoots_names listed
  -- The names of the directories are the names of the entries, in another order.
  have called : (roots.map (·.name)).Perm names := by
    simpa [Function.comp_def] using same.map (·.name)
  exact called.nodup_iff.mpr (proper wellNamed).1

/-- Only directories that are found are put in order. -/
theorem inOrder_subset {declared : List String} {roots : List Location} :
    inOrder declared roots ⊆ roots := by
  intro root member
  -- A directory is put in its place by its declared name or among the others.
  rcases List.mem_append.mp member with named | unnamed
  · obtain ⟨name, _, found⟩ := List.mem_filterMap.mp named
    exact List.mem_of_find?_eq_some found
  · exact List.mem_of_mem_filter ((List.mergeSort_perm _ _).mem_iff.mp unnamed)

/-- The first directories in order are those that have a declared name. -/
theorem declared_perm {declared : List String} {roots : List Location} (once : declared.Nodup)
    (distinct : (roots.map (·.name)).Nodup) :
    (declared.filterMap fun name => roots.find? fun root => root.name == name).Perm
      (roots.filter fun root => declared.contains root.name) := by
  have named : ∀ {name root}, (roots.find? fun root => root.name == name) = some root →
      root ∈ roots ∧ root.name = name := by
    intro name root found
    exact ⟨List.mem_of_find?_eq_some found, by simpa using List.find?_some found⟩
  -- Neither list repeats a directory, and both have the same ones.
  apply (List.perm_ext_iff_of_nodup ?_ ?_).mpr
  · intro root
    simp only [List.mem_filterMap, List.mem_filter, List.contains_iff_mem]
    constructor
    · rintro ⟨name, member, found⟩
      obtain ⟨among, rfl⟩ := named found
      exact ⟨among, member⟩
    · -- A directory of that name can be no other one.
      rintro ⟨among, member⟩
      refine ⟨root.name, member, ?_⟩
      cases found : roots.find? fun other => other.name == root.name with
      | none => simpa using List.find?_eq_none.mp found root among
      | some other =>
        obtain ⟨present, same⟩ := named found
        rw [List.inj_on_of_nodup_map distinct present among same]
  · apply List.Nodup.filterMap ?_ once
    intro first second root here there
    exact (named here).2.symm.trans (named there).2
  · exact (List.Nodup.of_map _ distinct).filter _

/-- Ordering the directories of configurations loses none of them. -/
theorem inOrder_perm {declared : List String} {roots : List Location} (once : declared.Nodup)
    (distinct : (roots.map (·.name)).Nodup) : (inOrder declared roots).Perm roots := by
  have sorted := List.mergeSort_perm (roots.filter fun root => !declared.contains root.name)
    fun a b => !decide (b.name < a.name)
  exact ((declared_perm once distinct).append sorted).trans (List.filter_append_perm _ roots)

/-- No name is declared twice. -/
theorem declaredNames_nodup (physical : Option PhysicalPackage) : (declaredNames physical).Nodup := by
  cases physical with
  | none => exact List.nodup_nil
  | some p => exact nodup_eraseDups _

/-- A configuration loads exactly if both of its packages do. -/
theorem configuration_some_iff {root projectRoot : Location} {description : Option String}
    {c : Configuration} :
    (Configuration.load disk root projectRoot description).result = .ok (some c) ↔
      ∃ package cpu,
        (disk.load Role.configuration.kind (root / Configuration.packageName)
          ConfigurationPackage.read).result = .ok (some package) ∧
        (disk.load Role.cpu.kind (package.cpuDirectory projectRoot / Configuration.cpuPackageName)
          CpuPackage.read).result = .ok (some cpu) ∧
        c = ⟨root.name, root, package, cpu, description⟩ := by
  simp only [Configuration.load, Logged.bind_ok_iff]
  constructor
  · rintro ⟨package, read, loaded⟩
    cases package with
    -- Without its package the configuration is skipped.
    | none => simp [Configuration.skip, Logged.bind_ok_iff] at loaded
    | some package =>
      simp only [Logged.bind_ok_iff] at loaded
      obtain ⟨cpu, reached, loaded⟩ := loaded
      cases cpu with
      | none => simp [Configuration.skip, Logged.bind_ok_iff] at loaded
      | some cpu =>
        cases loaded
        exact ⟨package, cpu, read, reached, rfl⟩
  · rintro ⟨package, cpu, read, reached, rfl⟩
    exact ⟨some package, read, Logged.bind_ok_iff.mpr ⟨some cpu, reached, rfl⟩⟩

/-- A configuration that loads has the directory that it was loaded from, and its name. -/
theorem configuration_root {root projectRoot : Location} {description : Option String}
    {c : Configuration}
    (loaded : (Configuration.load disk root projectRoot description).result = .ok (some c)) :
    c.root = root ∧ c.name = root.name := by
  obtain ⟨package, cpu, _, _, rfl⟩ := configuration_some_iff.mp loaded
  exact ⟨rfl, rfl⟩

/-- What holds between the names of directories one after the other does so between the names of
the configurations that load from them. -/
theorem loaded_pairwise {R : String → String → Prop} {roots : List Location} {projectRoot : Location}
    (describe : Location → Option String) (ordered : roots.Pairwise fun a b => R a.name b.name) :
    (roots.filterMap fun root =>
      (Configuration.load disk root projectRoot (describe root)).found?).Pairwise
        fun c e => R c.name e.name := by
  -- A loaded configuration has the name of its directory, so the order of the directories is kept.
  rw [List.pairwise_filterMap]
  apply ordered.imp
  intro first second related c here e there
  rw [(configuration_root (Logged.found?_eq_some_iff.mp here)).2,
    (configuration_root (Logged.found?_eq_some_iff.mp there)).2]
  exact related

/-- The configurations of a project are those that load from its directories in their order. -/
theorem loadConfigurations_ok_iff {configurations : List Configuration} :
    (loadConfigurations disk d).result = .ok configurations ↔
      ∃ physical roots,
        (disk.load Role.physical.kind (d.physical / physicalPackageName)
          PhysicalPackage.read).result = .ok physical ∧
        configurationRoots disk d = .ok roots ∧
        (∀ root ∈ inOrder (declaredNames physical) roots, ∃ answer,
          (Configuration.load disk root d.root
            (physical.bind (·.description? root.name))).result = .ok answer) ∧
        configurations = (inOrder (declaredNames physical) roots).filterMap fun root =>
          (Configuration.load disk root d.root
            (physical.bind (·.description? root.name))).found? := by
  -- The loading is three steps and the last one visits every directory.
  simp only [loadConfigurations, Logged.bind_ok_iff, Logged.mapFault_result, mapError_ok_iff,
    Logged.ofExcept_result, Logged.collect_ok_iff, Logged.found?_mapFault]
  constructor
  · rintro ⟨physical, loaded, roots, listed, all, same⟩
    exact ⟨physical, roots, loaded, listed, all, same⟩
  · rintro ⟨physical, roots, loaded, listed, all, same⟩
    exact ⟨physical, loaded, roots, listed, all, same⟩

end Project

end AutomationIndex
