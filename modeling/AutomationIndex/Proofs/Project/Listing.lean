import AutomationIndex.Proofs.Project.Completion
import AutomationIndex.Proofs.Project.Layout
import AutomationIndex.Proofs.Project.Written
import AutomationIndex.Proofs.Scan.Complete

/-! The configurations that a project is loaded with: one for each directory that holds a package of
its own and can be read, in the order of the list of configurations and then by name. -/

namespace AutomationIndex

/-- The first occurrences of the elements of a list come in their order. -/
theorem eraseDups_pairwise {α : Type} [BEq α] [LawfulBEq α] (elements : List α) :
    elements.eraseDups.Pairwise fun a b => elements.idxOf a < elements.idxOf b := by
  -- A beginning of the list that has one element and not the other tells which one comes first.
  suffices apart : elements.eraseDups.Pairwise fun a b =>
      ∃ before, before <+: elements ∧ a ∈ before ∧ b ∉ before by
    apply apart.imp
    rintro a b ⟨before, ⟨rest, rfl⟩, present, absent⟩
    have early := List.idxOf_lt_length_iff.mpr present
    rw [List.idxOf_append_of_mem present, List.idxOf_append_of_notMem absent]
    omega
  induction count : elements.length using Nat.strongRecOn generalizing elements with
  | ind count ih =>
    cases elements with
    | nil => simp
    | cons a rest =>
      rw [List.eraseDups_cons, List.pairwise_cons]
      constructor
      · intro b among
        have other : b ≠ a := by
          simpa using (List.mem_filter.mp (List.mem_eraseDups.mp among)).2
        exact ⟨[a], List.prefix_append [a] rest, by simp, by simpa using other⟩
      · have fewer := List.length_filter_le (fun b => !b == a) rest
        simp only [List.length_cons] at count
        apply (ih _ (by omega) (rest.filter fun b => !b == a) rfl).imp_of_mem
        rintro b c _ among ⟨before, ⟨after, parted⟩, present, absent⟩
        -- A beginning of what is left without the first element comes from one of the whole rest.
        obtain ⟨first, second, rfl, rfl, _⟩ := List.filter_eq_append_iff.mp parted.symm
        have kept := (List.mem_filter.mp (List.mem_eraseDups.mp among)).2
        refine ⟨a :: first, by simp, List.mem_cons_of_mem a (List.mem_of_mem_filter present), ?_⟩
        rw [List.mem_cons, not_or]
        exact ⟨by simpa using kept, fun member => absent (List.mem_filter.mpr ⟨member, kept⟩)⟩

namespace Project

/-- The configurations that a list declares; no list declares none. -/
def declarations (listing : Option PhysicalPackage) : List ChildObject :=
  (listing.map (·.configurations)).getD []

/-- Whether a name comes before another one: declared names in the order of their first
declarations, and then all others in their own order. -/
def Precedes (declared : List String) (a b : String) : Prop :=
  if a ∈ declared then b ∈ declared → declared.idxOf a < declared.idxOf b
  else b ∉ declared ∧ a < b

/-- Whether a configuration has the description of the first declaration of its name, if any. -/
structure IsDescribed (declarations : List ChildObject) (c : Configuration) : Prop where
  declared : ∀ before object after, declarations = before ++ object :: after →
    object.name = c.name → (∀ earlier ∈ before, earlier.name ≠ c.name) →
    c.description = object.description
  undeclared : (∀ object ∈ declarations, object.name ≠ c.name) → c.description = none

/-- Whether a configuration comes from a directory of its name that holds a package of its own and
whose packages load. The description is left open. -/
structure IsFound (disk : Disk) (d : Descriptor) (c : Configuration) : Prop where
  holds : ∃ bytes, disk.Holds d.physical [c.name, Configuration.packageName] (.file bytes)
  root_eq : c.root = d.physical.below [c.name]
  package_loads : (disk.load Role.configuration.kind (c.root / Configuration.packageName)
    ConfigurationPackage.read).result = .ok (some c.package)
  cpu_loads : (disk.load Role.cpu.kind (c.package.cpuDirectory d.root / Configuration.cpuPackageName)
    CpuPackage.read).result = .ok (some c.cpu)

/-- The locations that the searches beside a descriptor ask for. -/
inductive LooksFor (disk : Disk) (d : Descriptor) : Location → Prop where
  | physical : LooksFor disk d d.physical
  | package {name : String} {inner : List (String × Node)}
      (holds : disk.Holds d.physical [name] (.directory inner)) :
      LooksFor disk d (d.physical.below [name, Configuration.packageName])
  | root : LooksFor disk d d.root
  | settings {name : String} {node : Node} (holds : disk.Holds d.root [name] node)
      (fitting : Wildcard.fits name "*.set" = true) : LooksFor disk d (d.root.below [name])

variable {disk : Disk} {d : Descriptor} {listing : Option PhysicalPackage} {c : Configuration}
  {roots : List Location}

/-- The declared names are those of the declarations, without repetitions. -/
theorem declaredNames_eq (listing : Option PhysicalPackage) :
    declaredNames listing = ((declarations listing).map (·.name)).eraseDups := by
  cases listing <;> rfl

/-- A configuration has the description of its first declaration exactly if it has the one that the
list gives for its name. -/
theorem isDescribed_iff : IsDescribed (declarations listing) c ↔
    c.description = listing.bind (·.description? c.name) := by
  have given : listing.bind (·.description? c.name) =
      ((declarations listing).find? fun child => child.name == c.name).bind (·.description) := by
    cases listing <;> rfl
  rw [given]
  cases found : (declarations listing).find? fun child => child.name == c.name with
  | none =>
    have absent : ∀ object ∈ declarations listing, object.name ≠ c.name := by
      simpa using found
    constructor
    · exact fun described => described.undeclared absent
    · intro same
      refine ⟨fun before object after parted named _ => ?_, fun _ => same⟩
      exact absurd named (absent object (by simp [parted]))
  | some first =>
    obtain ⟨named, before, after, parted, earlier⟩ := List.find?_eq_some_iff_append.mp found
    simp only [beq_iff_eq, Bool.not_eq_true', beq_eq_false_iff_ne] at named earlier
    constructor
    · exact fun described => described.declared before first after parted named earlier
    · intro same
      refine ⟨fun ahead object later split called none => ?_, fun absent => ?_⟩
      · -- There is only one first declaration of the name.
        have again : (declarations listing).find? (fun child => child.name == c.name) = some object :=
          List.find?_eq_some_iff_append.mpr ⟨by simpa using called, ahead, later, split, by simpa using none⟩
        rw [found] at again
        cases again
        exact same
      · exact absurd named (absent first (by simp [parted]))

/-- Directories with names of their own are put in the order of these. -/
theorem sortedByName_pairwise (distinct : (roots.map (·.name)).Nodup) :
    (roots.mergeSort fun a b => !decide (b.name < a.name)).Pairwise fun a b => a.name < b.name := by
  have sorted : (roots.mergeSort fun a b => !decide (b.name < a.name)).Pairwise
      fun a b => (!decide (b.name < a.name)) = true := by
    apply List.pairwise_mergeSort
    · intro a b c first second
      simp only [Bool.not_eq_true', decide_eq_false_iff_not, String.not_lt] at *
      exact String.le_trans first second
    · intro a b
      simp only [Bool.or_eq_true, Bool.not_eq_true', decide_eq_false_iff_not, String.not_lt]
      exact String.le_total _ _
  -- Sorting repeats no name, so each is strictly before the next one.
  have apart : ((roots.mergeSort fun a b => !decide (b.name < a.name)).map (·.name)).Nodup :=
    ((List.mergeSort_perm roots _).map (·.name)).nodup_iff.mpr distinct
  rw [List.Nodup, List.pairwise_map] at apart
  apply (sorted.and apart).imp
  rintro a b ⟨order, other⟩
  simp only [Bool.not_eq_true', decide_eq_false_iff_not, String.not_lt] at order
  exact Std.lt_of_le_of_ne order other

/-- The directories of configurations are put in their order. -/
theorem inOrder_pairwise (listing : Option PhysicalPackage) (distinct : (roots.map (·.name)).Nodup) :
    (inOrder (declaredNames listing) roots).Pairwise fun a b =>
      Precedes ((declarations listing).map (·.name)) a.name b.name := by
  have member : ∀ name, name ∈ declaredNames listing ↔
      name ∈ (declarations listing).map (·.name) := by
    intro name
    rw [declaredNames_eq, List.mem_eraseDups]
  have others : ∀ root ∈ (roots.filter fun root => !(declaredNames listing).contains root.name).mergeSort
      fun a b => !decide (b.name < a.name), root.name ∉ (declarations listing).map (·.name) := by
    intro root among
    rw [(List.mergeSort_perm _ _).mem_iff, List.mem_filter] at among
    rw [← member]
    simpa using among.2
  unfold inOrder
  rw [List.pairwise_append]
  refine ⟨?_, ?_, ?_⟩
  · -- The declared directories come in the order of the first declarations.
    rw [List.pairwise_filterMap, declaredNames_eq]
    apply (eraseDups_pairwise _).imp
    intro first second earlier a here b there
    have named : a.name = first := by simpa using List.find?_some here
    have called : b.name = second := by simpa using List.find?_some there
    rw [named, called]
    unfold Precedes
    split
    · exact fun _ => earlier
    · rename_i absent
      -- An undeclared name would come last.
      have last := List.idxOf_eq_length_iff.mpr absent
      have bound := List.idxOf_le_length (a := second) (l := (declarations listing).map (·.name))
      omega
  · have kept : ((roots.filter fun root => !(declaredNames listing).contains root.name).map
        (·.name)).Nodup := distinct.sublist (List.filter_sublist.map _)
    apply (sortedByName_pairwise kept).imp_of_mem
    intro a b first second order
    rw [Precedes, if_neg (others a first)]
    exact ⟨others b second, order⟩
  · intro a first b second
    obtain ⟨name, among, found⟩ := List.mem_filterMap.mp first
    have named : a.name = name := by simpa using List.find?_some found
    rw [Precedes, if_pos ((member _).mp (named ▸ among))]
    exact fun declared => absurd declared (others b second)

section

variable (wellNamed : disk.isWellNamed = true) (unlinked : disk.root.LacksLinks)

include wellNamed unlinked

/-- The directories of configurations are those with a package of their own, and they are found
unless a location that is asked for is too long. -/
theorem configurationRoots_complete :
    ((∃ roots, configurationRoots disk d = .ok roots) ↔ ¬ disk.Exceeds d.physical ∧
      ∀ name inner, disk.Holds d.physical [name] (.directory inner) →
        ¬ disk.Exceeds (d.physical.below [name, Configuration.packageName])) ∧
      ∀ roots, configurationRoots disk d = .ok roots → ∀ root, root ∈ roots ↔
        ∃ name bytes, disk.Holds d.physical [name, Configuration.packageName] (.file bytes) ∧
          root = d.physical.below [name] := by
  -- The package file is looked for one directory down, and its directory is what is kept.
  obtain ⟨completes, exact⟩ := Scan.findFiles_named_complete wellNamed unlinked {}
    (by decide : Scan.namePattern? ("*/" ++ Configuration.packageName) = none)
    (by decide : Glob.parts ("*/" ++ Configuration.packageName) =
      .ok [.matching "*", .named Configuration.packageName]) (by decide)
  have parent : ∀ name, (d.physical.below [name, Configuration.packageName]).parent =
      d.physical.below [name] := by
    intro name
    simp [Location.parent, Location.below, List.dropLast_append_of_ne_nil]
  simp only [configurationRoots, exceptBind_ok_iff, Pure.pure, Except.pure, Except.ok.injEq]
  constructor
  · rw [← completes]
    constructor
    · rintro ⟨_, found, searched, _⟩
      exact ⟨found, searched⟩
    · rintro ⟨found, searched⟩
      exact ⟨_, found, searched, rfl⟩
  · rintro roots ⟨found, searched, rfl⟩ root
    rw [List.mem_map]
    constructor
    · rintro ⟨file, among, rfl⟩
      obtain ⟨name, bytes, holds, rfl⟩ := (exact found searched file).mp among
      exact ⟨name, bytes, holds, parent name⟩
    · rintro ⟨name, bytes, holds, rfl⟩
      exact ⟨_, (exact found searched _).mpr ⟨name, bytes, holds, rfl⟩, parent name⟩

/-- The searches beside a descriptor come to an answer exactly if no location that they ask for is
too long. -/
theorem searches_complete_iff :
    ((∃ roots, configurationRoots disk d = .ok roots) ∧
      ∃ files, Scan.findFiles disk {} d.root "*.set" = .ok files) ↔
    ∀ l, LooksFor disk d l → ¬ disk.Exceeds l := by
  -- Both searches complete where no asked place is too long, and there are four kinds of such
  -- places.
  rw [(configurationRoots_complete wellNamed unlinked).1,
    Scan.findFiles_matching_completes_iff wellNamed unlinked {}
      (by decide : Scan.namePattern? "*.set" = none)
      (by decide : Glob.parts "*.set" = .ok [.matching "*.set"])]
  constructor
  · rintro ⟨⟨physical, packages⟩, root, settings⟩ l asked
    cases asked with
    | physical => exact physical
    | package holds => exact packages _ _ holds
    | root => exact root
    | settings holds fitting => exact settings _ _ holds fitting
  · intro within
    exact ⟨⟨within _ .physical, fun name inner holds => within _ (.package holds)⟩,
      within _ .root, fun name node holds fitting => within _ (.settings holds fitting)⟩

/-- The configurations that load from directories in their order are those that are found and
described. -/
theorem mem_configurations_iff {configurations : List Configuration}
    (listed : configurationRoots disk d = .ok roots)
    (same : configurations = (inOrder (declaredNames listing) roots).filterMap fun root =>
      (Configuration.load disk root d.root (listing.bind (·.description? root.name))).found?) :
    c ∈ configurations ↔ IsFound disk d c ∧ IsDescribed (declarations listing) c := by
  -- The declared order changes only the order, so members are those of the roots found.
  have ordered : (inOrder (declaredNames listing) roots).Perm roots :=
    inOrder_perm (declaredNames_nodup listing) (configurationRoots_distinct wellNamed listed)
  have members := (configurationRoots_complete wellNamed unlinked).2 roots listed
  simp only [same, List.mem_filterMap, ordered.mem_iff, members, Logged.found?_eq_some_iff,
    configuration_some_iff, isDescribed_iff]
  -- A root found by its package file is loaded as a configuration of its name, and the other way
  -- round.
  constructor
  · rintro ⟨root, ⟨name, bytes, holds, rfl⟩, package, cpu, packaged, controlled, rfl⟩
    rw [Location.name_below_single]
    exact ⟨⟨⟨bytes, holds⟩, rfl, packaged, controlled⟩, rfl⟩
  · rintro ⟨⟨⟨bytes, holds⟩, placed, packaged, controlled⟩, described⟩
    refine ⟨c.root, ⟨c.name, bytes, holds, placed⟩, c.package, c.cpu, packaged, controlled, ?_⟩
    have called : c.root.name = c.name := by rw [placed, Location.name_below_single]
    rw [called, ← described]

/-- Loading a project whose descriptor can be read comes to a project exactly if no location that is
asked for beside the descriptor is too long, and fails only at such a location. The configurations
of the project are those that are found in directories with a package of their own, whatever the list
of configurations says or whether it can be read; they have names of their own, and the list decides
on their order and their descriptions. -/
theorem load_listsConfigurations {file : Location} (style : file.style = .posix)
    (described : (disk.load "project" file Descriptor.read).result = .ok (some d)) :
    ((∃ p, (load disk file).result = .ok (some p)) ↔
      ∀ l, LooksFor disk d l → ¬ disk.Exceeds l) ∧
    FailsOnly SearchFault.IsTooLong (load disk file).result ∧
    ∃ listing, (disk.load Role.physical.kind (d.physical / physicalPackageName)
        PhysicalPackage.read).result = .ok listing ∧
      ∀ p, (load disk file).result = .ok (some p) → p.descriptor = d ∧
        (∀ c, c ∈ p.configurations ↔ IsFound disk d c ∧ IsDescribed (declarations listing) c) ∧
        (p.configurations.map (·.name)).Nodup ∧
        p.configurations.Pairwise fun c e =>
          Precedes ((declarations listing).map (·.name)) c.name e.name := by
  have lacks : file.LacksNul := Disk.load_completes_iff.mp ⟨_, described⟩
  have rooted := descriptor_style described style
  have outer : d.root.LacksNul := descriptor_root described ▸ lacks.parent
  obtain ⟨listing, loaded⟩ := physical_completes rooted outer
  refine ⟨?_, load_failsOnly wellNamed style lacks, listing, loaded, ?_⟩
  · rw [← searches_complete_iff wellNamed unlinked]
    constructor
    · rintro ⟨p, ran⟩
      exact (load_completes_iff wellNamed style lacks).mp ⟨_, ran⟩ d described
    · intro searched
      obtain ⟨answer, ran⟩ := (load_completes_iff wellNamed style lacks).mpr fun e again => by
        rw [described] at again
        cases again
        exact searched
      cases answer with
      | some p => exact ⟨p, ran⟩
      | none =>
        -- Nothing comes only from a file that describes no project.
        rw [load_none_iff, described] at ran
        cases ran
  · intro p ran
    obtain ⟨read, configured, _⟩ := load_some_iff.mp ran
    rw [described] at read
    cases read
    obtain ⟨again, roots, reloaded, listed, _, same⟩ := loadConfigurations_ok_iff.mp configured
    rw [loaded] at reloaded
    cases reloaded
    refine ⟨rfl, fun c => mem_configurations_iff wellNamed unlinked listed same,
      configuration_names_nodup wellNamed ran, ?_⟩
    rw [same]
    exact loaded_pairwise _ (inOrder_pairwise listing (configurationRoots_distinct wellNamed listed))

end

/-- Beside the descriptor of the inner project nothing has too long a path, and exactly two
configurations are found there. The one that is declared comes first, though not by its name. -/
theorem load_listsConfigurations_hallDisk :
    (load hallDisk lineProject.descriptor.file).result = .ok (some lineProject) ∧
      (∀ l, LooksFor hallDisk lineProject.descriptor l → ¬ hallDisk.Exceeds l) ∧
      (∀ c, IsFound hallDisk lineProject.descriptor c ∧ IsDescribed lineListing.objects c ↔
        c = lineConfiguration "Run" (CpuPackage.writtenSettings lineSection lineBuild)
          (some "Main line") ∨ c = lineConfiguration "Lab" {} none) ∧
      Precedes ["Run"] "Run" "Lab" ∧ "Lab" < "Run" := by
  -- The line declares one of its two configurations, so that one comes first.
  obtain ⟨completes, -, listing, listed, lists⟩ := load_listsConfigurations
    (by decide : hallDisk.isWellNamed = true) (Node.lacksLinks_of_targets rfl) rfl
    (load_some_iff.mp lineProject_loads).1
  cases lineList_loads.symm.trans listed
  obtain ⟨-, members, -, ordered⟩ := lists lineProject lineProject_loads
  refine ⟨lineProject_loads, completes.mp ⟨_, lineProject_loads⟩, fun c => ?_, ?_, by decide⟩
  · rw [← List.mem_pair]
    exact (members c).symm
  · exact List.rel_of_pairwise_cons ordered List.mem_cons_self

end Project

end AutomationIndex
