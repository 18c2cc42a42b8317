import AutomationIndex.Proofs.Location.Enclosure
import AutomationIndex.Proofs.Project.Configurations

/-! Where the configurations of a project lie, and which one answers for a location. -/

namespace AutomationIndex.Project

/-- Whether the configurations of a project lie in directories of their own, side by side. -/
structure IsLaidOut (p : Project) : Prop where
  root_plain : p.root.IsPosix
  roots_eq : ∀ c ∈ p.configurations, c.root = p.root.below ["Physical", c.name]
  names_ok : ∀ c ∈ p.configurations, isSegment c.name = true
  names_distinct : (p.configurations.map (·.name)).Nodup

/-- Each configuration of a project that loads comes from an entry of the directory for
configurations, and takes its name. -/
theorem configuration_origin {disk : Disk} (wellNamed : disk.isWellNamed = true) {file : Location}
    (style : file.parent.style = .posix) {p : Project}
    (loaded : (load disk file).result = .ok (some p)) :
    ∀ c ∈ p.configurations, c.root = p.root.below ["Physical", c.name] ∧
      isEntryName c.name = true := by
  -- The root's name and place decide everything: configurations lie two names below it.
  rw [← load_root loaded] at style
  have physical : p.descriptor.physical = p.root.below ["Physical"] :=
    Location.join_segment style (by decide)
  obtain ⟨_, configured, _⟩ := load_some_iff.mp loaded
  obtain ⟨listing, roots, _, listed, _, same⟩ := loadConfigurations_ok_iff.mp configured
  obtain ⟨names, listedNames, proper⟩ := configurationRoots_names listed
  intro c member
  rw [same] at member
  obtain ⟨directory, among, found⟩ := List.mem_filterMap.mp member
  obtain ⟨placed, called⟩ := configuration_root (Logged.found?_eq_some_iff.mp found)
  obtain ⟨name, known, rfl⟩ := List.mem_map.mp (listedNames.subset (inOrder_subset among))
  rw [Location.name_below_single] at called
  rw [called, placed, physical]
  exact ⟨by simp [Location.below], (proper wellNamed).2 name known⟩

/-- The configurations of a project that loads from a well-named disk have names of their own. -/
theorem configuration_names_nodup {disk : Disk} (wellNamed : disk.isWellNamed = true)
    {file : Location} {p : Project} (loaded : (load disk file).result = .ok (some p)) :
    (p.configurations.map (·.name)).Nodup := by
  obtain ⟨_, configured, _⟩ := load_some_iff.mp loaded
  obtain ⟨listing, roots, _, listed, _, same⟩ := loadConfigurations_ok_iff.mp configured
  have distinct := configurationRoots_distinct wellNamed listed
  -- Ordering the directories by the list of configurations loses none and repeats none.
  have ordered : (inOrder (declaredNames listing) roots).Perm roots :=
    inOrder_perm (declaredNames_nodup listing) distinct
  have once := (ordered.map (·.name)).nodup_iff.mpr distinct
  rw [same]
  rw [List.Nodup, List.pairwise_map] at once ⊢
  exact loaded_pairwise _ once

/-- A project that loads from a well-named disk is laid out. -/
theorem isLaidOut_of_load {disk : Disk} (wellNamed : disk.isWellNamed = true) {file : Location}
    (plain : file.parent.IsPosix) {p : Project}
    (loaded : (load disk file).result = .ok (some p)) : p.IsLaidOut := by
  have origin := configuration_origin wellNamed plain.style_eq loaded
  refine ⟨load_root loaded ▸ plain, fun c member => (origin c member).1, ?_,
    configuration_names_nodup wellNamed loaded⟩
  exact fun c member => isSegment_of_isEntryName (origin c member).2

/-- Where no two configurations share a name, the active one is that which the active name names. -/
theorem active?_iff_of_distinct {p : Project} (distinct : (p.configurations.map (·.name)).Nodup)
    {c : Configuration} :
    p.active? = some c ↔ c ∈ p.configurations ∧ p.activeName = some c.name := by
  -- With distinct names the first configuration of the active name is the only one.
  unfold active?
  rw [Option.bind_eq_some_iff]
  constructor
  · rintro ⟨name, active, found⟩
    have named : c.name = name := by simpa using List.find?_some found
    exact ⟨List.mem_of_find?_eq_some found, named ▸ active⟩
  · rintro ⟨member, active⟩
    refine ⟨c.name, active, ?_⟩
    cases found : p.configuration? c.name with
    | none => simpa using List.find?_eq_none.mp found c member
    | some e =>
      have named : e.name = c.name := by simpa using List.find?_some found
      rw [List.inj_on_of_nodup_map distinct (List.mem_of_find?_eq_some found) member
        named]

namespace IsLaidOut

variable {p : Project} {l : Location}

/-- The directories of configurations are posix locations. -/
theorem roots_plain (laidOut : p.IsLaidOut) : ∀ c ∈ p.configurations, c.root.IsPosix := by
  -- The two names below the root are the fixed one and an entry's.
  intro c member
  rw [laidOut.roots_eq c member]
  apply laidOut.root_plain.below
  intro name among
  rcases List.mem_cons.mp among with rfl | among
  · decide
  · rw [List.mem_singleton.mp among]
    exact laidOut.names_ok c member

/-- Configurations have different directories. -/
theorem roots_distinct (laidOut : p.IsLaidOut) : (p.configurations.map (·.root)).Nodup := by
  -- Directories of different names are different.
  have names := laidOut.names_distinct
  rw [List.Nodup, List.pairwise_map] at names ⊢
  apply names.imp_of_mem
  intro c e first second apart same
  rw [laidOut.roots_eq c first, laidOut.roots_eq e second] at same
  exact apart (by simpa [Location.below] using same)

/-- The directory of a configuration lies below the root of its project. -/
theorem root_encloses (laidOut : p.IsLaidOut) {c : Configuration} (member : c ∈ p.configurations) :
    p.root.Encloses c.root := by
  rw [laidOut.roots_eq c member]
  exact Location.encloses_below _ _

/-- At most one configuration has a directory that encloses a location. -/
theorem root_unique (laidOut : p.IsLaidOut) {c e : Configuration} (first : c ∈ p.configurations)
    (second : e ∈ p.configurations) (encloses : c.root.Encloses l) (enclosing : e.root.Encloses l) :
    c = e := by
  -- Both directories lie equally deep, so they are one.
  have depth : c.root.segments.length = e.root.segments.length := by
    rw [laidOut.roots_eq c first, laidOut.roots_eq e second]
    simp [Location.below]
  have same := (encloses.of_length_le enclosing (Nat.le_of_eq depth)).antisymm
    (enclosing.of_length_le encloses (Nat.le_of_eq depth.symm))
  exact List.inj_on_of_nodup_map laidOut.roots_distinct first second same

/-- A configuration owns a location exactly if its directory encloses it. -/
theorem owner?_eq_some_iff (laidOut : p.IsLaidOut) (plain : l.IsPosix) {c : Configuration} :
    p.owner? l = some c ↔ c ∈ p.configurations ∧ c.root.Encloses l := by
  unfold owner?
  rw [Location.find?_deepest_eq_some_iff laidOut.roots_plain laidOut.roots_distinct plain]
  constructor
  · rintro ⟨member, encloses, _⟩
    exact ⟨member, encloses⟩
  · rintro ⟨member, encloses⟩
    -- No other directory encloses the location, so none is deeper.
    refine ⟨member, encloses, ?_⟩
    intro e other enclosing
    rw [laidOut.root_unique member other encloses enclosing]
    exact Location.Encloses.refl _

/-- A location has no owner exactly if no directory of a configuration encloses it. -/
theorem owner?_eq_none_iff (laidOut : p.IsLaidOut) (plain : l.IsPosix) :
    p.owner? l = none ↔ ∀ c ∈ p.configurations, ¬ c.root.Encloses l :=
  Location.find?_deepest_eq_none_iff laidOut.roots_plain laidOut.roots_distinct plain

/-- The active configuration is the one that the active name names. -/
theorem active?_eq_some_iff (laidOut : p.IsLaidOut) {c : Configuration} :
    p.active? = some c ↔ c ∈ p.configurations ∧ p.activeName = some c.name :=
  active?_iff_of_distinct laidOut.names_distinct

/-- The configuration that encloses a location answers for it. -/
theorem configurationFor?_of_encloses (laidOut : p.IsLaidOut) (plain : l.IsPosix)
    {c : Configuration} (member : c ∈ p.configurations) (encloses : c.root.Encloses l) :
    p.configurationFor? l = some c := by
  simp [configurationFor?, (laidOut.owner?_eq_some_iff plain).mpr ⟨member, encloses⟩]

/-- Where no configuration encloses a location, the active one answers for it. -/
theorem configurationFor?_of_active (laidOut : p.IsLaidOut) (plain : l.IsPosix)
    (outside : ∀ c ∈ p.configurations, ¬ c.root.Encloses l) {c : Configuration}
    (member : c ∈ p.configurations) (active : p.activeName = some c.name) :
    p.configurationFor? l = some c := by
  simp [configurationFor?, (laidOut.owner?_eq_none_iff plain).mpr outside,
    laidOut.active?_eq_some_iff.mpr ⟨member, active⟩]

/-- No configuration answers for a location exactly if none encloses it and none is active. -/
theorem configurationFor?_eq_none_iff (laidOut : p.IsLaidOut) (plain : l.IsPosix) :
    p.configurationFor? l = none ↔
      ∀ c ∈ p.configurations, ¬ c.root.Encloses l ∧ p.activeName ≠ some c.name := by
  -- The owner is asked first, and then the active configuration.
  rw [configurationFor?, Option.or_eq_none_iff, laidOut.owner?_eq_none_iff plain]
  constructor
  · rintro ⟨outside, inactive⟩ c member
    refine ⟨outside c member, ?_⟩
    intro active
    simp [laidOut.active?_eq_some_iff.mpr ⟨member, active⟩] at inactive
  · intro none
    refine ⟨fun c member => (none c member).1, ?_⟩
    cases active : p.active? with
    | none => rfl
    | some c =>
      obtain ⟨member, named⟩ := laidOut.active?_eq_some_iff.mp active
      exact absurd named (none c member).2

end IsLaidOut

end AutomationIndex.Project
