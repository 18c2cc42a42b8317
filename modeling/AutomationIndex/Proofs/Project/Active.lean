import AutomationIndex.Proofs.Disk.Outside
import AutomationIndex.Proofs.Location.Fragment
import AutomationIndex.Proofs.Package.Written
import AutomationIndex.Proofs.Project.Kinds
import AutomationIndex.Proofs.Project.Listing
import AutomationIndex.Proofs.Project.Written
import AutomationIndex.Proofs.Scan.Direct
import AutomationIndex.Proofs.Scan.Exact
import AutomationIndex.Proofs.Text.Encoding
import AutomationIndex.Proofs.Text.LineEnds

/-! The configuration that a user works with: the first settings beside a project that name one decide,
and no other settings do. -/

namespace AutomationIndex

open Xml

/-- The first element of an ordered list that has something decides what the list comes to. -/
theorem findSome?_ordered_iff {α β : Type} {R : α → α → Prop} {f : α → Option β} {elements : List α}
    (ordered : elements.Pairwise R) (asymm : ∀ a b, R a b → ¬ R b a) {b : β} :
    elements.findSome? f = some b ↔
      ∃ a ∈ elements, f a = some b ∧ ∀ c ∈ elements, R c a → f c = none := by
  rw [List.findSome?_eq_some_iff]
  constructor
  · rintro ⟨before, a, after, rfl, found, none⟩
    refine ⟨a, by simp, found, fun c among earlier => ?_⟩
    obtain ⟨-, later, -⟩ := List.pairwise_append.mp ordered
    rcases List.mem_append.mp among with early | late
    · exact none c early
    -- Neither the element itself nor one after it comes before it.
    rcases List.mem_cons.mp late with rfl | late
    · exact absurd earlier (asymm _ _ earlier)
    · exact absurd earlier (asymm _ _ (List.rel_of_pairwise_cons later late))
  · rintro ⟨a, among, found, none⟩
    obtain ⟨before, after, rfl⟩ := List.append_of_mem among
    obtain ⟨-, -, across⟩ := List.pairwise_append.mp ordered
    exact ⟨before, a, after, rfl, found, fun c early =>
      none c (List.mem_append_left _ early) (across c early a List.mem_cons_self)⟩

/-- Whether a text is a document of project settings whose first section of a manager names a
configuration. -/
def TellsActive (content active : String) : Prop :=
  ∃ marked manager others, MarkedUp.read (Xml.Source.ofText content) = .ok marked ∧
    marked.root.name = "ProjectSettings" ∧
    marked.root.childrenNamed "ConfigurationManager" = manager :: others ∧
    manager.attribute? "ActiveConfigurationName" = some active ∧ active ≠ ""

/-- Settings are read from exactly the documents that are project settings. -/
theorem UserSettings.read_active_iff {file : Location} {content active : String} :
    (∃ settings, UserSettings.read file (Xml.Source.ofText content) = .ok settings ∧
      settings.active = some active) ↔ TellsActive content active := by
  -- The first manager decides alone: a later one is not asked when it names nothing.
  have told (root : Xml.Element) : active? root = some active ↔ ∃ manager others,
      root.childrenNamed "ConfigurationManager" = manager :: others ∧
        manager.attribute? "ActiveConfigurationName" = some active ∧ active ≠ "" := by
    unfold active?
    cases root.childrenNamed "ConfigurationManager" with
    | nil => simp
    | cons manager others => simp [Attribute.nonempty, Option.filter_eq_some_iff]
  simp only [UserSettings.read, exceptBind_ok_iff, TellsActive]
  -- Reading and telling differ in the root's name only, which is checked in between.
  constructor
  · rintro ⟨settings, ⟨marked, read, checked⟩, named⟩
    split at checked
    · cases checked
    · rename_i root
      cases checked
      obtain ⟨manager, others, sections⟩ := (told marked.root).mp named
      exact ⟨marked, manager, others, read, by simpa using root, sections⟩
  · rintro ⟨marked, manager, others, read, root, sections⟩
    exact ⟨⟨file, marked.header, active? marked.root⟩, ⟨marked, read, by simp [root]⟩,
      (told marked.root).mpr ⟨manager, others, sections⟩⟩

/-- The location of an entry has the name of the entry. -/
theorem Location.child_name (l : Location) (name : String) : (l.child name).name = name :=
  name_below_single l name

namespace Project

/-- Whether a directory holds, under a name of settings, a file that names a configuration. -/
def NamesActive (disk : Disk) (root : Location) (name active : String) : Prop :=
  ".set".toList <:+ name.toList ∧ ∃ bytes content, disk.Holds root [name] (.file bytes) ∧
    Disk.markedText bytes = .ok content ∧ TellsActive content active

/-- Whether settings of a name count before those of another one: those of the last user first, and
the others in the order of their names. -/
def CountsBefore (a b : String) : Prop :=
  b ≠ lastUserName ∧ (a = lastUserName ∨ a < b)

/-- Of two names of settings, only one counts before the other. -/
theorem CountsBefore.asymm {a b : String} (before : CountsBefore a b) : ¬ CountsBefore b a := by
  rintro ⟨notLast, rfl | less⟩
  · exact before.1 rfl
  · rcases before.2 with rfl | greater
    · exact notLast rfl
    · exact String.lt_asymm less greater

/-- The configuration that the file at a location names, if it is a settings file that does. -/
def activeIn? (disk : Disk) (file : Location) : Option String :=
  (disk.load "user settings" file UserSettings.read).found?.bind (·.active)

variable {disk other : Disk} {root : Location} {files : List Location} {file : Location}

/-- The search through settings files ends at the first one that names a configuration. -/
theorem loadActiveName_result (each : ∀ l ∈ files, l.LacksNul) :
    (loadActiveName disk files).result = .ok (files.findSome? (activeIn? disk)) := by
  induction files with
  | nil => rfl
  | cons first rest ih =>
    obtain ⟨here, later⟩ := List.forall_mem_cons.mp each
    obtain ⟨settings, loaded⟩ : ∃ settings, (disk.load "user settings" first
        UserSettings.read).result = .ok settings := Disk.load_completes_iff.mpr here
    have told : activeIn? disk first = settings.bind (·.active) := by
      rw [activeIn?, Logged.found?_of_ok loaded]
    rw [List.findSome?_cons, told]
    unfold loadActiveName
    rw [Logged.bind_ok_iff]
    refine ⟨settings, loaded, ?_⟩
    -- The first settings that name a configuration end the search.
    cases settings.bind (·.active) with
    | some name => rfl
    | none => exact ih later

/-- A file that is found names what its text tells. -/
theorem activeIn?_eq_some_iff {place : Place} {bytes : List UInt8} {active : String}
    (located : disk.find file = .ok ⟨place, .file bytes⟩) : activeIn? disk file = some active ↔
      ∃ content, Disk.markedText bytes = .ok content ∧ TellsActive content active := by
  simp only [activeIn?, Option.bind_eq_some_iff, Logged.found?_eq_some_iff, Disk.load_some_iff,
    Disk.readText_ok_iff]
  -- The file is found once, so the bytes read are the bytes given.
  constructor
  · rintro ⟨settings, ⟨content, ⟨_, _, again, told⟩, reading⟩, named⟩
    rw [located] at again
    cases again
    exact ⟨content, told, UserSettings.read_active_iff.mp ⟨settings, reading, named⟩⟩
  · rintro ⟨content, told, tells⟩
    obtain ⟨settings, reading, named⟩ := UserSettings.read_active_iff.mpr tells
    exact ⟨settings, ⟨content, ⟨place, bytes, located, told⟩, reading⟩, named⟩

section

variable (wellNamed : disk.isWellNamed = true) (unlinked : disk.root.LacksLinks)

include wellNamed unlinked

/-- The search for settings files lists those that are directly in the directory. -/
theorem settings_listed (searched : Scan.findFiles disk {} root "*.set" = .ok files) :
    Scan.ListsFitting disk root "*.set" files := by
  have byPath : Scan.namePattern? "*.set" = none := by decide
  have read : Glob.parts "*.set" = .ok [.matching "*.set"] := by decide
  -- The search either finds no directory and lists nothing, or lists what the directory holds.
  rcases (Scan.findFiles_ok_iff byPath read).mp searched with ⟨asked, rfl⟩ | ⟨asked, -⟩
  · refine ⟨List.nodup_nil, List.Pairwise.nil, fun l => iff_of_false List.not_mem_nil ?_⟩
    -- What is no directory holds no file.
    rintro ⟨name, ⟨⟨bytes, holds⟩, -⟩, -⟩
    rw [holds.isDirectory] at asked
    cases asked
  · exact (Scan.findFiles_wildcard wellNamed asked (fun _ _ => Disk.Holds.not_link unlinked)
      (by decide) {} (by decide) (by decide)).2 files searched

end

/-- Settings files that are listed come in the order of their names. -/
theorem settings_ordered (style : root.style = .posix)
    (lists : Scan.ListsFitting disk root "*.set" files) :
    files.Pairwise fun a b => a.name < b.name := by
  apply (lists.inOrder.and lists.nodup).imp_of_mem
  rintro a b first second ⟨order, other⟩
  obtain ⟨name, -, rfl⟩ := (lists.members a).mp first
  obtain ⟨later, -, rfl⟩ := (lists.members b).mp second
  have folded (name : String) : (root.child name).foldedParts = root.parts ++ [name] := by
    rw [Location.child_eq_below, Location.foldedParts, Location.parts_below]
    change (root.parts ++ [name]).map root.style.folded = _
    rw [style]
    exact List.map_id _
  rw [Location.child_name, Location.child_name]
  simp only [Location.notAfter, folded, Bool.not_eq_true', decide_eq_false_iff_not] at order
  -- The parts differ in the names only, so the order of the locations is that of the names.
  refine Std.lt_of_le_of_ne (String.not_lt.mp fun less => order ?_) ?_
  · exact List.append_left_lt (List.cons_lt_cons_iff.mpr (.inl less))
  · rintro rfl
    exact other rfl

/-- Settings files in the order of their names are put in the order in which they count. -/
theorem settingsOrder_pairwise (ordered : files.Pairwise fun a b => a.name < b.name) :
    (settingsOrder files).Pairwise fun a b => CountsBefore a.name b.name := by
  refine List.pairwise_append.mpr ⟨?_, ?_, ?_⟩
  · -- There is at most one file of the last user.
    apply (ordered.filter _).imp_of_mem
    intro a b first second less
    have last : a.name = lastUserName := by simpa using (List.mem_filter.mp first).2
    have again : b.name = lastUserName := by simpa using (List.mem_filter.mp second).2
    rw [last, again] at less
    exact absurd less (String.lt_irrefl _)
  · apply (ordered.filter _).imp_of_mem
    intro a b _ second less
    exact ⟨by simpa using (List.mem_filter.mp second).2, .inr less⟩
  · intro a first b second
    exact ⟨by simpa using (List.mem_filter.mp second).2,
      .inl (by simpa using (List.mem_filter.mp first).2)⟩

/-- Ordering settings files drops none and brings in no other. -/
theorem mem_settingsOrder {l : Location} : l ∈ settingsOrder files ↔ l ∈ files := by
  by_cases last : l.name = lastUserName <;> simp [settingsOrder, List.mem_filter, last]

section

variable (wellNamed : disk.isWellNamed = true) (unlinked : disk.root.LacksLinks)

include wellNamed unlinked

/-- A directory has settings that name a configuration exactly if they are listed and do so. -/
theorem namesActive_iff (searched : Scan.findFiles disk {} root "*.set" = .ok files)
    {name active : String} : NamesActive disk root name active ↔
      root.child name ∈ files ∧ activeIn? disk (root.child name) = some active := by
  have lists := settings_listed wellNamed unlinked searched
  have fitting : Wildcard.fits name "*.set" = true ↔ ".set".toList <:+ name.toList :=
    Wildcard.fits_ending_iff (by decide +kernel)
  have listed : root.child name ∈ files ↔ Scan.HoldsFitting disk root "*.set" name := by
    rw [lists.members]
    constructor
    · rintro ⟨again, holds, same⟩
      exact Location.child_injective root same ▸ holds
    · exact fun holds => ⟨name, holds, rfl⟩
  -- A listed file is found where the directory holds it.
  have told {bytes : List UInt8} (holds : disk.Holds root [name] (.file bytes))
      (among : root.child name ∈ files) : activeIn? disk (root.child name) = some active ↔
        ∃ content, Disk.markedText bytes = .ok content ∧ TellsActive content active := by
    have read : Glob.parts "*.set" = .ok [.matching "*.set"] := by decide
    have stands : disk.isFile (root.child name) = .ok true :=
      (Scan.findFiles_matching (by decide) read searched _ among).1
    obtain ⟨place, held, located⟩ := Disk.isFile_true_iff.mp stands
    have proper := holds.isEntryName wellNamed
    obtain ⟨found, above, entry⟩ := holds
    rw [Disk.at_of_find_below unlinked above proper located] at entry
    cases entry
    exact activeIn?_eq_some_iff located
  constructor
  · rintro ⟨ending, bytes, content, holds, decoded, tells⟩
    have among := listed.mpr ⟨⟨bytes, holds⟩, fitting.mpr ending⟩
    exact ⟨among, (told holds among).mpr ⟨content, decoded, tells⟩⟩
  · rintro ⟨among, named⟩
    obtain ⟨⟨bytes, holds⟩, fits⟩ := listed.mp among
    obtain ⟨content, decoded, tells⟩ := (told holds among).mp named
    exact ⟨fitting.mp fits, bytes, content, holds, decoded, tells⟩

variable {p : Project} (loaded : (load disk file).result = .ok (some p))

include loaded

/-- The name of the active configuration is the one that the first settings tell which name any. -/
theorem activeName_eq_some_iff (style : file.style = .posix) {active : String} :
    p.activeName = some active ↔ ∃ name, NamesActive disk p.root name active ∧
      ∀ earlier another, CountsBefore earlier name → ¬ NamesActive disk p.root earlier another := by
  obtain ⟨read, -, files, searched, named⟩ := load_some_iff.mp loaded
  have searched : Scan.findFiles disk {} p.root "*.set" = .ok files := searched
  -- The listing has an order in which the files are asked, and the first that tells decides.
  have lists := settings_listed wellNamed unlinked searched
  have ordered := settingsOrder_pairwise (settings_ordered (descriptor_style read style) lists)
  rw [loadActiveName_result (settingsFiles_lacksNul searched), Except.ok.injEq] at named
  rw [← named, findSome?_ordered_iff ordered fun _ _ => CountsBefore.asymm]
  -- The files asked are the files listed, by their names.
  simp only [mem_settingsOrder]
  constructor
  · rintro ⟨l, among, tells, first⟩
    obtain ⟨name, -, rfl⟩ := (lists.members l).mp among
    refine ⟨name, (namesActive_iff wellNamed unlinked searched).mpr ⟨among, tells⟩, ?_⟩
    intro earlier another before names
    obtain ⟨listed, told⟩ := (namesActive_iff wellNamed unlinked searched).mp names
    have silent := first _ listed (by rwa [Location.child_name, Location.child_name])
    rw [silent] at told
    cases told
  · rintro ⟨name, names, first⟩
    obtain ⟨among, tells⟩ := (namesActive_iff wellNamed unlinked searched).mp names
    refine ⟨_, among, tells, fun l listed before => ?_⟩
    obtain ⟨earlier, -, rfl⟩ := (lists.members l).mp listed
    rw [Location.child_name, Location.child_name] at before
    rw [Option.eq_none_iff_forall_not_mem]
    exact fun another told => first earlier another before
      ((namesActive_iff wellNamed unlinked searched).mpr ⟨listed, told⟩)

/-- There is no active configuration exactly if no settings name one. -/
theorem activeName_eq_none_iff : p.activeName = none ↔
    ∀ name active, ¬ NamesActive disk p.root name active := by
  -- Without an order to respect it is enough that no listed file tells.
  obtain ⟨-, -, files, searched, named⟩ := load_some_iff.mp loaded
  have searched : Scan.findFiles disk {} p.root "*.set" = .ok files := searched
  rw [loadActiveName_result (settingsFiles_lacksNul searched), Except.ok.injEq] at named
  rw [← named, List.findSome?_eq_none_iff]
  simp only [mem_settingsOrder]
  constructor
  · intro silent name active names
    obtain ⟨listed, told⟩ := (namesActive_iff wellNamed unlinked searched).mp names
    rw [silent _ listed] at told
    cases told
  · intro none l listed
    obtain ⟨name, -, rfl⟩ := ((settings_listed wellNamed unlinked searched).members l).mp listed
    rw [Option.eq_none_iff_forall_not_mem]
    exact fun active told => none name active
      ((namesActive_iff wellNamed unlinked searched).mpr ⟨listed, told⟩)

end

/-- Whether a place is one for settings which are neither those of the last user beside the file of a
project nor that file itself. -/
structure IsOtherSettings (disk : Disk) (file : Location) (place : Place) : Prop where
  named : FileKind.settings.isAt place = true
  notLastUser : disk.reaches place (file.parent.below [lastUserName]) = false
  notProject : disk.reaches place file = false

/-- A descriptor that can be read makes a project exactly if no location that is asked for beside it
is too long. -/
theorem load_project_iff (wellNamed : disk.isWellNamed = true) (unlinked : disk.root.LacksLinks)
    (style : file.style = .posix) {d : Descriptor}
    (described : (disk.load "project" file Descriptor.read).result = .ok (some d)) :
    (∃ p, (load disk file).result = .ok (some p)) ↔ ∀ l, LooksFor disk d l → ¬ disk.Exceeds l := by
  have lacks : file.LacksNul := Disk.load_completes_iff.mp ⟨_, described⟩
  -- Once the descriptor is read, loading fails only in the searches beside it.
  have completes := load_completes_iff wellNamed style lacks
  rw [← searches_complete_iff wellNamed unlinked]
  constructor
  · rintro ⟨p, ran⟩
    exact completes.mp ⟨_, ran⟩ d described
  · intro searched
    obtain ⟨answer, ran⟩ := completes.mpr fun e again => by
      rw [described] at again
      cases again
      exact searched
    cases answer with
    | some p => exact ⟨p, ran⟩
    | none =>
      rw [load_none_iff, described] at ran
      cases ran

section

variable (same : Disk.SameOutside (IsOtherSettings disk file) disk other) {p : Project}
  (loaded : (load disk file).result = .ok (some p)) (style : file.style = .posix)

include same loaded style

/-- The settings of the last user are found with other settings as without. -/
theorem lastUser_outside {active : String} (names : NamesActive disk p.root lastUserName active) :
    NamesActive other p.root lastUserName active := by
  obtain ⟨ending, bytes, content, holds, told⟩ := names
  have fitting : Wildcard.fits lastUserName "*.set" = true := by decide +kernel
  obtain ⟨described, -⟩ := load_some_iff.mp loaded
  have short : ¬ disk.Exceeds (p.root.below [lastUserName]) :=
    (load_project_iff same.wellNamed same.unlinked style described).mp ⟨p, loaded⟩ _
      (.settings holds fitting)
  have proper := holds.isEntryName same.wellNamed
  obtain ⟨again, reholds, agrees⟩ := same.holds_agrees holds fun found located spot => by
    -- The settings of the last user stand at no place of other settings.
    obtain ⟨above, there, stands⟩ := holds
    rw [located] at there
    cases there
    rcases Disk.find_below_of_at same.unlinked located proper stands with reached | exceeds
    · have passed := spot.notLastUser
      rw [← load_root loaded, Disk.reaches, reached] at passed
      simp at passed
    · exact absurd exceeds short
  cases agrees
  exact ⟨ending, bytes, content, reholds, told⟩

/-- With other settings, a project still loads unless the location of settings is too long. -/
theorem load_outside : (∃ q, (load other file).result = .ok (some q)) ↔
    ∀ name node, other.Holds p.root [name] node → Wildcard.fits name "*.set" = true →
      ¬ other.Exceeds (p.root.below [name]) := by
  obtain ⟨described, -⟩ := load_some_iff.mp loaded
  have redescribed := same.load_some (fun _ spot => spot.notProject) described
  have within := (load_project_iff same.wellNamed same.unlinked style described).mp ⟨p, loaded⟩
  rw [load_project_iff same.other_wellNamed same.symm.unlinked style redescribed]
  constructor
  · exact fun short name node holds fitting => short _ (.settings holds fitting)
  · intro short l asked
    -- Only the settings that are asked for depend on the disk.
    cases asked with
    | physical => exact fun exceeds => within _ .physical (same.exceeds_iff.mp exceeds)
    | package holds =>
      obtain ⟨entries, held⟩ := same.symm.holds_directory holds
      exact fun exceeds => within _ (.package held) (same.exceeds_iff.mp exceeds)
    | root => exact fun exceeds => within _ .root (same.exceeds_iff.mp exceeds)
    | settings holds fitting => exact short _ _ holds fitting

end

/-- The active configuration of a project that loads is the one which the first settings name that
name any: those of the last user, and then the others in the order of their names. Where those of the
last user do, other settings may be added, taken away or written anew: the project still loads unless
the location of settings is too long, it fails only so, and its active configuration stays. -/
theorem load_activeName (wellNamed : disk.isWellNamed = true) (unlinked : disk.root.LacksLinks)
    (style : file.style = .posix) {p : Project} (loaded : (load disk file).result = .ok (some p)) :
    (∀ active, p.activeName = some active ↔ ∃ name, NamesActive disk p.root name active ∧
      ∀ earlier another, CountsBefore earlier name → ¬ NamesActive disk p.root earlier another) ∧
    (p.activeName = none ↔ ∀ name active, ¬ NamesActive disk p.root name active) ∧
    (∀ c, p.active? = some c ↔ c ∈ p.configurations ∧ p.activeName = some c.name) ∧
    (p.configurations.map (·.name)).Nodup ∧
    ∀ active, NamesActive disk p.root lastUserName active → p.activeName = some active ∧
      ∀ other, Disk.SameOutside (IsOtherSettings disk file) disk other →
        ((∃ q, (load other file).result = .ok (some q)) ↔
          ∀ name node, other.Holds p.root [name] node → Wildcard.fits name "*.set" = true →
            ¬ other.Exceeds (p.root.below [name])) ∧
        FailsOnly SearchFault.IsTooLong (load other file).result ∧
        ∀ q, (load other file).result = .ok (some q) → q.activeName = some active := by
  have first {disk : Disk} {root : Location} {active : String} (names : NamesActive disk root
      lastUserName active) : ∃ name, NamesActive disk root name active ∧
        ∀ earlier another, CountsBefore earlier name → ¬ NamesActive disk root earlier another :=
    ⟨lastUserName, names, fun _ _ before => absurd rfl before.1⟩
  have distinct := configuration_names_nodup wellNamed loaded
  refine ⟨fun _ => activeName_eq_some_iff wellNamed unlinked loaded style,
    activeName_eq_none_iff wellNamed unlinked loaded, fun _ => active?_iff_of_distinct distinct,
    distinct, fun active names => ⟨?_, fun other same => ⟨load_outside same loaded style, ?_, ?_⟩⟩⟩
  · exact (activeName_eq_some_iff wellNamed unlinked loaded style).mpr (first names)
  · have lacks : file.LacksNul :=
      Disk.load_completes_iff.mp ⟨_, (load_some_iff.mp loaded).1⟩
    exact load_failsOnly same.other_wellNamed style lacks
  · intro q reloaded
    -- The settings of the last user come first and are those they were.
    have root : q.root = p.root := (load_root reloaded).trans (load_root loaded).symm
    refine (activeName_eq_some_iff same.other_wellNamed same.symm.unlinked reloaded style).mpr ?_
    rw [root]
    exact first (lastUser_outside same loaded style names)

/-- Written settings name their configuration. -/
theorem settingsText_tellsActive {active : String} (some : active ≠ "")
    (readable : IsReadable active.toList) : TellsActive (settingsText active) active := by
  have unbound : ∀ text ∈ (none : Option (List Char)), IsNamespace text ∧ IsReadable text := by
    rintro _ ⟨⟩
  have read := settings_marked unbound readable String.toList_ofList
  exact ⟨_, _, [], read, settingsRoot_name _ _, settingsRoot_managers _ _, rfl, some⟩

/-- A file of written settings without carriage returns names their configuration. -/
theorem namesActive_written {name active : String} (ending : ".set".toList <:+ name.toList)
    (some : active ≠ "") (readable : IsReadable active.toList)
    (kept : '\r' ∉ (settingsText active).toList)
    (holds : disk.Holds root [name] (.file (settingsText active).toUTF8.toList)) :
    NamesActive disk root name active := by
  -- The text begins with markup, so no byte order mark is taken off.
  have begins : (settingsText active).toList.head? = .some '<' := by
    rw [settingsText, String.toList_ofList]
    rfl
  refine ⟨ending, _, _, holds, Disk.markedText_toUTF8 begins, ?_⟩
  rw [Text.unifyLineEnds_eq_self kept, String.ofList_toList]
  exact settingsText_tellsActive some readable

/-- The disk of the two projects, with settings of another user, which name another configuration. -/
def sharedDisk : Disk :=
  hallDisk.putAt ["ws", "Line", "Early.set"] (.file (settingsText "Lab").toUTF8.toList)

/-- The inner project has the configuration that the last user has chosen, and keeps it beside settings
of another user. -/
theorem load_activeName_sharedDisk :
    lineProject.active? = some (lineConfiguration "Run"
        (CpuPackage.writtenSettings lineSection lineBuild) (some "Main line")) ∧
      ∃ q, (load sharedDisk lineProject.descriptor.file).result = .ok (some q) ∧
        q.activeName = some "Run" := by
  have wellNamed : hallDisk.isWellNamed = true := by decide
  have unlinked : hallDisk.root.LacksLinks := Node.lacksLinks_of_targets rfl
  have kept : '\r' ∉ (settingsText "Run").toList := by
    rw [settingsText, String.toList_ofList]
    decide
  have names : NamesActive hallDisk lineProject.root lastUserName "Run" :=
    namesActive_written (by decide) (by decide) (by decide) kept ⟨_, rfl, rfl⟩
  obtain ⟨-, -, works, -, frame⟩ := load_activeName wellNamed unlinked rfl lineProject_loads
  obtain ⟨named, stays⟩ := frame "Run" names
  refine ⟨(works _).mpr ⟨List.mem_cons_self, named⟩, ?_⟩
  -- The other settings are new, and are not those of the last user.
  have fresh : Node.IsFlat (hallDisk.root.at? (["ws", "Line"] ++ ["Early.set"])) := by
    rintro node ⟨⟩
  have put : Disk.SameOutside (· = ["ws", "Line"] ++ ["Early.set"]) hallDisk sharedDisk :=
    Disk.putAt_sameOutside wellNamed unlinked (by decide) rfl fresh _
  have same : Disk.SameOutside (IsOtherSettings hallDisk lineProject.descriptor.file) hallDisk
      sharedDisk := by
    refine put.mono ?_
    rintro _ rfl
    exact ⟨by decide +kernel, rfl, rfl⟩
  obtain ⟨loads, -, keeps⟩ := stays _ same
  obtain ⟨q, reloaded⟩ := loads.mpr fun name node holds fitting exceeds => by
    have listed : sharedDisk.find lineProject.root = .ok ⟨["ws", "Line"], .directory
        (("Early.set", .file (settingsText "Lab").toUTF8.toList) :: lineEntries)⟩ := rfl
    have among := holds.name_mem listed
    simp only [lineEntries, List.map_cons, List.map_nil, List.mem_cons, List.not_mem_nil,
      or_false] at among
    rcases among with rfl | rfl | rfl | rfl <;> cases exceeds
  exact ⟨q, reloaded, keeps q reloaded⟩

end Project

end AutomationIndex
