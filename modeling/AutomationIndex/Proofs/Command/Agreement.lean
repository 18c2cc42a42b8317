import AutomationIndex.Command.Run
import AutomationIndex.Json.Reader
import AutomationIndex.Proofs.Command.Arguments
import AutomationIndex.Proofs.Command.Told
import AutomationIndex.Proofs.Location.Written
import AutomationIndex.Proofs.Workspace.Lookup

/-! The two commands of the program look at one snapshot of a workspace: what the one says about a
location is what the other lists. -/

namespace AutomationIndex.Command

variable {disk : Disk} {settings : Settings} {asJson : Bool} {roots : List String} {task : Task}

/-- The exit code of a run, which a fault ends as a failure. -/
def exitCode : Except RunFault Outcome → Nat
  | .ok outcome => outcome.exitCode
  | .error _ => 1

/-- The value that a run prints, if it prints one. -/
def printedValue? : Except RunFault Outcome → Option Json
  | .ok outcome => (Json.read outcome.output.toList).toOption
  | .error _ => none

/-- The items of a value, where it is a list. -/
def itemsOf : Option Json → List Json
  | some (.list items) => items
  | _ => []

/-- Whether a field of a value holds the text of a location that encloses another one. -/
def Surrounds (key : String) (value : Json) (l : Location) : Prop :=
  ∃ text, value.field? key = some (.text text) ∧ (Location.posix text).Encloses l

/-- Whether a field of a value and one of another value hold the same text. -/
def SameText (value : Json) (key : String) (other : Json) (otherKey : String) : Prop :=
  ∃ text, value.field? key = some (.text text) ∧ other.field? otherKey = some (.text text)

/-- The configurations of a listed project. -/
def configurationsOf (project : Json) : List Json :=
  itemsOf (project.field? "configurations")

/-- What a scanned workspace lists settings from: a text, or nothing. -/
def sourceOf (config : Option String) : Settings.Source :=
  (config.map Settings.Source.text).getD .default

/-- The scanned index of a workspace. -/
def scanned (disk : Disk) (settings : Settings) (roots : List String) : Except RunFault Index := do
  let index ← (Index.create disk (roots.map Location.posix) settings).mapError fun fault =>
    .index (.resolve fault)
  (index.update disk).result.mapError .index

/-- A workspace is listed from its scanned index. -/
theorem runScan_result (disk : Disk) (settings : Settings) (asJson : Bool) (roots : List String) :
    (runScan disk settings asJson roots).result = (scanned disk settings roots).map fun index =>
      succeed asJson (projectsJson index.known) (projectsPrinted index.known) := by
  simp only [runScan, scanned, resolved, Logged.bind_result, Logged.ofExcept_result,
    Logged.mapFault_result, Logged.pure_result]
  -- Either step can fail, and what fails is told; otherwise the projects are listed.
  cases (Index.create disk (roots.map Location.posix) settings) with
  | error fault => rfl
  | ok index =>
    simp only [Except.mapError, Bind.bind, Except.bind]
    cases (index.update disk).result <;> rfl

/-- What a scanned index comes to about a location. -/
def described (asJson : Bool) (l : Location) (index : Index) : Outcome :=
  match index.owner? l with
  | none => { exitCode := 1 }
  | some p => succeed asJson (locationJson l p (index.buildInfo? l))
      (locationPrinted l p (index.buildInfo? l))

/-- A location is described from the scanned index of the named roots. -/
theorem runInfo_result (disk : Disk) (settings : Settings) (asJson : Bool) (task : Task)
    (path : String) (named : roots ≠ []) :
    (runInfo disk settings asJson task path roots).result = (do
      let l ← (disk.resolveNamed (.posix path)).mapError fun fault => .index (.resolve fault)
      let index ← scanned disk settings roots
      return described asJson l index) := by
  -- With a root there is nothing to guess.
  have some : roots.isEmpty = false := by simpa using named
  simp only [runInfo, scanned, resolved, Logged.bind_result, Logged.ofExcept_result,
    Logged.mapFault_result, Logged.pure_result, some, Bool.false_eq_true, if_false]
  -- The location is resolved before the index is made and has scanned.
  cases disk.resolveNamed (.posix path) with
  | error fault => rfl
  | ok l =>
    simp only [Except.mapError, Bind.bind, Except.bind]
    cases Index.create disk (roots.map Location.posix) settings with
    | error fault => rfl
    | ok index =>
      dsimp only
      cases (index.update disk).result with
      | error fault => rfl
      | ok index =>
        simp only [described]
        cases index.owner? l <;> rfl

section Fields

variable {l : Location}

/-- What a listed project says of itself. -/
theorem projectJson_fields (p : Project) :
    p.toJson.field? "name" = some (.text p.name) ∧
      p.toJson.field? "project_root" = some (.text p.root.text) ∧
      configurationsOf p.toJson = p.configurations.map Configuration.toJson := by
  simp [Project.toJson, configurationsOf, Json.field?, Json.lookup, itemsOf]

/-- What a listed configuration says of itself. -/
theorem configurationJson_fields (c : Configuration) :
    c.toJson.field? "name" = some (.text c.name) ∧
      c.toJson.field? "root_path" = some (.text c.root.text) := by
  simp [Configuration.toJson, Json.field?, Json.lookup]

/-- What the description of a location says of the project and its configuration. -/
theorem locationJson_fields (l : Location) (p : Project) (info : Option BuildInfo) :
    (locationJson l p info).field? "project" = some (.text p.name) ∧
      (locationJson l p info).field? "project_root" = some (.text p.root.text) ∧
      (locationJson l p info).field? "configuration" =
        some (.optionalText (info.map (·.configuration))) := by
  simp [locationJson, Json.field?, Json.lookup]

/-- A field with the text of a posix location surrounds what the location encloses. -/
theorem surrounds_iff {key : String} {value : Json} {place : Location} (plain : place.IsPosix)
    (held : value.field? key = some (.text place.text)) :
    Surrounds key value l ↔ place.Encloses l := by
  -- A path that can be read back says where the place is.
  rw [Surrounds, held]
  constructor
  · rintro ⟨_, ⟨⟩, encloses⟩
    rwa [Location.posix_text plain] at encloses
  · intro encloses
    exact ⟨_, rfl, by rwa [Location.posix_text plain]⟩

/-- A listed project surrounds what its root encloses. -/
theorem surrounds_project_iff {p : Project} (laidOut : p.IsLaidOut) :
    Surrounds "project_root" p.toJson l ↔ p.root.Encloses l :=
  surrounds_iff laidOut.root_plain (projectJson_fields p).2.1

/-- A listed configuration surrounds what its directory encloses. -/
theorem surrounds_configuration_iff {p : Project} (laidOut : p.IsLaidOut) {c : Configuration}
    (member : c ∈ p.configurations) : Surrounds "root_path" c.toJson l ↔ c.root.Encloses l :=
  surrounds_iff (laidOut.roots_plain c member) (configurationJson_fields c).2

end Fields

section Answers

variable {index : Index} {l : Location}

/-- A location is described with success exactly if it has an owner. -/
theorem exitCode_described (index : Index) (l : Location) :
    exitCode (.ok (described true l index)) = 0 ↔ ∃ p, index.owner? l = some p := by
  cases owner : index.owner? l <;> simp [described, owner, exitCode, succeed]

/-- A location has an owner exactly if the root of a listed project surrounds it. -/
theorem owner_iff_listed (laidOut : index.IsLaidOut) (plain : l.IsPosix) :
    (∃ p, index.owner? l = some p) ↔
      ∃ p ∈ index.known.map Project.toJson, Surrounds "project_root" p l := by
  constructor
  · rintro ⟨p, owner⟩
    obtain ⟨member, encloses, -⟩ := (laidOut.owner?_eq_some_iff plain).mp owner
    exact ⟨p.toJson, List.mem_map_of_mem member,
      (surrounds_project_iff (laidOut.projects_laidOut p member)).mpr encloses⟩
  -- A listed root that surrounds the location rules out that no project owns it.
  · rintro ⟨value, among, surrounds⟩
    obtain ⟨p, member, rfl⟩ := List.mem_map.mp among
    have encloses := (surrounds_project_iff (laidOut.projects_laidOut p member)).mp surrounds
    cases owner : index.owner? l with
    | none => exact absurd encloses ((laidOut.owner?_eq_none_iff plain).mp owner p member)
    | some p => exact ⟨p, rfl⟩

/-- The configuration that answers for a location is one of the project's. -/
theorem configurationFor?_mem {p : Project} (laidOut : p.IsLaidOut) (plain : l.IsPosix)
    {c : Configuration} (answers : p.configurationFor? l = some c) : c ∈ p.configurations := by
  rcases Option.or_eq_some_iff.mp answers with owner | ⟨-, active⟩
  · exact ((laidOut.owner?_eq_some_iff plain).mp owner).1
  · exact (laidOut.active?_eq_some_iff.mp active).1

/-- The owner of a location is what is told of the location: its name, its root and the name of the
configuration that answers. -/
theorem described_of_owner (laidOut : index.IsLaidOut) (plain : l.IsPosix) {p : Project}
    (owner : index.owner? l = some p) :
    ∃ told, printedValue? (.ok (described true l index)) = some told ∧
      SameText told "project" p.toJson "name" ∧
      SameText told "project_root" p.toJson "project_root" ∧
      (told.field? "configuration" = some .null ∨
        ∃ c ∈ configurationsOf p.toJson, SameText told "configuration" c "name") ∧
      ∀ c ∈ configurationsOf p.toJson, Surrounds "root_path" c l →
        SameText told "configuration" c "name" := by
  have project := laidOut.projects_laidOut p ((laidOut.owner?_eq_some_iff plain).mp owner).1
  obtain ⟨name, root, configurations⟩ := projectJson_fields p
  obtain ⟨toldName, toldRoot, toldConfiguration⟩ := locationJson_fields l p (index.buildInfo? l)
  -- The configuration of the answer is the one that the project has for the location.
  have answered : (index.buildInfo? l).map (·.configuration) =
      (p.configurationFor? l).map (·.name) := by
    rw [Index.IsLaidOut.buildInfo?_of_owner owner, Option.map_map]
    rfl
  rw [answered] at toldConfiguration
  refine ⟨locationJson l p (index.buildInfo? l), ?_, ⟨_, toldName, name⟩, ⟨_, toldRoot, root⟩,
    ?_, ?_⟩
  · simp only [described, owner, printedValue?]
    rw [read_printed (isTold_locationJson l p _)]
    rfl
  · rw [configurations]
    -- A project without a configuration for the location tells of none.
    cases answers : p.configurationFor? l with
    | none =>
      rw [answers] at toldConfiguration
      exact .inl toldConfiguration
    | some c =>
      rw [answers] at toldConfiguration
      exact .inr ⟨c.toJson, List.mem_map_of_mem (configurationFor?_mem project plain answers),
        c.name, toldConfiguration, (configurationJson_fields c).1⟩
  · rw [configurations]
    intro value listed surrounds
    -- A configuration around the location is the one that is chosen, whatever the active one is.
    obtain ⟨c, member, rfl⟩ := List.mem_map.mp listed
    have encloses := (surrounds_configuration_iff project member).mp surrounds
    rw [project.configurationFor?_of_encloses plain member encloses] at toldConfiguration
    exact ⟨c.name, toldConfiguration, (configurationJson_fields c).1⟩

/-- Of the listed projects, one has the root that surrounds a location most closely, and what is
told of the location is the name and the root of this project, and of its configurations the name of
none or of one, which is the one that surrounds the location if there is such. -/
def Agrees (l : Location) (projects : List Json) (answer : Except RunFault Outcome) : Prop :=
  ∃ told p root, printedValue? answer = some told ∧ p ∈ projects ∧
    p.field? "project_root" = some (.text root) ∧ (Location.posix root).Encloses l ∧
    (∀ q ∈ projects, Surrounds "project_root" q l →
      Surrounds "project_root" q (Location.posix root)) ∧
    (∀ q ∈ projects, SameText q "project_root" p "project_root" → q = p) ∧
    SameText told "project" p "name" ∧ SameText told "project_root" p "project_root" ∧
    (told.field? "configuration" = some .null ∨
      ∃ c ∈ configurationsOf p, SameText told "configuration" c "name") ∧
    ∀ c ∈ configurationsOf p, Surrounds "root_path" c l → SameText told "configuration" c "name"

/-- The description of a location that has an owner agrees with the list of projects. -/
theorem described_agrees (laidOut : index.IsLaidOut) (plain : l.IsPosix) {p : Project}
    (owner : index.owner? l = some p) :
    Agrees l (index.known.map Project.toJson) (.ok (described true l index)) := by
  obtain ⟨member, encloses, deepest⟩ := (laidOut.owner?_eq_some_iff plain).mp owner
  obtain ⟨told, printed, answers⟩ := described_of_owner laidOut plain owner
  have posix := (laidOut.projects_laidOut p member).root_plain
  refine ⟨told, p.toJson, p.root.text, printed, List.mem_map_of_mem member,
    (projectJson_fields p).2.1, ?_, ?_, ?_, answers⟩
  · rwa [Location.posix_text posix]
  · intro value listed surrounds
    obtain ⟨q, known, rfl⟩ := List.mem_map.mp listed
    have project := laidOut.projects_laidOut q known
    rw [Location.posix_text posix]
    exact (surrounds_project_iff project).mpr
      (deepest q known ((surrounds_project_iff project).mp surrounds))
  · rintro value listed ⟨text, first, second⟩
    obtain ⟨q, known, rfl⟩ := List.mem_map.mp listed
    rw [(projectJson_fields q).2.1] at first
    rw [(projectJson_fields p).2.1, ← first] at second
    -- Projects with one root are one project.
    have texts : p.root.text = q.root.text := by simpa using second
    have root := (Location.text_inj posix (laidOut.projects_laidOut q known).root_plain).mp texts
    rw [List.inj_on_of_nodup_map laidOut.roots_distinct member known root]

/-- The projects of an index are printed one by one. -/
theorem printed_projects (index : Index) : itemsOf (printedValue? (.ok (succeed true
    (projectsJson index.known) (projectsPrinted index.known)))) =
      index.known.map Project.toJson := by
  have told : Json.IsTold (projectsJson index.known) := isTold_map Project.isTold _
  rw [printedValue?, read_printed told]
  rfl

end Answers

section Runs

variable {arguments : List String} {verbose : Bool} {config : Option String}

/-- A command is carried out with the settings that it is given. -/
theorem run_accepted (read : readRequest arguments = .ok ⟨verbose, none, config, asJson, some task⟩)
    (accepted : Settings.load disk (sourceOf config) = .ok settings) :
    (run disk arguments).2.result = (runTask disk settings asJson task).result := by
  simp only [run, read, runWithSettings]
  rw [← sourceOf, accepted]
  rfl

/-- A command fails whose settings are rejected, whatever for. -/
theorem run_rejected (read : readRequest arguments = .ok ⟨verbose, none, config, asJson, some task⟩)
    {fault : Settings.SourceFault}
    (rejected : Settings.load disk (sourceOf config) = .error fault) :
    exitCode (run disk arguments).2.result = 1 ∧
      printedValue? (run disk arguments).2.result = none := by
  -- Settings are loaded before the task begins, and their fault is told instead of an answer.
  simp only [run, read, runWithSettings]
  rw [← sourceOf, rejected]
  cases fault <;> exact ⟨rfl, rfl⟩

end Runs

/-- On a well-named disk the scanned index of any roots is laid out. -/
theorem scanned_isLaidOut (wellNamed : disk.isWellNamed = true) {index : Index}
    (ran : scanned disk settings roots = .ok index) : index.IsLaidOut := by
  -- The roots come from resolved paths, so they are places without links.
  obtain ⟨made, created, updated⟩ := exceptBind_ok_iff.mp ran
  rw [mapError_ok_iff] at created updated
  have posix : ∀ root ∈ made.roots, root.IsPosix := by
    refine Index.create_isPosix wellNamed ?_ created
    intro root member
    obtain ⟨text, -, rfl⟩ := List.mem_map.mp member
    exact Location.posix_isPosix text
  obtain ⟨places, rfl⟩ := Index.create_atPlaces created
  exact Index.update_isLaidOut wellNamed (Index.atPlaces_rooted places settings none) posix updated

/-- Under accepted settings both commands look at one scan, so they agree: a location is described
with success exactly if a root of a listed project surrounds it. -/
theorem tasks_agree (wellNamed : disk.isWellNamed = true) (settings : Settings) (named : roots ≠ [])
    (path : String) :
    let answer := (runTask disk settings true (.info path roots)).result
    let projects := itemsOf (printedValue? (runTask disk settings true (.scan roots)).result)
    (exitCode answer = 0 ↔ ∃ l, disk.resolveNamed (.posix path) = .ok l ∧
      ∃ p ∈ projects, Surrounds "project_root" p l) ∧
    ∀ l, disk.resolveNamed (.posix path) = .ok l → exitCode answer = 0 →
      Agrees l projects answer := by
  intro answer projects
  have listed : (runTask disk settings true (.scan roots)).result = _ := runScan_result ..
  have answered : answer = _ := runInfo_result _ _ _ _ _ named
  cases ran : scanned disk settings roots with
  | error fault =>
    rw [ran] at listed answered
    have none : projects = [] := by
      simp only [projects, listed]
      rfl
    have failed : exitCode answer = 1 := by
      rw [answered]
      cases disk.resolveNamed (.posix path) <;> rfl
    simp [failed, none]
  | ok index =>
    rw [ran] at listed answered
    have laidOut := scanned_isLaidOut wellNamed ran
    have known : projects = index.known.map Project.toJson := by
      simp only [projects, listed]
      exact printed_projects index
    -- Only the command for a location resolves the location.
    cases resolves : disk.resolveNamed (.posix path) with
    | error fault =>
      rw [resolves] at answered
      have failed : exitCode answer = 1 := by
        rw [answered]
        rfl
      simp [failed]
    | ok l =>
      rw [resolves] at answered
      have described : answer = .ok (described true l index) := answered
      have plain := Disk.resolveNamed_isPosix wellNamed (Location.posix_isPosix path) resolves
      rw [described, known, exitCode_described, owner_iff_listed laidOut plain]
      refine ⟨by simp, ?_⟩
      rintro _ ⟨⟩ listed
      obtain ⟨p, owner⟩ := (owner_iff_listed laidOut plain).mpr listed
      exact described_agrees laidOut plain owner

/-- Whatever the disk, the roots, the settings and the location are, the two commands agree. Both
fail where the settings are rejected. A location is described with success exactly if the projects
that are listed contain one whose root surrounds it, and then by the name and the root of the one
whose root does so most closely, by no configuration or one that is listed for the project, and by
the one whose directory surrounds the location, if there is such. -/
theorem info_agrees_with_scan (wellNamed : disk.isWellNamed = true)
    {asked listing : List String} {verbose verbosely : Bool} {config : Option String}
    {path : String} (named : roots ≠ [])
    (info : readRequest asked = .ok ⟨verbose, none, config, true, some (.info path roots)⟩)
    (scan : readRequest listing = .ok ⟨verbosely, none, config, true, some (.scan roots)⟩) :
    let answer := (run disk asked).2.result
    let projects := itemsOf (printedValue? (run disk listing).2.result)
    (∀ fault, Settings.load disk (sourceOf config) = .error fault →
      exitCode answer = 1 ∧ exitCode (run disk listing).2.result = 1) ∧
    (exitCode answer = 0 ↔ ∃ l, disk.resolveNamed (.posix path) = .ok l ∧
      ∃ p ∈ projects, Surrounds "project_root" p l) ∧
    ∀ l, disk.resolveNamed (.posix path) = .ok l → exitCode answer = 0 →
      Agrees l projects answer := by
  intro answer projects
  -- Both commands load the same settings; rejected ones end both in the same way.
  cases loaded : Settings.load disk (sourceOf config) with
  | error fault =>
    obtain ⟨failed, -⟩ := run_rejected info loaded
    obtain ⟨failing, silent⟩ := run_rejected scan loaded
    have none : projects = [] := by
      simp only [projects, silent]
      rfl
    have failed : exitCode answer = 1 := failed
    refine ⟨fun _ _ => ⟨failed, failing⟩, ?_, ?_⟩
    · simp [failed, none]
    · simp [failed]
  | ok settings =>
    refine ⟨by simp, ?_⟩
    simp only [answer, projects, run_accepted info loaded, run_accepted scan loaded]
    exact tasks_agree wellNamed settings named path

/-- The command for a location in the directory of a configuration tells the inner project and this
configuration, as the command that lists both projects does. -/
theorem info_agrees_with_scan_hallDisk :
    let answer := (run Project.hallDisk ("info" ::
      infoArguments "/ws/Line/Physical/Lab/main.c" ["/ws"] "\x7b\x7d")).2.result
    let listing := (run Project.hallDisk ("scan" :: scanArguments ["/ws"] "\x7b\x7d")).2.result
    exitCode answer = 0 ∧
      itemsOf (printedValue? listing) = [Project.hallProject.toJson, Project.lineProject.toJson] ∧
      ∃ told, printedValue? answer = some told ∧
        told.field? "project_root" = some (.text "/ws/Line") ∧
        told.field? "configuration" = some (.text "Lab") := by
  intro answer listing
  -- Both command lines are read as they are meant.
  have plainRoots : ∀ root ∈ ["/ws"], IsPlain root := by simp [IsPlain]
  have asked := readRequest_info (by decide : IsPlain "/ws/Line/Physical/Lab/main.c") plainRoots
    (by decide : IsPlain "\x7b\x7d")
  have listed := readRequest_scan (by simp) plainRoots (by decide : IsPlain "\x7b\x7d")
  have accepted : Settings.load Project.hallDisk (sourceOf (some "\x7b\x7d")) = .ok {} := by
    decide +kernel
  have resolves : Project.hallDisk.resolveNamed (.posix "/ws/Line/Physical/Lab/main.c") =
      .ok (.posix "/ws/Line/Physical/Lab/main.c") := by decide +kernel
  have ran : scanned Project.hallDisk {} ["/ws"] = .ok (Index.atPlaces [["ws"]] {}
      (some [Project.hallProject, Project.lineProject])) := by
    simp only [scanned, Index.hallDisk_created, Except.mapError, Bind.bind, Except.bind,
      Index.hallDisk_scanned]
  have wellNamed : Project.hallDisk.isWellNamed = true := by decide
  obtain ⟨-, success, agrees⟩ := info_agrees_with_scan wellNamed (by simp) asked listed
  have projects : itemsOf (printedValue? listing) =
      [Project.hallProject.toJson, Project.lineProject.toJson] := by
    -- What the scan prints is read back as the projects of the index.
    have result := run_accepted listed accepted
    rw [runTask, runScan_result, ran] at result
    simp only [listing, result]
    exact printed_projects _
  have laidOut := scanned_isLaidOut wellNamed ran
  have inner := laidOut.projects_laidOut Project.lineProject (List.mem_cons_of_mem _ List.mem_cons_self)
  have surrounds : Surrounds "project_root" Project.lineProject.toJson
      (.posix "/ws/Line/Physical/Lab/main.c") :=
    (surrounds_project_iff inner).mpr ⟨rfl, rfl, rfl, by decide⟩
  have succeeded : exitCode answer = 0 :=
    success.mpr ⟨_, resolves, Project.lineProject.toJson, by simp [projects, listing], surrounds⟩
  obtain ⟨told, p, root, printed, among, field, -, deepest, -, -, ⟨text, toldRoot, rooted⟩, -,
    chosen⟩ := agrees _ resolves succeeded
  have among : p ∈ itemsOf (printedValue? listing) := among
  have known : Project.lineProject.toJson ∈ itemsOf (printedValue? listing) := by simp [projects]
  -- The inner project surrounds the location, so the answer is no project above it.
  have below := deepest _ known surrounds
  have directories := (projectJson_fields Project.lineProject).2
  rw [projects] at among
  refine ⟨succeeded, projects, told, printed, ?_⟩
  rcases List.mem_cons.mp among with rfl | last
  · -- The outer project is not the deepest one that surrounds the location.
    rw [(projectJson_fields Project.hallProject).2.1] at field
    cases field
    exact absurd ((surrounds_project_iff inner).mp below).segments_begin (by decide)
  · rw [List.mem_singleton.mp last] at rooted chosen
    have lab : Project.lineConfiguration "Lab" {} none ∈ Project.lineProject.configurations := by
      simp [Project.lineProject]
    obtain ⟨name, toldName, called⟩ := chosen _
      (directories.2 ▸ List.mem_map_of_mem lab)
      ((surrounds_configuration_iff inner lab).mpr ⟨rfl, rfl, rfl, by decide⟩)
    rw [directories.1] at rooted
    rw [(configurationJson_fields _).1] at called
    cases rooted
    cases called
    exact ⟨toldRoot, toldName⟩

end AutomationIndex.Command
