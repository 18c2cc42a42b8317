import AutomationIndex.Loading
import AutomationIndex.Proofs.Logged
import AutomationIndex.Proofs.Text.Encoding

/-! Which package files are accepted in a role, and what is recorded about all others. -/

namespace AutomationIndex

/-- What a role demands of the root type and of the declared objects of a file. -/
structure Role.Admits (role : Role) (rootType : String) (children : List ChildObject) : Prop where
  root_eq : ∀ expected, role.rootType? = some expected → rootType = expected
  one_cpu : role = .configuration → children.countP (·.type == "Cpu") = 1

/-- Whether neither the section for the controller nor the one for builds in it is repeated. -/
structure Xml.Element.HasSingleSections (root : Xml.Element) : Prop where
  controller : (root.childrenNamed "Configuration").length ≤ 1
  build : ∀ inner ∈ root.childrenNamed "Configuration", (inner.childrenNamed "Build").length ≤ 1

/-- The settings of a controller can be read exactly if no section for them is repeated. -/
theorem CpuSettings.read_ok_iff {root : Xml.Element} :
    (∃ settings, CpuSettings.read root = .ok settings) ↔ root.HasSingleSections := by
  -- One case for each number of sections, and in a single one for each number of builds.
  unfold CpuSettings.read
  match sections : root.childrenNamed "Configuration" with
  | [] => exact ⟨fun _ => ⟨by simp [sections], by simp [sections]⟩, fun _ => ⟨{}, rfl⟩⟩
  | [controller] =>
    dsimp only
    match builds : controller.childrenNamed "Build" with
    | [] => exact ⟨fun _ => ⟨by simp [sections], by simp [sections, builds]⟩, fun _ => ⟨_, rfl⟩⟩
    | [build] => exact ⟨fun _ => ⟨by simp [sections], by simp [sections, builds]⟩, fun _ => ⟨_, rfl⟩⟩
    | first :: second :: others =>
      constructor
      · rintro ⟨settings, read⟩
        cases read
      · intro single
        have few := single.build controller (by simp [sections])
        simp [builds] at few
  | first :: second :: others =>
    constructor
    · rintro ⟨settings, read⟩
      cases read
    · intro single
      have few := single.controller
      simp [sections] at few

/-- A file fails to parse as a package for its markup or for the layout of its declarations. -/
theorem PackageDocument.read_error {source : Xml.Source} {fault : ContentFault}
    (failed : PackageDocument.read source = .error fault) :
    (∃ located, fault = .markup located) ∨ ∃ layout, fault = .layout layout := by
  unfold PackageDocument.read MarkedUp.read at failed
  split at failed
  · -- The markup is read first, and nothing else is looked at where it is at fault.
    rename_i marked
    split at marked <;> cases marked
    cases failed
    exact Or.inl ⟨_, rfl⟩
  · split at failed
    · cases failed
      exact Or.inr ⟨_, rfl⟩
    · cases failed

/-- A file lists configurations exactly if its root says so. -/
theorem PhysicalPackage.check_ok_iff {p : PackageFile} {package : PhysicalPackage} :
    check p = .ok package ↔ p.rootType = "Physical" ∧ package.toPackageFile = p := by
  unfold check
  -- The check looks at the root's type and keeps the file.
  constructor
  · intro checked
    split at checked <;> cases checked
    exact ⟨‹_›, rfl⟩
  · rintro ⟨root, rfl⟩
    rw [dif_pos root]

/-- A file is the package of a configuration exactly if its root says so and it declares one
controller. -/
theorem ConfigurationPackage.check_ok_iff {p : PackageFile} {package : ConfigurationPackage} :
    check p = .ok package ↔ p.rootType = "Configuration" ∧ p.childrenOfType "Cpu" = [package.cpu] ∧
      package.toPackageFile = p := by
  unfold check
  constructor
  · intro checked
    split at checked
    · rename_i root
      -- Of the numbers of controllers, only one is not refused.
      split at checked <;> cases checked
      exact ⟨root, ‹_›, rfl⟩
    · cases checked
  · rintro ⟨root, one, rfl⟩
    rw [dif_pos root]
    split
    · rename_i none
      rw [none] at one
      cases one
    · rename_i cpu found
      rw [found] at one
      cases one
      rfl
    · rename_i several
      exact absurd one (several _)

/-- A file is the package of a controller exactly if its root says so. -/
theorem CpuPackage.check_ok_iff {p : PackageFile} {settings : CpuSettings} {package : CpuPackage} :
    check p settings = .ok package ↔
      p.rootType = "Cpu" ∧ package.toPackageFile = p ∧ package.settings = settings := by
  unfold check
  constructor
  -- The check looks at the root's type and keeps the file and its settings.
  · intro checked
    split at checked <;> cases checked
    exact ⟨‹_›, rfl, rfl⟩
  · rintro ⟨root, rfl, rfl⟩
    rw [dif_pos root]

namespace Package

variable {role : Role} {p : PackageFile} {settings : CpuSettings} {package : Package}

/-- A file that is taken for a package in a role meets what the role demands. -/
theorem check_ok (checked : check role p settings = .ok package) :
    role.Admits p.rootType p.children ∧ package.role = role ∧ package.base = p := by
  -- Each role makes a package of its own kind, after it has checked the root and the objects.
  cases role with
  | generic =>
    cases checked
    exact ⟨⟨nofun, nofun⟩, rfl, rfl⟩
  | physical =>
    obtain ⟨own, taken, rfl⟩ := exceptMap_ok_iff.mp checked
    obtain ⟨root, same⟩ := PhysicalPackage.check_ok_iff.mp taken
    exact ⟨⟨fun _ some => root.trans (Option.some.inj some), nofun⟩, rfl, same⟩
  | configuration =>
    obtain ⟨own, taken, rfl⟩ := exceptMap_ok_iff.mp checked
    obtain ⟨root, one, same⟩ := ConfigurationPackage.check_ok_iff.mp taken
    refine ⟨⟨fun _ some => root.trans (Option.some.inj some), fun _ => ?_⟩, rfl, same⟩
    rw [List.countP_eq_length_filter]
    exact congrArg List.length one
  | cpu =>
    obtain ⟨own, taken, rfl⟩ := exceptMap_ok_iff.mp checked
    obtain ⟨root, same, _⟩ := CpuPackage.check_ok_iff.mp taken
    exact ⟨⟨fun _ some => root.trans (Option.some.inj some), nofun⟩, rfl, same⟩

/-- A file is taken for a package in a role exactly if it meets what the role demands. -/
theorem check_ok_iff : (∃ package, check role p settings = .ok package) ↔
    role.Admits p.rootType p.children := by
  refine ⟨fun ⟨_, checked⟩ => (check_ok checked).1, fun admits => ?_⟩
  cases role with
  | generic => exact ⟨_, rfl⟩
  | physical =>
    have root : p.rootType = "Physical" := admits.root_eq _ rfl
    let own : PhysicalPackage := { p with root_eq := root }
    exact ⟨.physical own, exceptMap_ok_iff.mpr
      ⟨own, PhysicalPackage.check_ok_iff.mpr ⟨root, rfl⟩, rfl⟩⟩
  | configuration =>
    -- The one object of the type of controllers is the controller of the configuration.
    have root : p.rootType = "Configuration" := admits.root_eq _ rfl
    have one := admits.one_cpu rfl
    rw [List.countP_eq_length_filter, List.length_eq_one_iff] at one
    obtain ⟨cpu, found⟩ := one
    let own : ConfigurationPackage := { p with cpu, root_eq := root, cpus_eq := found }
    exact ⟨.configuration own, exceptMap_ok_iff.mpr
      ⟨own, ConfigurationPackage.check_ok_iff.mpr ⟨root, found, rfl⟩, rfl⟩⟩
  | cpu =>
    have root : p.rootType = "Cpu" := admits.root_eq _ rfl
    let own : CpuPackage := { p with settings, root_eq := root }
    exact ⟨.cpu own, exceptMap_ok_iff.mpr
      ⟨own, CpuPackage.check_ok_iff.mpr ⟨root, rfl, rfl⟩, rfl⟩⟩

/-- A file is refused in a role exactly if its root has the wrong type or it does not declare one
controller where it should. -/
theorem check_error_iff : (∃ fault, check role p settings = .error fault) ↔
    (∃ expected, role.rootType? = some expected ∧ p.rootType ≠ expected) ∨
      role = .configuration ∧ p.children.countP (·.type == "Cpu") ≠ 1 := by
  have refused : (∃ fault, check role p settings = .error fault) ↔
      ¬ ∃ package, check role p settings = .ok package := by
    cases check role p settings <;> simp
  rw [refused, check_ok_iff]
  constructor
  · intro unfit
    by_contra fitting
    -- Were neither the root nor the controller at fault, the role would admit the file.
    simp only [not_or, not_exists, not_and, not_not] at fitting
    exact unfit ⟨fitting.1, fitting.2⟩
  · rintro (⟨expected, demanded, other⟩ | ⟨rfl, several⟩) admits
    · exact other (admits.root_eq expected demanded)
    · exact several (admits.one_cpu rfl)

end Package

/-- The settings that a file in a role has beside its declarations. -/
def Role.settings : Role → Xml.Element → Except LayoutFault CpuSettings
  | .cpu, root => CpuSettings.read root
  | _, _ => .ok {}

/-- A content that the parser takes in is a text within the limit. -/
theorem intake_ok_iff {points : List Text.Point} {content : String} :
    intake points = .ok content ↔
      points = Text.pointsOf content ∧ content.utf8ByteSize ≤ intakeLimit := by
  -- Two things can refuse a text: a point that has no encoding, and its length in bytes.
  rw [← Text.encode_ok_iff]
  unfold intake
  cases Text.encode points with
  | error fault => simp
  | ok text =>
    dsimp only
    split
    · next more =>
      simp only [reduceCtorEq, Except.ok.injEq, false_iff, not_and, not_le]
      rintro rfl
      exact more
    · next few =>
      simp only [Except.ok.injEq, iff_self_and]
      rintro rfl
      exact not_lt.mp few

/-- The parser takes in neither halves of surrogate pairs nor texts beyond the limit. -/
theorem intake_error_iff {points : List Text.Point} : (∃ fault, intake points = .error fault) ↔
    (∃ offset, .half offset ∈ points) ∨
      ∃ text, points = Text.pointsOf text ∧ intakeLimit < text.utf8ByteSize := by
  unfold intake
  cases encoded : Text.encode points with
  | error fault =>
    -- The halves at fault are among the code points.
    obtain ⟨broken, text, rest, rfl, -, -⟩ := Text.encode_error_iff.mp encoded
    obtain ⟨offset, halves, same⟩ := List.exists_cons_of_ne_nil broken
    exact iff_of_true ⟨_, rfl⟩ (.inl ⟨offset, by simp [same]⟩)
  | ok text =>
    have whole : points = Text.pointsOf text := Text.encode_ok_iff.mp encoded
    have unbroken : ¬ ∃ offset, Text.Point.half offset ∈ points := by
      simp [whole, Text.pointsOf]
    have only : ∀ other, points = Text.pointsOf other ↔ text = other := by
      intro other
      rw [← Text.encode_ok_iff, encoded, Except.ok.injEq]
    simp only [unbroken, only, false_or, exists_eq_left']
    split <;> simp_all

namespace Package

open Text (Point pointsOf)

variable {role : Role} {file : Location} {answer : Except ReadFault (List Point)}

/-- Reading a package parses it, reads its settings, and then checks it for its role. -/
theorem read_eq (role : Role) (file : Location) (source : Xml.Source) :
    read role file source = (do
      let document ← PackageDocument.read source
      let settings ← (role.settings document.root).mapError .layout
      RoleFault.inFile file (check role (document.toFile file) settings)) := by
  -- Only a controller has settings, and every role checks the document in its own way.
  cases role with
  | generic => simp only [read]; cases PackageDocument.read source <;> rfl
  | physical =>
    simp only [read, PhysicalPackage.read]
    cases PackageDocument.read source with
    | error fault => rfl
    | ok document =>
      simp only [Bind.bind, Except.bind, Role.settings, check, RoleFault.inFile]
      cases PhysicalPackage.check (document.toFile file) <;> rfl
  | configuration =>
    simp only [read, ConfigurationPackage.read]
    cases PackageDocument.read source with
    | error fault => rfl
    | ok document =>
      simp only [Bind.bind, Except.bind, Role.settings, check, RoleFault.inFile]
      cases ConfigurationPackage.check (document.toFile file) <;> rfl
  | cpu =>
    simp only [read, CpuPackage.read]
    cases PackageDocument.read source with
    | error fault => rfl
    | ok document =>
      simp only [Bind.bind, Except.bind, Role.settings, check, RoleFault.inFile]
      cases CpuSettings.read document.root with
      | error fault => rfl
      | ok settings =>
        simp only [Except.mapError]
        cases CpuPackage.check (document.toFile file) settings <;> rfl

/-- Whether the content of a file is a text that the parser takes in. -/
def HasContent (answer : Except ReadFault (List Point)) (content : String) : Prop :=
  ∃ points, answer = .ok points ∧ intake points = .ok content

/-- Whether a file whose content is a document is taken for a package in a role. -/
structure IsTaken (role : Role) (answer : Except ReadFault (List Point))
    (document : PackageDocument) : Prop where
  parsed : ∃ content, HasContent answer content ∧
    PackageDocument.read (Xml.Source.ofText content) = .ok document
  single : role = .cpu → document.root.HasSingleSections
  admits : role.Admits document.rootType document.children

/-- Why a file is not taken for a package in a role, and how that is worded. -/
inductive Refusal (role : Role) (file : Location) (answer : Except ReadFault (List Point)) :
    String → Prop where
  /-- There is no content. -/
  | unread (fault : ReadFault) (failed : answer = .error fault) :
      Refusal role file answer fault.message
  /-- The content is no package, for its markup or for the layout of its declarations. -/
  | illFormed (content : String) (fault : ContentFault) (found : HasContent answer content)
      (failed : PackageDocument.read (Xml.Source.ofText content) = .error fault)
      (kind : (∃ located, fault = .markup located) ∨ ∃ layout, fault = .layout layout) :
      Refusal role file answer fault.message
  /-- A section for the controller is repeated. -/
  | repeated (content : String) (document : PackageDocument) (fault : LayoutFault)
      (found : HasContent answer content)
      (parsed : PackageDocument.read (Xml.Source.ofText content) = .ok document)
      (controller : role = .cpu) (several : ¬ document.root.HasSingleSections)
      (failed : CpuSettings.read document.root = .error fault) :
      Refusal role file answer (ContentFault.layout fault).message
  /-- The role does not admit what the document declares. -/
  | unfit (content : String) (document : PackageDocument) (settings : CpuSettings)
      (fault : RoleFault) (found : HasContent answer content)
      (parsed : PackageDocument.read (Xml.Source.ofText content) = .ok document)
      (refused : ¬ role.Admits document.rootType document.children)
      (failed : check role (document.toFile file) settings = .error fault) :
      Refusal role file answer (ContentFault.role fault file).message

end Package

/-- Only a controller's settings can be at fault, and only for sections that are repeated. -/
theorem Role.settings_ok_iff {role : Role} {root : Xml.Element} :
    (∃ settings, role.settings root = .ok settings) ↔ (role = .cpu → root.HasSingleSections) := by
  cases role with
  | cpu => exact CpuSettings.read_ok_iff.trans ⟨fun single _ => single, fun single => single rfl⟩
  | generic | physical | configuration => exact ⟨fun _ => nofun, fun _ => ⟨{}, rfl⟩⟩

/-- Whether a record names a text. -/
def LogRecord.Mentions (record : LogRecord) (text : String) : Prop :=
  text.toList <:+: record.message.toList

/-- The record about a file names its path. -/
theorem loadFailure_mentions_path (kind : String) (file : Location) (reason : String) :
    (loadFailure kind file reason).Mentions file.text := by
  refine ⟨("Failed to read " ++ kind ++ " file from path '").toList, ("': " ++ reason).toList, ?_⟩
  simp [loadFailure]

/-- The record about a file names what is wrong with it. -/
theorem loadFailure_mentions_reason (kind : String) (file : Location) (reason : String) :
    (loadFailure kind file reason).Mentions reason := by
  refine ⟨("Failed to read " ++ kind ++ " file from path '" ++ file.text ++ "': ").toList, [], ?_⟩
  simp [loadFailure]

namespace Package

open Text (Point pointsOf)

variable {role : Role} {file : Location} {answer : Except ReadFault (List Point)}
  {package : Package}

/-- What is read in a role from a document that its role admits. -/
theorem read_ok_iff {source : Xml.Source} :
    read role file source = .ok package ↔
      ∃ document settings, PackageDocument.read source = .ok document ∧
        role.settings document.root = .ok settings ∧
        check role (document.toFile file) settings = .ok package := by
  -- The four steps of `read` succeed one after the other.
  simp only [read_eq, exceptBind_ok_iff, mapError_ok_iff, RoleFault.inFile]
  constructor
  · rintro ⟨document, parsed, settings, own, checked⟩
    exact ⟨document, settings, parsed, own, checked⟩
  · rintro ⟨document, settings, parsed, own, checked⟩
    exact ⟨document, parsed, settings, own, checked⟩

/-- Loading comes to what is read from the content, where there is one. -/
theorem load_of_content {content : String} (found : HasContent answer content) :
    load role file answer = loadFile role.kind file (.ok content) (read role) := by
  obtain ⟨points, rfl, taken⟩ := found
  simp only [load, loadHosted, taken]

/-- A package comes from a file exactly if its content is read as one. -/
theorem load_ok_iff : load role file answer = ⟨[], .ok (some package)⟩ ↔
    ∃ content, HasContent answer content ∧
      read role file (Xml.Source.ofText content) = .ok package := by
  constructor
  · intro loaded
    -- A model without a record comes from a text taken in and a read that succeeded.
    unfold load loadHosted at loaded
    split at loaded
    · cases loaded
    · next points =>
      split at loaded
      · cases loaded
      · next content taken =>
        refine ⟨content, ⟨points, rfl, taken⟩, ?_⟩
        unfold loadFile at loaded
        dsimp only at loaded
        split at loaded <;> cases loaded
        assumption
  · rintro ⟨content, found, reading⟩
    simp only [load_of_content found, loadFile, reading]

/-- A file is taken for a package in a role exactly if it can be read, parses as a package, repeats
no section of a controller, and declares what the role demands. -/
theorem load_some_iff : (∃ package, load role file answer = ⟨[], .ok (some package)⟩) ↔
    ∃ document, IsTaken role answer document := by
  -- Each of the three conditions makes one step of `read` succeed.
  simp only [load_ok_iff, read_ok_iff]
  constructor
  · rintro ⟨package, content, found, document, settings, parsed, own, checked⟩
    exact ⟨document, ⟨content, found, parsed⟩, Role.settings_ok_iff.mp ⟨settings, own⟩,
      (check_ok checked).1⟩
  · rintro ⟨document, ⟨content, found, parsed⟩, single, admits⟩
    obtain ⟨settings, own⟩ := Role.settings_ok_iff.mpr single
    obtain ⟨package, checked⟩ : ∃ package, check role (document.toFile file) settings = .ok package :=
      check_ok_iff.mpr admits
    exact ⟨package, content, found, document, settings, parsed, own, checked⟩

/-- What is wrong with a content that is not read as a package in a role. -/
theorem refusal_of_read {content : String} {fault : ContentFault} (found : HasContent answer content)
    (failed : read role file (Xml.Source.ofText content) = .error fault) :
    Refusal role file answer fault.message := by
  rw [read_eq] at failed
  -- The parts run one after the other, and the first that fails is to blame.
  cases parsed : PackageDocument.read (Xml.Source.ofText content) with
  | error early =>
    rw [parsed] at failed
    cases failed
    exact .illFormed content fault found parsed (PackageDocument.read_error parsed)
  | ok document =>
    rw [parsed] at failed
    change ((role.settings document.root).mapError ContentFault.layout >>= _) = _ at failed
    cases own : role.settings document.root with
    | error layout =>
      rw [own] at failed
      cases failed
      have unsettled : ¬ ∃ settings, role.settings document.root = .ok settings := by simp [own]
      rw [Role.settings_ok_iff, Classical.not_imp] at unsettled
      obtain ⟨rfl, several⟩ := unsettled
      exact .repeated content document layout found parsed rfl several own
    | ok settings =>
      rw [own] at failed
      change (check role (document.toFile file) settings).mapError _ = _ at failed
      cases checked : check role (document.toFile file) settings with
      | ok package =>
        rw [checked] at failed
        cases failed
      | error unfit =>
        rw [checked] at failed
        cases failed
        refine .unfit content document settings unfit found parsed ?_ checked
        intro admits
        obtain ⟨package, taken⟩ : ∃ package,
            check role (document.toFile file) settings = .ok package := check_ok_iff.mpr admits
        rw [taken] at checked
        cases checked

/-- Loading fails exactly on a content that the parser does not take in, and says nothing then. -/
theorem load_error_iff {fault : IntakeFault} : load role file answer = ⟨[], .error fault⟩ ↔
    ∃ points, answer = .ok points ∧ intake points = .error fault := by
  -- The only way out with a fault is the intake; every later failure is a record and no model.
  cases answer with
  | error early => exact iff_of_false nofun nofun
  | ok points =>
    cases taken : intake points with
    | error late => simp [load, loadHosted, taken, Logged.fail]
    | ok content =>
      have unfailing : ∀ fault, loadFile role.kind file (.ok content) (read role) ≠
          (⟨[], .error fault⟩ : Logged IntakeFault (Option Package)) := by
        intro fault failed
        unfold loadFile at failed
        dsimp only at failed
        split at failed <;> cases failed
      simp [load, loadHosted, taken, unfailing]

/-- A file comes to a package, or it leaves one record, which names the path and the reason; or else
the parser does not take in its content. -/
theorem load_cases (role : Role) (file : Location) (answer : Except ReadFault (List Point)) :
    (∃ fault, load role file answer = ⟨[], .error fault⟩) ∨
      (∃ package, load role file answer = ⟨[], .ok (some package)⟩) ∨
      ∃ reason, Refusal role file answer reason ∧
        load role file answer = ⟨[loadFailure role.kind file reason], .ok none⟩ := by
  -- The load is followed step by step, and each step that fails is one of the three outcomes.
  cases given : answer with
  | error fault => exact .inr (.inr ⟨_, .unread fault rfl, rfl⟩)
  | ok points =>
    cases taken : intake points with
    | error fault => exact .inl ⟨fault, load_error_iff.mpr ⟨points, rfl, taken⟩⟩
    | ok content =>
      have found : HasContent (.ok points) content := ⟨points, rfl, taken⟩
      cases reading : read role file (Xml.Source.ofText content) with
      | ok package => exact .inr (.inl ⟨package, load_ok_iff.mpr ⟨content, found, reading⟩⟩)
      | error fault =>
        refine .inr (.inr ⟨fault.message, refusal_of_read found reading, ?_⟩)
        simp only [load_of_content found, loadFile, reading]

/-- Loading a package compared with failing closed. In every role and for every answer to reading the
file, loading fails, without a record, exactly on a content with half of a surrogate pair in it or of
more bytes than the parser takes in. Otherwise it fails closed: a package of the role comes without a
record, or nothing comes and one record at the level of errors names the path and the reason. A
package comes exactly from the files that are taken for one; the role refuses exactly the files of
another root type and, for a configuration, of a number of controllers other than one. So a
configuration's package always has its one controller, which is among the declared objects at the
place where the controller's package is sought. -/
theorem load_compared (role : Role) (file : Location) (answer : Except ReadFault (List Point)) :
    (∀ fault, (load role file answer).result = .error fault ↔
      ∃ points, answer = .ok points ∧ intake points = .error fault) ∧
    (∀ points, (∃ fault, intake points = .error fault) ↔
      (∃ offset, Point.half offset ∈ points) ∨
        ∃ text, points = pointsOf text ∧ intakeLimit < text.utf8ByteSize) ∧
    ((∃ fault, load role file answer = ⟨[], .error fault⟩) ∨
      (∃ package, load role file answer = ⟨[], .ok (some package)⟩ ∧
        package.role = role ∧ package.base.file = file) ∨
      ∃ record reason, load role file answer = ⟨[record], .ok none⟩ ∧
        record.level = .error ∧ record.Mentions file.text ∧ record.Mentions reason ∧
        Refusal role file answer reason) ∧
    ((∃ package, (load role file answer).result = .ok (some package)) ↔
      ∃ document, IsTaken role answer document) ∧
    (∀ p settings, (∃ fault, check role p settings = .error fault) ↔
      (∃ expected, role.rootType? = some expected ∧ p.rootType ≠ expected) ∨
        role = .configuration ∧ p.children.countP (·.type == "Cpu") ≠ 1) ∧
    ∀ package : ConfigurationPackage, package.childrenOfType "Cpu" = [package.cpu] ∧
      ∀ projectRoot, package.cpuDirectory projectRoot ∈ package.childLocations projectRoot := by
  -- What the result alone says is told apart by the three things that loading can come to.
  have ways := load_cases role file answer
  refine ⟨fun fault => ?_, fun _ => intake_error_iff, ?_, ?_, fun _ _ => check_error_iff,
    fun package => ⟨package.cpus_eq, fun root => ?_⟩⟩
  · rw [← @load_error_iff role file]
    obtain ⟨early, loaded⟩ | ⟨package, loaded⟩ | ⟨reason, -, loaded⟩ := ways <;> simp [loaded]
  · obtain failed | ⟨package, loaded⟩ | ⟨reason, refusal, loaded⟩ := ways
    · exact .inl failed
    · obtain ⟨content, _, reading⟩ := load_ok_iff.mp loaded
      obtain ⟨document, settings, _, _, checked⟩ := read_ok_iff.mp reading
      obtain ⟨_, ofRole, same⟩ := check_ok checked
      exact .inr (.inl ⟨package, loaded, ofRole, congrArg PackageFile.file same⟩)
    · exact .inr (.inr ⟨_, reason, loaded, rfl, loadFailure_mentions_path ..,
        loadFailure_mentions_reason .., refusal⟩)
  · rw [← @load_some_iff role file]
    obtain ⟨early, loaded⟩ | ⟨package, loaded⟩ | ⟨reason, -, loaded⟩ := ways <;> simp [loaded]
  · have declared : package.cpu ∈ package.childrenOfType "Cpu" := by
      rw [package.cpus_eq]
      exact List.mem_singleton_self _
    exact List.mem_map_of_mem (List.mem_of_mem_filter declared)

/-- A package file that is well-formed but for the first half of a surrogate pair in its only element
is not refused with a record: the encoding fault leaves the loading. -/
theorem load_half_unrecorded :
    load .generic (Location.posix "/p/x.pkg")
        (.ok (pointsOf "<Package>" ++ .half 0 :: pointsOf "</Package>")) =
      ⟨[], .error (.unencodable ⟨9, [0]⟩)⟩ := by
  rfl

end Package

end AutomationIndex
