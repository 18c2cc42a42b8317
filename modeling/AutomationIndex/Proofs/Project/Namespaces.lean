import AutomationIndex.Project.UserSettings
import AutomationIndex.Project.Descriptor
import AutomationIndex.Proofs.Package.Written
import AutomationIndex.Proofs.Project.Active

/-! Namespaces make no difference: what is read from a file's elements depends on their local names,
attributes and texts only. -/

namespace AutomationIndex

open Xml

/-- Whether two elements differ in the namespaces of their tags at most, and so do the elements in
them. Each tag may have any namespace or none. -/
inductive Xml.Element.Alike : Element → Element → Prop
  | mk {localPart : List Char} {attributes : List (String × String)} {text : String}
      {children others : List Element} (uri other : Option String)
      (inner : List.Forall₂ Element.Alike children others) :
      Element.Alike ⟨fullName uri localPart, attributes, text, children⟩
        ⟨fullName other localPart, attributes, text, others⟩

namespace Xml.Element

variable {one other : Element} {ones others : List Element}

namespace Alike

/-- Elements that are alike have the same local name. -/
theorem name_eq (alike : one.Alike other) : one.name = other.name := by
  cases alike with
  | mk uri uri' =>
    exact (localName_namespaced uri _).trans (localName_namespaced uri' _).symm

/-- Elements that are alike have the same attributes. -/
theorem attribute?_eq (alike : one.Alike other) : one.attribute? = other.attribute? := by
  cases alike
  rfl

/-- Elements that are alike have the same text. -/
theorem text_eq (alike : one.Alike other) : one.text = other.text := by
  cases alike
  rfl

/-- The children of elements that are alike are alike. -/
theorem children (alike : one.Alike other) : List.Forall₂ Alike one.children other.children := by
  cases alike with
  | mk _ _ inner => exact inner

/-- The children with a local name are alike. -/
theorem childrenNamed (alike : one.Alike other) (name : String) :
    List.Forall₂ Alike (one.childrenNamed name) (other.childrenNamed name) :=
  List.rel_filter (fun _ _ same => by simp [same.name_eq]) alike.children

/-- Of elements that are alike, both have no child with a local name, or both have a first one, and
the first ones are alike. -/
theorem childrenNamed_cases (alike : one.Alike other) (name : String) :
    (one.childrenNamed name = [] ∧ other.childrenNamed name = []) ∨
    ∃ first first' rest rest', one.childrenNamed name = first :: rest ∧
      other.childrenNamed name = first' :: rest' ∧ first.Alike first' ∧
      List.Forall₂ Alike rest rest' := by
  -- Alike elements have alike children in the same order, so the selected ones pair up.
  have lists := alike.childrenNamed name
  generalize one.childrenNamed name = ones, other.childrenNamed name = others at lists ⊢
  cases lists with
  | nil => exact .inl ⟨rfl, rfl⟩
  | cons first rest => exact .inr ⟨_, _, _, _, rfl, rfl, first, rest⟩

end Alike

/-- The declaration of an object is read alike. -/
theorem readObject_alike (alike : one.Alike other) (position : Nat) :
    ChildObject.read position one = ChildObject.read position other := by
  have none : one.children.isEmpty = other.children.isEmpty := by
    rw [Bool.eq_iff_iff, List.isEmpty_iff_length_eq_zero, List.isEmpty_iff_length_eq_zero,
      alike.children.length_eq]
  simp only [ChildObject.read, alike.name_eq, none, alike.attribute?_eq, alike.text_eq]

/-- The declarations of objects are read alike. -/
theorem readObjects_alike (alike : List.Forall₂ Alike ones others) (position : Nat) :
    readObjects position ones = readObjects position others := by
  induction alike generalizing position with
  | nil => rfl
  | cons first _ ih => rw [readObjects, readObjects, readObject_alike first, ih]

/-- Root elements that are alike declare the same objects, or break the layout alike. -/
theorem declaredObjects_alike (alike : one.Alike other) :
    declaredObjects one = declaredObjects other := by
  rw [declaredObjects, declaredObjects]
  -- There are as many lists in both, and what counts is whether there is one.
  rcases alike.childrenNamed_cases "Objects" with ⟨none, none'⟩ |
    ⟨first, first', rest, rest', lists, lists', same, later⟩
  · rw [none, none']
  · rw [lists, lists']
    cases later with
    | nil => exact readObjects_alike same.children 0
    | cons _ later => simp [alike.name_eq, later.length_eq]

/-- What an attribute of the first child with a local name tells is read alike. -/
theorem firstNamed_alike (alike : one.Alike other) (name key : String) {α : Type}
    (tell : Option String → Option α) :
    (match one.childrenNamed name with
      | [] => none
      | first :: _ => tell (first.attribute? key)) =
    match other.childrenNamed name with
      | [] => none
      | first :: _ => tell (first.attribute? key) := by
  -- Only the first child of the name is asked, and for an attribute, which has no namespace.
  rcases alike.childrenNamed_cases name with ⟨none, none'⟩ |
    ⟨first, first', rest, rest', named, named', same, -⟩
  · rw [none, none']
  · simp only [named, named', same.attribute?_eq]

/-- The version of the runtime is read alike. -/
theorem runtimeOf_alike (alike : one.Alike other) : runtimeOf one = runtimeOf other :=
  firstNamed_alike alike "AutomationRuntime" "Version" Attribute.nonempty

/-- Whether the default include directories are enabled is read alike. -/
theorem defaultIncludes?_alike (alike : one.Alike other) :
    Descriptor.defaultIncludes? one = Descriptor.defaultIncludes? other :=
  firstNamed_alike alike "ANSIC" "DefaultIncludes" Attribute.flag?

/-- The configuration that a user works with is read alike. -/
theorem active?_alike (alike : one.Alike other) :
    UserSettings.active? one = UserSettings.active? other :=
  firstNamed_alike alike "ConfigurationManager" "ActiveConfigurationName" Attribute.nonempty

/-- Build settings are read alike. -/
theorem buildSettings_alike (alike : one.Alike other) :
    BuildSettings.read one = BuildSettings.read other := by
  simp only [BuildSettings.read, alike.attribute?_eq]

/-- The settings of a controller are read alike, or they break the layout alike. -/
theorem cpuSettings_alike (alike : one.Alike other) :
    CpuSettings.read one = CpuSettings.read other := by
  rw [CpuSettings.read, CpuSettings.read]
  rcases alike.childrenNamed_cases "Configuration" with ⟨none, none'⟩ |
    ⟨section₁, section₂, rest, rest', sections, sections', same, later⟩
  · rw [none, none']
  rw [sections, sections']
  cases later with
  | cons _ later => simp [later.length_eq]
  | nil =>
    -- The only section may name one build.
    simp only [same.attribute?_eq, runtimeOf_alike same]
    rcases same.childrenNamed_cases "Build" with ⟨none, none'⟩ |
      ⟨first, first', rest, rest', builds, builds', built, later⟩
    · rw [none, none']
    · rw [builds, builds']
      cases later with
      | nil => simp [buildSettings_alike built]
      | cons _ later => simp [later.length_eq]

end Xml.Element

/-- Whether two package documents say the same, up to the namespaces of their elements. -/
structure PackageDocument.Alike (one other : PackageDocument) : Prop where
  rootType : one.rootType = other.rootType
  children : one.children = other.children
  header : one.header = other.header
  root : one.root.Alike other.root

section Reading

variable {first second : Xml.Source} {one other : Element} {header : Header}

/-- Files whose elements are alike are both packages that say the same, or they are refused for the
same fault. -/
theorem packageDocument_alike (alike : one.Alike other)
    (marked : MarkedUp.read first = .ok ⟨one, header⟩)
    (marked' : MarkedUp.read second = .ok ⟨other, header⟩) :
    (∃ package package', PackageDocument.read first = .ok package ∧
      PackageDocument.read second = .ok package' ∧ package.Alike package') ∨
    ∃ fault, PackageDocument.read first = .error fault ∧
      PackageDocument.read second = .error fault := by
  -- The declared objects are equal, so both readings fail alike or give alike packages.
  simp only [PackageDocument.read, marked, marked', Element.declaredObjects_alike alike]
  cases declaredObjects other with
  | error fault => exact .inr ⟨_, rfl, rfl⟩
  | ok children => exact .inl ⟨_, _, rfl, rfl, ⟨alike.name_eq, rfl, rfl, alike⟩⟩

/-- Files whose elements are alike are the same package in every role, or they are refused for the
same fault. -/
theorem package_alike (alike : one.Alike other)
    (marked : MarkedUp.read first = .ok ⟨one, header⟩)
    (marked' : MarkedUp.read second = .ok ⟨other, header⟩) (role : Role) (file : Location) :
    Package.read role file first = Package.read role file second := by
  rcases packageDocument_alike alike marked marked' with
    ⟨package, package', read, read', same⟩ | ⟨fault, read, read'⟩
  -- Each role reads the type, the objects and the settings, and none of them has a namespace.
  · have files : package.toFile file = package'.toFile file := by
      rw [PackageDocument.toFile, same.rootType, same.children, same.header]
      rfl
    have settings := Element.cpuSettings_alike same.root
    cases role <;>
      simp only [Package.read, PhysicalPackage.read, ConfigurationPackage.read, CpuPackage.read,
        read, read', bind, Except.bind, Except.map, files, settings]
  · cases role <;>
      simp only [Package.read, PhysicalPackage.read, ConfigurationPackage.read, CpuPackage.read,
        read, read', bind, Except.bind]

end Reading

/-- Two trees of elements that differ in the namespaces of their tags only make no difference to any
reader. The settings of a controller that they give are the same or break the layout alike, and of
files with such trees and the same versions the same is read, or they are refused for the same
fault: as package documents, as packages in any role, as project descriptors and as user settings. -/
theorem namespaces_ignored {one other : Element} (alike : one.Alike other) :
    CpuSettings.read one = CpuSettings.read other ∧
    ∀ first second header, MarkedUp.read first = .ok ⟨one, header⟩ →
      MarkedUp.read second = .ok ⟨other, header⟩ →
      ((∃ package package', PackageDocument.read first = .ok package ∧
          PackageDocument.read second = .ok package' ∧ package.Alike package') ∨
        ∃ fault, PackageDocument.read first = .error fault ∧
          PackageDocument.read second = .error fault) ∧
      ∀ file, (∀ role, Package.read role file first = Package.read role file second) ∧
        Descriptor.read file first = Descriptor.read file second ∧
        UserSettings.read file first = UserSettings.read file second := by
  -- Each reader is settled on its own; all of them read local names and attributes.
  refine ⟨Element.cpuSettings_alike alike, fun first second header marked marked' => ?_⟩
  refine ⟨packageDocument_alike alike marked marked', fun file => ?_⟩
  refine ⟨fun role => package_alike alike marked marked' role file, ?_, ?_⟩
  · simp only [Descriptor.read, marked, marked', bind, Except.bind, alike.name_eq,
      alike.attribute?_eq, Element.defaultIncludes?_alike alike]
  · simp only [UserSettings.read, marked, marked', bind, Except.bind, alike.name_eq,
      Element.active?_alike alike]

/-- Settings that name a configuration, written in a namespace. -/
def spacedSettings : String :=
  String.ofList (documentText "AutomationStudio".toList [] "ProjectSettings".toList
    (some "urn:settings".toList) (Project.managerText "A"))

/-- Settings that are written in a namespace name the configuration that those which are written in
none name. -/
theorem namespaces_ignored_settings :
    MarkedUp.read (.ofText (Project.settingsText "A")) =
      .ok ⟨Project.settingsRoot none "A", {}⟩ ∧
    MarkedUp.read (.ofText spacedSettings) =
      .ok ⟨Project.settingsRoot (some "urn:settings".toList) "A", {}⟩ ∧
    CpuSettings.read (Project.settingsRoot none "A") =
      CpuSettings.read (Project.settingsRoot (some "urn:settings".toList) "A") ∧
    ∀ file, ∃ settings, UserSettings.read file (.ofText (Project.settingsText "A")) = .ok settings ∧
      UserSettings.read file (.ofText spacedSettings) = .ok settings ∧
      settings.active = some "A" := by
  -- One text has no namespace and the other a plain one, so both are read as written.
  have unbound : ∀ text ∈ (none : Option (List Char)), IsNamespace text ∧ IsReadable text := by
    rintro _ ⟨⟩
  have bound : ∀ text ∈ some "urn:settings".toList, IsNamespace text ∧ IsReadable text := by
    rintro _ ⟨⟩
    exact ⟨⟨by decide, by decide, by decide⟩, by decide⟩
  have readable : IsReadable "A".toList := by decide
  have marked := Project.settings_marked unbound readable String.toList_ofList
  have marked' := Project.settings_marked bound readable String.toList_ofList
  -- The roots differ in the namespace of their names alone.
  have alike : (Project.settingsRoot none "A").Alike
      (Project.settingsRoot (some "urn:settings".toList) "A") :=
    .mk _ _ (.cons (.mk _ _ .nil) .nil)
  obtain ⟨controller, readers⟩ := namespaces_ignored alike
  obtain ⟨-, same⟩ := readers _ _ _ marked marked'
  refine ⟨marked, marked', controller, fun file => ?_⟩
  obtain ⟨-, -, settingsSame⟩ := same file
  obtain ⟨settings, read, active⟩ :=
    UserSettings.read_active_iff.mpr (Project.settingsText_tellsActive (by decide) readable)
  exact ⟨settings, read, settingsSame.symm.trans read, active⟩

end AutomationIndex
