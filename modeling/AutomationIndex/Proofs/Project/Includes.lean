import AutomationIndex.Proofs.Package.Acceptance
import AutomationIndex.Proofs.Package.Items
import AutomationIndex.Proofs.Project.Styles
import Mathlib.Data.List.Destutter

/-! The search order of include directories: leaving out repeats never changes what is found first, and
lists of directories are joined as the attribute values that declare them are. -/

namespace AutomationIndex

open Location

section Repeats

variable {α : Type}

/-- An element looks only at what is left of the elements after it. -/
theorem dropRepeats_cons_congr {same : α → α → Bool} {rest other : List α}
    (left : dropRepeats same rest = dropRepeats same other) (a : α) :
    dropRepeats same (a :: rest) = dropRepeats same (a :: other) := by
  rw [dropRepeats, dropRepeats, left]

variable [BEq α] [LawfulBEq α] [DecidableEq α]

/-- Leaving out the elements that equal the one before them keeps the greedy chain of different
neighbours. -/
theorem dropRepeats_eq_destutter (elements : List α) :
    dropRepeats (· == ·) elements = elements.destutter (· ≠ ·) := by
  -- Both lists begin with the first element, and the second one decides how they go on.
  induction elements with
  | nil => rfl
  | cons a rest ih =>
    cases rest with
    | nil => rfl
    | cons b rest =>
      rw [dropRepeats_cons_cons, ih, List.destutter_cons_cons]
      by_cases repeated : a = b
      · subst repeated
        obtain ⟨kept, first⟩ := dropRepeats_cons (· == ·) a rest
        rw [ih, List.destutter_cons'] at first
        simp [List.destutter_cons', first]
      · simp [repeated, List.destutter_cons']

/-- The first element that is wanted is the same without repeats. -/
theorem find?_dropRepeats (wanted : α → Bool) (elements : List α) :
    (dropRepeats (· == ·) elements).find? wanted = elements.find? wanted := by
  induction elements with
  | nil => rfl
  | cons a rest ih =>
    cases rest with
    | nil => rfl
    | cons b rest =>
      rw [dropRepeats_cons_cons]
      by_cases repeated : a = b
      · -- An element that is left out is wanted only if the one before it is.
        subst repeated
        obtain ⟨kept, first⟩ := dropRepeats_cons (· == ·) a rest
        rw [first] at ih ⊢
        cases here : wanted a <;> simp [here] at ih ⊢
        exact ih
      · simp [repeated, List.find?_cons, ih]

/-- Leaving out repeats first in the second part of a list changes nothing. -/
theorem dropRepeats_append_right (first second : List α) :
    dropRepeats (· == ·) (first ++ dropRepeats (· == ·) second) =
      dropRepeats (· == ·) (first ++ second) := by
  induction first with
  -- After dropping repeats twice nothing more is dropped; in front of it only neighbours matter.
  | nil =>
    simp only [List.nil_append, dropRepeats_eq_destutter]
    exact List.destutter_idem second _
  | cons a rest ih => exact dropRepeats_cons_congr ih a

/-- Leaving out repeats first in the first part of a list changes nothing. -/
theorem dropRepeats_append_left (first second : List α) :
    dropRepeats (· == ·) (dropRepeats (· == ·) first ++ second) =
      dropRepeats (· == ·) (first ++ second) := by
  induction first with
  | nil => rfl
  | cons a rest ih =>
    cases rest with
    | nil => rfl
    | cons b rest =>
      rw [dropRepeats_cons_cons]
      by_cases repeated : a = b
      · -- The repeated element is left out on both sides, and its neighbour begins the rest.
        subst repeated
        obtain ⟨kept, begins⟩ := dropRepeats_cons (· == ·) a rest
        obtain ⟨further, onward⟩ := dropRepeats_cons (· == ·) a (rest ++ second)
        rw [begins] at ih ⊢
        simp only [beq_self_eq_true, if_true, List.tail_cons, List.cons_append,
          dropRepeats_cons_cons] at ih ⊢
        rw [ih, onward]
        rfl
      · simp only [beq_eq_false_iff_ne.mpr repeated, Bool.false_eq_true, if_false]
        exact dropRepeats_cons_congr ih a

end Repeats

namespace Location

/-- In posix style names count as the same only if they are. -/
theorem sameNames_posix : sameNames .posix = fun first second => first == second := by
  have plain : PathStyle.folded .posix = id := rfl
  funext first second
  simp [sameNames, plain]

/-- Below a posix root, locations that repeat the one before them have repeated names. -/
theorem dropRepeats_below {root : Location} (posix : root.style = .posix)
    (names : List (List String)) : dropRepeats Location.same (names.map root.below) =
      (dropRepeats (· == ·) names).map root.below := by
  simp only [dropRepeats_map, same_below, posix, sameNames_posix]

end Location

/-- Build settings are those of an element in the section for the controller. -/
theorem CpuSettings.build_of_read {element : Xml.Element} {settings : CpuSettings}
    {build : BuildSettings} (read : CpuSettings.read element = .ok settings)
    (built : settings.build = some build) : ∃ inner, BuildSettings.read inner = build := by
  unfold CpuSettings.read at read
  split at read
  · -- Without the section there are no build settings.
    injection read with same
    rw [← same] at built
    cases built
  · split at read
    · cases read
    · injection read with same
      rw [← same] at built
      obtain ⟨inner, -, equal⟩ := Option.map_eq_some_iff.mp built
      exact ⟨inner, equal⟩
  · cases read

namespace CpuPackage

variable {p first second : CpuPackage} {root : Location}

/-- Whether the build settings of a controller are read from an element that names its include
directories by an attribute value, or by none. -/
def Declares (p : CpuPackage) (value : Option String) : Prop :=
  ∃ element : Xml.Element, p.settings.build = some (BuildSettings.read element) ∧
    element.attribute? "AnsicIncludeDirectories" = value

/-- Every package that is read with build settings has them from an element. -/
theorem declares_of_read {file : Location} {source : Xml.Source} {build : BuildSettings}
    (read : CpuPackage.read file source = .ok p) (built : p.settings.build = some build) :
    ∃ value, p.Declares value := by
  -- The build section comes from the document's own settings, which declare its value.
  simp only [CpuPackage.read, exceptBind_ok_iff, mapError_ok_iff] at read
  obtain ⟨document, -, settings, sections, checked⟩ := read
  rw [RoleFault.inFile, mapError_ok_iff, CpuPackage.check_ok_iff] at checked
  obtain ⟨-, -, same⟩ := checked
  rw [same] at built
  obtain ⟨element, rfl⟩ := CpuSettings.build_of_read sections built
  exact ⟨_, element, same ▸ built, rfl⟩

/-- The fragments of the include directories are the visible fields of what is declared. -/
theorem Declares.fragments_eq {value : Option String} (declares : p.Declares value) :
    p.fragments = (Attribute.visibleFields ';' (value.getD "")).map Text.strip := by
  obtain ⟨element, built, rfl⟩ := declares
  rw [fragments, built, ← Attribute.itemsBetween_single]
  rfl

/-- With repeats there is one include directory for each fragment. -/
theorem includeDirectories_all (p : CpuPackage) (root : Location) :
    p.includeDirectories false root = p.fragments.map root.joinProjectRelative := by
  rw [includeDirectories, fragments]
  cases p.settings.build <;> rfl

/-- With repeats the names of include directories are the segments of the fragments. -/
theorem includeNames_all (p : CpuPackage) (style : PathStyle) :
    p.includeNames false style = p.fragments.map (fragmentSegments style) :=
  rfl

/-- The list without repeats is what leaving out repeats makes of the list with them. -/
theorem includeDirectories_deduped (p : CpuPackage) (root : Location) :
    p.includeDirectories true root =
      dropRepeats Location.same (p.includeDirectories false root) := by
  rw [includeDirectories, includeDirectories]
  cases p.settings.build <;> rfl

/-- Include directories are the project root or lie below it. -/
theorem includeDirectories_within (p : CpuPackage) (dedupe : Bool) (root : Location) :
    ∀ l ∈ p.includeDirectories dedupe root, l = root ∨ l.LiesBelow root := by
  intro l member
  rw [includeDirectories_eq] at member
  obtain ⟨names, -, rfl⟩ := List.mem_map.mp member
  -- Only without names is the location the root itself.
  by_cases none : names = []
  · exact .inl (none ▸ root.below_nil)
  · exact .inr ((below_liesBelow_iff root names).mpr none)

/-- Include directories by the names below a posix root that they have with repeats. -/
theorem includeDirectories_posix (p : CpuPackage) (posix : root.style = .posix) :
    p.includeDirectories false root = (p.includeNames false .posix).map root.below ∧
      p.includeDirectories true root =
        (dropRepeats (· == ·) (p.includeNames false .posix)).map root.below := by
  -- Below one root distinct names are distinct directories, so repeats are the repeats of the
  -- names.
  have listed := p.includeDirectories_eq false root
  rw [posix] at listed
  rw [includeDirectories_deduped, listed, dropRepeats_below posix]
  exact ⟨rfl, rfl⟩

/-- Below a posix root, the list without repeats keeps of the list with them the greedy chain of
different neighbours. -/
theorem includeDirectories_destutter (p : CpuPackage) (posix : root.style = .posix) :
    p.includeDirectories true root = (p.includeDirectories false root).destutter (· ≠ ·) := by
  have injective : Function.Injective root.below := fun _ _ => below_inj.mp
  obtain ⟨listed, left⟩ := p.includeDirectories_posix posix
  rw [listed, left, dropRepeats_eq_destutter]
  exact List.map_destutter_ne _ injective

/-- Where the value of a package is that of two others with a semicolon between them, its fragments are
those of the one and then those of the other. -/
theorem Declares.fragments_append {a b : String} (whole : p.Declares (some (a ++ ";" ++ b)))
    (left : first.Declares (some a)) (right : second.Declares (some b)) :
    p.fragments = first.fragments ++ second.fragments := by
  rw [whole.fragments_eq, left.fragments_eq, right.fragments_eq, ← List.map_append]
  exact congrArg _ (Attribute.visibleFields_divided ';' a b)

/-- Leaving out repeats never changes which include directory is found first. For every project root in
posix style and every controller's package, the list with repeats has one directory for each visible
field of the value that is declared, in order, all of them at the root or below; the list without
repeats leaves some of these out, has no equal neighbours, is not shortened again, and has the same
first directory for every question; and where a semicolon stands between two values, it comes from the
lists of the two. -/
theorem includeDirectories_search (posix : root.style = .posix) :
    (∀ p : CpuPackage,
      let all := p.includeDirectories false root
      let kept := p.includeDirectories true root
      (∀ l ∈ all, l = root ∨ l.LiesBelow root) ∧ kept.Sublist all ∧
      (kept.IsChain fun a b => a.same b = false) ∧
      (∀ wanted : Location → Bool, kept.find? wanted = all.find? wanted) ∧
      dropRepeats Location.same kept = kept) ∧
    (∀ (p : CpuPackage) value, p.Declares value → p.includeDirectories false root =
      (Attribute.visibleFields ';' (value.getD "")).map fun field =>
        root.joinProjectRelative (Text.strip field)) ∧
    (∀ file source (p : CpuPackage) build, CpuPackage.read file source = .ok p →
      p.settings.build = some build → ∃ value, p.Declares value) ∧
    ∀ (p first second : CpuPackage) (a b : String), p.Declares (some (a ++ ";" ++ b)) →
      first.Declares (some a) → second.Declares (some b) →
        p.includeDirectories true root = dropRepeats Location.same
          (first.includeDirectories true root ++ second.includeDirectories true root) := by
  refine ⟨?_, ?_, fun _ _ _ _ => declares_of_read, ?_⟩
  · intro p
    have within := p.includeDirectories_within false root
    obtain ⟨listed, left⟩ := p.includeDirectories_posix posix
    -- What is listed below one root is compared by its names.
    rw [listed] at within ⊢
    rw [left]
    generalize p.includeNames false .posix = names at within
    refine ⟨within, ?_, ?_, fun wanted => ?_, ?_⟩
    · rw [dropRepeats_eq_destutter]
      exact (List.destutter_sublist _ names).map root.below
    · rw [List.isChain_map, dropRepeats_eq_destutter]
      refine (List.isChain_destutter _ names).imp fun a b different => ?_
      simp [same_below, posix, sameNames_posix, different]
    · rw [List.find?_map, List.find?_map, find?_dropRepeats]
    · simp only [dropRepeats_below posix, dropRepeats_eq_destutter, List.destutter_idem]
  · intro p value declares
    simp only [includeDirectories_all, declares.fragments_eq, List.map_map, Function.comp_def]
  · intro p first second a b whole left right
    have names : p.includeNames false .posix =
        first.includeNames false .posix ++ second.includeNames false .posix := by
      rw [includeNames_all, includeNames_all, includeNames_all,
        Declares.fragments_append whole left right, List.map_append]
    rw [(p.includeDirectories_posix posix).2, (first.includeDirectories_posix posix).2,
      (second.includeDirectories_posix posix).2, ← List.map_append, dropRepeats_below posix,
      dropRepeats_append_left, dropRepeats_append_right, names]

/-- A controller's package that declares include directories by a value. -/
def declaring (value : String) : CpuPackage where
  -- The settings are those of a build section with the value and nothing else.
  file := Location.posix "/proj/Physical/C1/X20/Cpu.pkg"
  rootType := "Cpu"
  children := []
  header := {}
  settings := { build := some (BuildSettings.read
    (.mk "Build" [("AnsicIncludeDirectories", value)] "" [])) }
  root_eq := rfl

/-- The package declares that value. -/
theorem declaring_declares (value : String) : (declaring value).Declares (some value) :=
  ⟨_, rfl, rfl⟩

/-- Three spellings of one directory in a row are one directory, and it is listed again after another
one. -/
theorem includeDirectories_search_declaring :
    let root := Location.posix "/proj"
    let whole := declaring "Inc;../Inc; ;/Inc/;Lib;Inc"
    root.style = .posix ∧
      whole.includeDirectories false root = (["Inc", "../Inc", "/Inc/", "Lib", "Inc"]).map
        root.joinProjectRelative ∧
      whole.includeDirectories true root = [root / "Inc", root / "Lib", root / "Inc"] ∧
      (whole.includeDirectories true root).find? (·.name == "Lib") =
        (whole.includeDirectories false root).find? (·.name == "Lib") ∧
      whole.includeDirectories true root = dropRepeats Location.same
        ((declaring "Inc;../Inc; ").includeDirectories true root ++
          (declaring "/Inc/;Lib;Inc").includeDirectories true root) := by
  intro root whole
  have posix : root.style = .posix := by decide
  -- The list holds a repeat through a step up and one across an empty part.
  obtain ⟨lists, listed, -, joined⟩ := includeDirectories_search posix
  have split := joined whole _ _ "Inc;../Inc; " "/Inc/;Lib;Inc" (declaring_declares _)
    (declaring_declares _) (declaring_declares _)
  refine ⟨posix, ?_, ?_, ?_, split⟩
  · rw [listed whole _ (declaring_declares _)]
    decide
  · decide +kernel
  · exact (lists whole).2.2.2.1 _

end CpuPackage

end AutomationIndex
