import AutomationIndex.Package.Role
import AutomationIndex.Project.BuildInfo
import AutomationIndex.Proofs.Location.Fragment
import Mathlib.Data.List.Forall2

/-! A project's fragments in the two path styles: drives are passed over in one of them and are
directories in the other, and when both lead to the same place below the root all the same. -/

namespace AutomationIndex

open Location

namespace Location

variable {fields first second : List String} {field : String}

/-- Whether fields have no separators of either style. -/
def AreApart (fields : List String) : Prop :=
  ∀ field ∈ fields, ∀ c ∈ field.toList, c ≠ '/' ∧ c ≠ '\\'

/-- The fields of a fragment have no separators. -/
theorem fragmentFields_areApart (fragment : String) : AreApart (fragmentFields fragment) :=
  fun _ member => (fragmentFields_plain member).2

/-- In posix style a field that opens with a drive is as good as any. -/
theorem isOrdinary_drive (apart : ∀ c ∈ field.toList, c ≠ '/' ∧ c ≠ '\\')
    (drive : opensDrive field.toList = true) : isOrdinary .posix field = true := by
  have unanchored : (ofText .posix field).isAnchored = false := isAnchored_apart apart
  -- The second character is a colon, so the field is neither blank nor made of dots.
  have named : field ≠ "" ∧ field ≠ "." ∧ field ≠ ".." := by
    refine ⟨?_, ?_, ?_⟩ <;> rintro rfl <;> cases drive
  simp [isOrdinary_iff, isPassedOver, named, unanchored]

/-- In windows style a field that opens with a drive is passed over, and any other field is read as
in posix style. -/
theorem step_windows (apart : ∀ c ∈ field.toList, c ≠ '/' ∧ c ≠ '\\') (kept : List String) :
    fragmentSegments.step .windows kept field =
      if opensDrive field.toList then kept else fragmentSegments.step .posix kept field := by
  have windows : (ofText .windows field).isAnchored = opensDrive field.toList :=
    isAnchored_apart apart
  have posix : (ofText .posix field).isAnchored = false := isAnchored_apart apart
  -- The styles ask the same of a field in all but its anchor.
  simp only [fragmentSegments.step, windows, posix]
  cases opensDrive field.toList <;> simp

/-- What windows style leaves of fields is what posix style leaves of them without their drives. -/
theorem reads_windows_iff (apart : AreApart fields) : Reads .windows fields second ↔
    Reads .posix (fields.filter fun field => !opensDrive field.toList) second := by
  have folded : fields.foldl (fragmentSegments.step .windows) [] =
      (fields.filter fun field => !opensDrive field.toList).foldl
        (fragmentSegments.step .posix) [] := by
    -- Leaving a field out is the step that changes nothing.
    rw [List.foldl_filter]
    refine List.foldl_ext _ _ _ fun kept field member => ?_
    rw [step_windows (apart field member)]
    cases opensDrive field.toList <;> simp
  rw [reads_iff, reads_iff, folded]

/-- Whether posix style comes back to the root after each field that opens with a drive. -/
def ReturnsAfterDrives (fields : List String) : Prop :=
  ∀ before drive after, fields = before ++ drive :: after → opensDrive drive.toList = true →
    ∃ back, back <+: after ∧ Reads .posix (before ++ drive :: back) []

/-- After one more field, posix style has come back from the drives if the field opens with none and
either it had before or it is back at the root now. -/
theorem returnsAfterDrives_concat_iff (apart : AreApart (fields ++ [field])) :
    ReturnsAfterDrives (fields ++ [field]) ↔ opensDrive field.toList = false ∧
      (ReturnsAfterDrives fields ∨ Reads .posix (fields ++ [field]) []) := by
  constructor
  · intro returns
    refine ⟨Bool.eq_false_iff.mpr fun drive => ?_, or_iff_not_imp_right.mpr fun away => ?_⟩
    · -- The segment of a drive that comes last is left.
      obtain ⟨back, none, reads⟩ := returns fields field [] rfl drive
      rw [List.prefix_nil.mp none, reads_iff, List.foldl_concat,
        step_ordinary (isOrdinary_drive (apart field (by simp)) drive)] at reads
      simp at reads
    · -- An earlier drive is left on the way that comes back from it, or by the last field.
      rintro before drive after rfl opens
      obtain ⟨back, starts, reads⟩ := returns before drive (after ++ [field]) (by simp) opens
      rcases List.prefix_concat_iff.mp starts with rfl | shorter
      · exact absurd (by simpa using reads) away
      · exact ⟨back, shorter, reads⟩
  · rintro ⟨plain, cause⟩ before drive after parted opens
    -- The last field is no drive, so the drive is one of those before it.
    rcases List.eq_nil_or_concat' after with rfl | ⟨others, last, rfl⟩
    · obtain ⟨-, rfl⟩ := List.append_inj' parted rfl |>.imp_right List.singleton_inj.mp
      rw [plain] at opens
      cases opens
    · have same : fields = before ++ drive :: others ∧ field = last := by
        have both : fields ++ [field] = (before ++ drive :: others) ++ [last] := by simpa using parted
        exact (List.append_inj' both rfl).imp_right List.singleton_inj.mp
      obtain ⟨rfl, rfl⟩ := same
      rcases cause with returns | home
      · obtain ⟨back, starts, reads⟩ := returns before drive others rfl opens
        exact ⟨back, starts.trans (List.prefix_append _ _), reads⟩
      · exact ⟨others ++ [field], List.prefix_rfl, by simpa using home⟩

/-- One field keeps more segments ahead of fewer, unless it takes away the last of both. -/
theorem step_shorter {first second : List String} (shorter : second.length < first.length)
    (field : String) :
    fragmentSegments.step .posix first field = [] ∧
        fragmentSegments.step .posix second field = [] ∨
      (fragmentSegments.step .posix second field).length <
        (fragmentSegments.step .posix first field).length := by
  rcases field_cases .posix field with passed | rfl | ordinary
  · -- Nothing changes on either side.
    rw [step_passedOver passed, step_passedOver passed]
    exact .inr shorter
  · -- Each side loses a segment if it has any, so only the longer one can have some left.
    rw [step_up, step_up]
    by_cases none : first.dropLast = []
    · have few := congrArg List.length none
      rw [List.length_dropLast, List.length_nil] at few
      have empty : second = [] := List.eq_nil_of_length_eq_zero (by omega)
      exact .inl ⟨none, by rw [empty, List.dropLast_nil]⟩
    · have some := List.length_pos_iff.mpr none
      rw [List.length_dropLast] at some
      rw [List.length_dropLast, List.length_dropLast]
      omega
  · -- Both sides gain the field.
    rw [step_ordinary ordinary, step_ordinary ordinary]
    exact .inr (by simpa using shorter)

/-- Both styles leave the same of the fields and posix style has come back from the drives, or windows
style leaves less of them and posix style has not. -/
theorem reads_compared (apart : AreApart fields) (posix : Reads .posix fields first)
    (windows : Reads .windows fields second) :
    first = second ∧ ReturnsAfterDrives fields ∨
      second.length < first.length ∧ ¬ ReturnsAfterDrives fields := by
  -- The induction follows both readings, field by field.
  rw [reads_iff] at posix windows
  subst posix windows
  induction fields using List.reverseRecOn with
  | nil => exact .inl ⟨rfl, fun before drive after parted => by simp at parted⟩
  | append_singleton read field ih =>
    have here := apart field (by simp)
    have before := ih fun other member => apart other (List.mem_append_left _ member)
    rw [returnsAfterDrives_concat_iff apart, reads_iff]
    simp only [List.foldl_concat, step_windows here]
    generalize read.foldl (fragmentSegments.step .posix) [] = first at before ⊢
    generalize read.foldl (fragmentSegments.step .windows) [] = second at before ⊢
    cases drive : opensDrive field.toList with
    | true =>
      -- A drive makes the one reading longer and leaves the other alone.
      right
      rw [if_pos rfl, step_ordinary (isOrdinary_drive here drive), List.length_append,
        List.length_singleton]
      refine ⟨?_, fun both => by simp at both⟩
      rcases before with ⟨rfl, -⟩ | ⟨shorter, -⟩ <;> omega
    | false =>
      simp only [Bool.false_eq_true, if_false, true_and]
      rcases before with ⟨rfl, returned⟩ | ⟨shorter, away⟩
      · exact .inl ⟨rfl, .inl returned⟩
      · -- The lengths stay apart until both readings are back at the root.
        rcases step_shorter shorter field with ⟨home, none⟩ | still
        · exact .inl ⟨home.trans none.symm, .inr home⟩
        · refine .inr ⟨still, fun returned => ?_⟩
          rw [returned.resolve_left away] at still
          exact Nat.not_lt_zero _ still

/-- The segments of a fragment are the same in both styles exactly if posix style comes back to the
root after each drive that the fragment names. -/
theorem fragmentSegments_eq_iff (fragment : String) :
    fragmentSegments .posix fragment = fragmentSegments .windows fragment ↔
      ReturnsAfterDrives (fragmentFields fragment) := by
  rcases reads_compared (fragmentFields_areApart fragment) (fragmentSegments_reads .posix fragment)
    (fragmentSegments_reads .windows fragment) with ⟨same, returns⟩ | ⟨shorter, away⟩
  · simp [same, returns]
  -- Lists of different lengths are not the same.
  · refine iff_of_false (fun same => ?_) away
    rw [same] at shorter
    exact Nat.lt_irrefl _ shorter

/-- Whether a style compares names as the same. -/
def sameNames (style : PathStyle) (first second : List String) : Bool :=
  first.map style.folded == second.map style.folded

/-- Locations below one root count as the same exactly if the names below it do. -/
theorem same_below (root : Location) (first second : List String) :
    (root.below first).same (root.below second) = sameNames root.style first second := by
  have folded (names : List String) : (root.below names).foldedParts =
      root.parts.map root.style.folded ++ names.map root.style.folded := by
    rw [foldedParts, parts_below, List.map_append]
    rfl
  -- The parts of the root are in front on both sides.
  rw [same, folded, folded, sameNames, Bool.eq_iff_iff]
  simp [below]

/-- Whether a location lies below one root as another does below another root. -/
def AreAlikeBelow (root other l m : Location) : Prop :=
  ∃ names, l = root.below names ∧ m = other.below names

/-- What lies below two roots is alike exactly if it has the same names there. -/
theorem areAlikeBelow_iff {root other : Location} : AreAlikeBelow root other (root.below first)
    (other.below second) ↔ first = second := by
  simp only [AreAlikeBelow, below_inj]
  constructor
  · rintro ⟨names, rfl, rfl⟩
    rfl
  · rintro rfl
    exact ⟨first, rfl, rfl⟩

end Location

section Repeats

variable {α β : Type} {same : α → α → Bool}

/-- The first element stays the first. -/
theorem dropRepeats_cons (same : α → α → Bool) (a : α) (rest : List α) :
    ∃ kept, dropRepeats same (a :: rest) = a :: kept := by
  -- The head is dropped only for an equal one behind it that takes its place.
  unfold dropRepeats
  cases dropRepeats same rest with
  | nil => exact ⟨[], rfl⟩
  | cons b kept =>
    dsimp only
    split <;> exact ⟨_, rfl⟩

/-- An element that the next one repeats takes its place, and any other is added. -/
theorem dropRepeats_cons_cons (same : α → α → Bool) (a b : α) (rest : List α) :
    dropRepeats same (a :: b :: rest) =
      if same a b then a :: (dropRepeats same (b :: rest)).tail
      else a :: dropRepeats same (b :: rest) := by
  obtain ⟨kept, first⟩ := dropRepeats_cons same b rest
  rw [dropRepeats, first]
  rfl

/-- Repeats among images are those among the elements that have the same images. -/
theorem dropRepeats_map (same : β → β → Bool) (image : α → β) (elements : List α) :
    dropRepeats same (elements.map image) =
      (dropRepeats (fun a b => same (image a) (image b)) elements).map image := by
  -- The comparison is carried back along `image`, so both sides drop at the same places.
  induction elements with
  | nil => rfl
  | cons a rest ih =>
    rw [List.map_cons, dropRepeats, dropRepeats, ih]
    cases dropRepeats _ rest with
    | nil => rfl
    | cons b kept =>
      rw [List.map_cons]
      dsimp only
      split <;> rfl

/-- A comparison that takes more for the same keeps fewer elements, and as many exactly if neighbours
that it takes for the same are equal. -/
theorem dropRepeats_compared [BEq α] [LawfulBEq α] (reflexive : ∀ a, same a a = true) (elements : List α) :
    (dropRepeats same elements).length ≤ (dropRepeats (· == ·) elements).length ∧
      (dropRepeats (· == ·) elements = dropRepeats same elements ↔
        elements.IsChain fun a b => same a b = true → a = b) := by
  induction elements with
  | nil => simp [dropRepeats]
  | cons a rest ih =>
    cases rest with
    | nil => simp [dropRepeats]
    | cons b rest =>
      obtain ⟨fewer, equal⟩ := ih
      -- Both lists go on with the second element, so only the first two are compared.
      rw [dropRepeats_cons_cons, dropRepeats_cons_cons, List.isChain_cons_cons, ← equal]
      obtain ⟨kept, exact⟩ := dropRepeats_cons (· == ·) b rest
      obtain ⟨others, loose⟩ := dropRepeats_cons same b rest
      rw [exact, loose] at fewer ⊢
      simp only [List.length_cons, List.tail_cons, List.cons.injEq, true_and] at fewer ⊢
      by_cases repeated : a = b
      · subst repeated
        simp [reflexive, fewer]
      · cases alike : same a b with
        | false => simp [repeated, fewer]
        | true =>
          -- Here one comparison keeps the element and the other does not.
          simp only [repeated, beq_iff_eq, if_false, if_true, List.length_cons]
          refine ⟨by omega, iff_of_false (fun as => ?_) (by simp)⟩
          have long := congrArg List.length as
          simp only [List.length_cons] at long
          omega

end Repeats

namespace CpuPackage

/-- The fragments that name include directories, in order. -/
def fragments (p : CpuPackage) : List String :=
  (p.settings.build.map (·.includeFragments)).getD []

/-- The names of the include directories below the project root, as they are listed in a style. -/
def includeNames (p : CpuPackage) (dedupe : Bool) (style : PathStyle) : List (List String) :=
  let names := p.fragments.map (fragmentSegments style)
  if dedupe then dropRepeats (sameNames style) names else names

/-- The include directories are the locations of their names below the project root. -/
theorem includeDirectories_eq (p : CpuPackage) (dedupe : Bool) (root : Location) :
    p.includeDirectories dedupe root = (p.includeNames dedupe root.style).map root.below := by
  -- Joining a fragment is going below the root by its segments.
  have joined : ∀ fragments : List String, fragments.map root.joinProjectRelative =
      (fragments.map (fragmentSegments root.style)).map root.below := by
    intro fragments
    rw [List.map_map]
    exact List.map_congr_left fun fragment _ => joinProjectRelative_eq root fragment
  rw [includeDirectories, includeNames, fragments]
  cases p.settings.build with
  | none => cases dedupe <;> rfl
  | some build =>
    cases dedupe with
    | false => exact joined _
    | true =>
      simp only [if_true, joined, dropRepeats_map, same_below]
      rfl

/-- With repeats, the names of include directories are the same in both styles exactly if posix style
comes back to the root after each drive that a fragment names. -/
theorem includeNames_eq_iff (p : CpuPackage) :
    p.includeNames false .posix = p.includeNames false .windows ↔
      ∀ fragment ∈ p.fragments, ReturnsAfterDrives (fragmentFields fragment) := by
  simp only [includeNames, Bool.false_eq_true, if_false, List.map_inj_left, fragmentSegments_eq_iff]

/-- Where every fragment means the same in both styles, they list the same without repeats exactly if
no fragment differs from the next one by the case of letters only. -/
theorem includeNames_deduped_eq_iff (p : CpuPackage)
    (agree : p.includeNames false .posix = p.includeNames false .windows) :
    p.includeNames true .posix = p.includeNames true .windows ↔
      (p.includeNames false .posix).IsChain fun first second =>
        sameNames .windows first second = true → first = second := by
  have exact : sameNames .posix = fun first second => first == second := by
    funext first second
    have plain : PathStyle.folded .posix = id := rfl
    simp [sameNames, plain]
  simp only [includeNames, Bool.false_eq_true, if_false, if_true] at agree ⊢
  -- Both styles drop repeats from the same list, each by its own comparison.
  rw [← agree, exact]
  have reflexive (names : List String) : sameNames .windows names names = true := beq_self_eq_true _
  exact (dropRepeats_compared reflexive _).2

end CpuPackage

/-- A fragment is joined to project roots of both styles alike exactly if posix style comes back to the
root after each drive that it names, since windows style passes over drives and posix style takes them
for directories. So references lead to the same place in both styles exactly then, and include
directories are the same exactly if this holds of each of their fragments. Where repeats are dropped,
windows style drops more: those that differ by the case of letters too. -/
theorem styles_compared {root other : Location} (posix : root.style = .posix)
    (windows : other.style = .windows) :
    (∀ fragment, ∃ first second, Reads .posix (fragmentFields fragment) first ∧
      Reads .posix ((fragmentFields fragment).filter fun field => !opensDrive field.toList) second ∧
      root.joinProjectRelative fragment = root.below first ∧
      other.joinProjectRelative fragment = other.below second ∧
      (AreAlikeBelow root other (root.joinProjectRelative fragment)
          (other.joinProjectRelative fragment) ↔
        ReturnsAfterDrives (fragmentFields fragment))) ∧
      (∀ (object : ChildObject) (file otherFile : Location), object.isReference = true →
        (AreAlikeBelow root other (object.location root file) (object.location other otherFile) ↔
          ReturnsAfterDrives (fragmentFields object.name))) ∧
      ∀ package : CpuPackage,
        (List.Forall₂ (AreAlikeBelow root other) (package.includeDirectories false root)
            (package.includeDirectories false other) ↔
          ∀ fragment ∈ package.fragments, ReturnsAfterDrives (fragmentFields fragment)) ∧
        ((∀ fragment ∈ package.fragments, ReturnsAfterDrives (fragmentFields fragment)) →
          (List.Forall₂ (AreAlikeBelow root other) (package.includeDirectories true root)
              (package.includeDirectories true other) ↔
            (package.includeNames false .posix).IsChain fun first second =>
              sameNames .windows first second = true → first = second)) := by
  have joined (fragment : String) :
      AreAlikeBelow root other (root.joinProjectRelative fragment)
        (other.joinProjectRelative fragment) ↔ ReturnsAfterDrives (fragmentFields fragment) := by
    rw [joinProjectRelative_eq, joinProjectRelative_eq, areAlikeBelow_iff, posix, windows,
      fragmentSegments_eq_iff]
  have listed (package : CpuPackage) (dedupe : Bool) :
      List.Forall₂ (AreAlikeBelow root other) (package.includeDirectories dedupe root)
        (package.includeDirectories dedupe other) ↔
      package.includeNames dedupe .posix = package.includeNames dedupe .windows := by
    -- Locations below the roots are compared by their names.
    simp only [CpuPackage.includeDirectories_eq, posix, windows, List.forall₂_map_left_iff,
      List.forall₂_map_right_iff, areAlikeBelow_iff, List.forall₂_eq_eq_eq]
  refine ⟨fun fragment => ⟨fragmentSegments .posix fragment, fragmentSegments .windows fragment,
    fragmentSegments_reads _ _, ?_, ?_, ?_, joined fragment⟩, ?_, fun package => ⟨?_, ?_⟩⟩
  · rw [← reads_windows_iff (fragmentFields_areApart fragment)]
    exact fragmentSegments_reads _ _
  · rw [joinProjectRelative_eq, posix]
  · rw [joinProjectRelative_eq, windows]
  · intro object file otherFile reference
    simpa only [ChildObject.location, if_pos reference] using joined object.name
  · rw [listed, CpuPackage.includeNames_eq_iff]
  · intro returns
    rw [listed, CpuPackage.includeNames_deduped_eq_iff _
      (package.includeNames_eq_iff.mpr returns)]

/-- A fragment that opens with a drive leads to different places. -/
theorem styles_differ_drive :
    (Location.posix "/proj").joinProjectRelative "C:\\Inc" =
        (Location.posix "/proj").below ["C:", "Inc"] ∧
      (ofText .windows "D:/proj").joinProjectRelative "C:\\Inc" =
        (ofText .windows "D:/proj").below ["Inc"] := by
  decide

/-- Two project roots: the styles disagree after a drive that is never left, and agree after one that
is left for the root. -/
theorem styles_compared_projectRoots :
    let root := Location.posix "/proj"
    let other := ofText .windows "D:/proj"
    root.style = .posix ∧ other.style = .windows ∧
      ¬ ReturnsAfterDrives (fragmentFields "C:\\Inc") ∧
      ReturnsAfterDrives (fragmentFields "Lib/C:/../../Inc") := by
  have posix : (Location.posix "/proj").style = .posix := by decide
  have windows : (ofText .windows "D:/proj").style = .windows := by decide
  obtain ⟨fragments, -⟩ := styles_compared posix windows
  refine ⟨posix, windows, fun returns => ?_, ?_⟩
  · obtain ⟨_, _, -, -, -, -, exact⟩ := fragments "C:\\Inc"
    obtain ⟨names, first, second⟩ := exact.mpr returns
    have kept : (Location.posix "/proj").joinProjectRelative "C:\\Inc" =
        (Location.posix "/proj").below ["C:", "Inc"] := by decide
    have passed : (ofText .windows "D:/proj").joinProjectRelative "C:\\Inc" =
        (ofText .windows "D:/proj").below ["Inc"] := by decide
    rw [kept, below_inj] at first
    rw [passed, below_inj, ← first] at second
    exact absurd second (by decide)
  · obtain ⟨_, _, -, -, -, -, exact⟩ := fragments "Lib/C:/../../Inc"
    -- Both lead to the same directory, so posix style has come back.
    exact exact.mp ⟨["Inc"], by decide, by decide⟩

end AutomationIndex
