import AutomationIndex.Location.Containment
import AutomationIndex.Proofs.Location.Spelling

/-! The characters of locations: joining locations writes no NUL that their parts do not write. -/

namespace AutomationIndex

/-- Whether a text is written without a NUL. -/
def LacksNul (text : String) : Prop :=
  Char.ofNat 0 ∉ text.toList

instance (text : String) : Decidable (LacksNul text) :=
  inferInstanceAs (Decidable (Char.ofNat 0 ∉ text.toList))

namespace Text

/-- The runs of a text hold its characters only. -/
theorem runsBetween_subset {p : Char → Bool} {chars run : List Char}
    (member : run ∈ runsBetween p chars) : run ⊆ chars := by
  induction chars generalizing run with
  | nil => simp_all [runsBetween]
  | cons c rest ih =>
    change run ∈ runsBetween.step p c (runsBetween p rest) at member
    unfold runsBetween.step at member
    split at member
    · rcases List.mem_cons.mp member with same | member
      · simp [same]
      · exact List.Subset.trans (ih member) (List.subset_cons_self c rest)
    · split at member
      · simp_all
      · rename_i first others runs
        rcases List.mem_cons.mp member with same | member
        · -- The character joins the first run.
          have before : first ⊆ rest := ih (by simp [runs])
          exact same ▸ List.cons_subset_cons c before
        · exact List.Subset.trans (ih (by simp [runs, member])) (List.subset_cons_self c rest)

/-- A stripped text holds characters of the text only. -/
theorem stripChars_subset (chars : List Char) : stripChars chars ⊆ chars := by
  intro c member
  simp only [stripChars, dropEndWhile, List.mem_reverse] at member
  -- Blanks are dropped at the end first, and then at the start.
  have inner := (List.dropWhile_sublist _).subset member
  exact (List.dropWhile_sublist _).subset (List.mem_reverse.mp inner)

/-- Stripping brings no NUL into a text. -/
theorem strip_lacksNul {text : String} (lacks : LacksNul text) : LacksNul (strip text) := by
  intro member
  rw [strip, String.toList_ofList] at member
  exact lacks (stripChars_subset _ member)

end Text

namespace Location

/-- Whether no part of a location is written with a NUL. -/
structure LacksNul (l : Location) : Prop where
  drive_lacks : AutomationIndex.LacksNul l.drive
  root_lacks : AutomationIndex.LacksNul l.root
  segments_lack : ∀ segment ∈ l.segments, AutomationIndex.LacksNul segment

/-- Joining texts by a separator brings in no other character. -/
theorem mem_intercalate_iff {c : Char} {separator : String} (other : c ∉ separator.toList)
    {texts : List String} :
    c ∈ (separator.intercalate texts).toList ↔ ∃ text ∈ texts, c ∈ text.toList := by
  induction texts with
  | nil => simp
  | cons text rest ih =>
    -- Between two texts stands one separator.
    cases rest with
    | nil => simp
    | cons next more =>
      rw [String.intercalate_cons_cons, String.toList_append, String.toList_append,
        List.mem_append, List.mem_append, ih, or_iff_left other]
      simp

/-- The text of a location lacks a NUL exactly if all its parts do. -/
theorem lacksNul_iff {l : Location} : l.LacksNul ↔ AutomationIndex.LacksNul l.text := by
  -- Neither separator is a NUL.
  have separator : Char.ofNat 0 ∉ l.style.separator.toString.toList := by
    cases l.style <;> decide
  -- The dot that stands for an empty location is no NUL either.
  have written : AutomationIndex.LacksNul l.text ↔ AutomationIndex.LacksNul
      (l.anchor ++ l.style.separator.toString.intercalate l.segments) := by
    unfold text
    dsimp only
    split
    · rename_i empty
      rw [beq_iff_eq.mp empty]
      exact iff_of_true (by decide) (by decide)
    · rfl
  rw [written, AutomationIndex.LacksNul, String.toList_append, List.mem_append,
    mem_intercalate_iff separator, anchor, String.toList_append, List.mem_append]
  constructor
  · rintro ⟨drive, root, segments⟩ ((inDrive | inRoot) | ⟨segment, member, inside⟩)
    · exact drive inDrive
    · exact root inRoot
    · exact segments segment member inside
  · intro lacks
    exact ⟨fun member => lacks (Or.inl (Or.inl member)),
      fun member => lacks (Or.inl (Or.inr member)),
      fun segment member inside => lacks (Or.inr ⟨segment, member, inside⟩)⟩

namespace LacksNul

variable {l : Location}

/-- What encloses a location without a NUL lacks it too. -/
theorem parent (lacks : l.LacksNul) : l.parent.LacksNul :=
  ⟨lacks.drive_lacks, lacks.root_lacks, fun segment member =>
    lacks.segments_lack segment (List.dropLast_subset _ member)⟩

/-- Names without a NUL below a location bring in none. -/
theorem below (lacks : l.LacksNul) {names : List String}
    (each : ∀ name ∈ names, AutomationIndex.LacksNul name) : (l.below names).LacksNul :=
  ⟨lacks.drive_lacks, lacks.root_lacks, List.forall_mem_append.mpr ⟨lacks.segments_lack, each⟩⟩

/-- Appending a location without a NUL brings in none. -/
theorem append {other : Location} (first : l.LacksNul) (second : other.LacksNul) :
    (l.append other).LacksNul := by
  -- Whichever parts are taken from the second location, they bring in no NUL.
  have both : (⟨l.style, l.drive, l.root, l.segments ++ other.segments⟩ : Location).LacksNul :=
    ⟨first.drive_lacks, first.root_lacks,
      List.forall_mem_append.mpr ⟨first.segments_lack, second.segments_lack⟩⟩
  unfold Location.append
  split
  · split
    · exact ⟨first.drive_lacks, second.root_lacks, second.segments_lack⟩
    · exact second
  · split
    · split
      · exact both
      · exact second
    · exact both

end LacksNul

/-- No posix path has a drive. -/
@[simp] theorem splitPosixRoot_drive (part : List Char) : (splitPosixRoot part).drive = [] := by
  unfold splitPosixRoot
  dsimp only
  split <;> rfl

/-- No posix part brings in a drive. -/
@[simp] theorem firstDrive_posix (parts : List String) : firstDrive .posix parts = "" := by
  induction parts with
  | nil => rfl
  | cons part rest ih => simpa [firstDrive, splitRoot] using ih

/-- A posix part without a NUL is split into parts without one. -/
theorem splitPosixRoot_lacksNul {part : List Char} (lacks : Char.ofNat 0 ∉ part) :
    Char.ofNat 0 ∉ (splitPosixRoot part).root ∧ Char.ofNat 0 ∉ (splitPosixRoot part).rest := by
  -- What is left of a path holds characters of the path only.
  have dropped : Char.ofNat 0 ∉ part.dropWhile (· == '/') :=
    fun member => lacks ((List.dropWhile_sublist _).subset member)
  unfold splitPosixRoot
  dsimp only
  split
  · exact ⟨by simp, lacks⟩
  · exact ⟨(by decide : Char.ofNat 0 ∉ ['/', '/']), dropped⟩
  · exact ⟨(by decide : Char.ofNat 0 ∉ ['/']), dropped⟩

/-- The segments of a posix path without a NUL lack it. -/
theorem segmentsOf_lacksNul {rest : List Char} (lacks : Char.ofNat 0 ∉ rest) :
    ∀ segment ∈ segmentsOf .posix rest, AutomationIndex.LacksNul segment := by
  intro segment member
  simp only [segmentsOf, List.mem_map, List.mem_filter] at member
  obtain ⟨run, ⟨between, _⟩, rfl⟩ := member
  intro inside
  -- A segment is a run between separators.
  rw [String.toList_ofList] at inside
  exact lacks (Text.runsBetween_subset between inside)

/-- Posix parts without a NUL name a location without one. -/
theorem ofReversedParts_lacksNul {parts segments : List String}
    (each : ∀ part ∈ parts, AutomationIndex.LacksNul part)
    (found : ∀ segment ∈ segments, AutomationIndex.LacksNul segment) :
    (ofReversedParts .posix parts segments).LacksNul := by
  have none : AutomationIndex.LacksNul "" := by decide
  induction parts generalizing segments with
  | nil => exact ⟨none, none, found⟩
  | cons part rest ih =>
    obtain ⟨here, later⟩ := List.forall_mem_cons.mp each
    obtain ⟨root, inner⟩ := splitPosixRoot_lacksNul here
    -- A part with a root ends the reading, any other one goes in front.
    have all := List.forall_mem_append.mpr ⟨segmentsOf_lacksNul inner, found⟩
    simp only [ofReversedParts, splitRoot, splitPosixRoot_drive, firstDrive_posix]
    split
    · exact ih later all
    · exact ⟨none, by simpa [AutomationIndex.LacksNul] using root, all⟩
    · rename_i driven _
      exact (driven rfl).elim

namespace LacksNul

variable {l : Location}

/-- Appending posix parts without a NUL brings in none. -/
theorem joinParts (lacks : l.LacksNul) (style : l.style = .posix) {parts : List String}
    (each : ∀ part ∈ parts, AutomationIndex.LacksNul part) : (l.joinParts parts).LacksNul := by
  unfold Location.joinParts
  rw [style]
  refine lacks.append (ofReversedParts_lacksNul ?_ (by simp))
  exact fun part member => each part (List.mem_reverse.mp member)

/-- Appending a written posix path without a NUL brings in none. -/
theorem join (lacks : l.LacksNul) (style : l.style = .posix) {part : String}
    (own : AutomationIndex.LacksNul part) : (l / part).LacksNul :=
  lacks.joinParts style (List.forall_mem_singleton.mpr own)

/-- A fragment without a NUL has segments without one. -/
theorem fragmentSegments {style : PathStyle} {fragment : String}
    (own : AutomationIndex.LacksNul fragment) :
    ∀ segment ∈ fragmentSegments style fragment, AutomationIndex.LacksNul segment := by
  have fields : ∀ field ∈ (Text.fields '/' (Text.replaceChar '\\' '/' fragment)).map Text.strip,
      AutomationIndex.LacksNul field := by
    intro field member
    simp only [Text.fields, List.mem_map] at member
    obtain ⟨_, ⟨run, between, rfl⟩, rfl⟩ := member
    apply Text.strip_lacksNul
    intro inside
    rw [String.toList_ofList] at inside
    have written := Text.runsBetween_subset between inside
    -- A character of a field is one of the fragment, or a slash for a backslash.
    rw [Text.replaceChar, String.toList_ofList, List.mem_map] at written
    obtain ⟨c, among, same⟩ := written
    split at same
    · simp at same
    · exact own (same ▸ among)
  -- The invariant of the fold is that the segments kept so far lack a NUL.
  suffices general : ∀ (segments kept : List String),
      (∀ segment ∈ segments, AutomationIndex.LacksNul segment) →
        (∀ segment ∈ kept, AutomationIndex.LacksNul segment) →
          ∀ segment ∈ segments.foldl (Location.fragmentSegments.step style) kept,
            AutomationIndex.LacksNul segment from general _ [] fields (by simp)
  intro segments
  induction segments with
  | nil => exact fun kept _ ok => ok
  | cons segment rest ih =>
    intro kept each ok
    obtain ⟨here, later⟩ := List.forall_mem_cons.mp each
    apply ih _ later
    unfold Location.fragmentSegments.step
    split
    · exact ok
    · split
      · exact fun other member => ok other (List.dropLast_subset _ member)
      · exact List.forall_mem_append.mpr ⟨ok, List.forall_mem_singleton.mpr here⟩

/-- Appending a project's own posix path without a NUL brings in none. -/
theorem joinProjectRelative (lacks : l.LacksNul) (style : l.style = .posix) {fragment : String}
    (own : AutomationIndex.LacksNul fragment) : (l.joinProjectRelative fragment).LacksNul :=
  lacks.joinParts style (fragmentSegments own)

end LacksNul

end Location

end AutomationIndex
