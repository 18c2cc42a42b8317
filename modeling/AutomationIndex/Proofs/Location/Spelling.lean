import AutomationIndex.Location.Basic
import Mathlib.Data.List.Basic

/-! Posix locations: what texts name, and what appending a name to a location gives. -/

namespace AutomationIndex

namespace Text

/-- No character of a run between accepted characters is accepted itself. -/
theorem runsBetween_apart {p : Char → Bool} {chars run : List Char}
    (member : run ∈ runsBetween p chars) : ∀ c ∈ run, p c = false := by
  -- Each character either opens a new run or goes on with the first one.
  induction chars generalizing run with
  | nil => simp_all [runsBetween]
  | cons c rest ih =>
    change run ∈ runsBetween.step p c (runsBetween p rest) at member
    unfold runsBetween.step at member
    split at member
    · rcases List.mem_cons.mp member with same | member
      · simp [same]
      · exact ih member
    · rename_i refused
      have refused : p c = false := by simpa using refused
      split at member
      · simp_all
      · rename_i first others runs
        rcases List.mem_cons.mp member with same | member
        · -- The character joins the first run, which holds none either.
          have before : ∀ d ∈ first, p d = false := ih (by simp [runs])
          simpa [same, refused] using before
        · exact ih (by simp [runs, member])

/-- Characters none of which is accepted make one run. -/
theorem runsBetween_whole {p : Char → Bool} {chars : List Char} (apart : ∀ c ∈ chars, p c = false) :
    runsBetween p chars = [chars] := by
  induction chars with
  | nil => rfl
  | cons c rest ih =>
    -- Without an accepted character, no new run is ever opened.
    have others := ih fun d member => apart d (by simp [member])
    change runsBetween.step p c (runsBetween p rest) = _
    simp [runsBetween.step, others, apart c (by simp)]

end Text

/-- Whether a text can be a segment of a posix path: it is neither empty nor a single dot, and holds
no slash. -/
def isSegment (text : String) : Bool :=
  text != "" && text != "." && text.toList.all (· != '/')

/-- Names of posix segments are not empty, no dots, and without slashes. -/
theorem isSegment_iff {text : String} :
    isSegment text = true ↔ text.toList ≠ [] ∧ text.toList ≠ ['.'] ∧ ∀ c ∈ text.toList, c ≠ '/' := by
  -- A text is a dot exactly if its only character is one.
  have dot : text.toList = ['.'] ↔ text = "." := by
    rw [← String.toList_inj]
    rfl
  simp [isSegment, dot, and_assoc]

namespace Location

/-- Posix locations as texts name them. -/
structure IsPosix (l : Location) : Prop where
  style_eq : l.style = .posix
  drive_eq : l.drive = ""
  root_cases : l.root = "" ∨ l.root = "/" ∨ l.root = "//"
  segments_ok : ∀ segment ∈ l.segments, isSegment segment = true

/-- The location some names below another one. -/
def below (l : Location) (names : List String) : Location :=
  { l with segments := l.segments ++ names }

/-- No names lead no further. -/
@[simp] theorem below_nil (l : Location) : l.below [] = l :=
  congrArg (Location.mk _ _ _) (List.append_nil _)

/-- Different names lead to different locations. -/
theorem below_inj {l : Location} {first second : List String} :
    l.below first = l.below second ↔ first = second := by
  simp [below]

/-- The segments of a posix path are proper ones. -/
theorem segmentsOf_ok (rest : List Char) :
    ∀ segment ∈ segmentsOf .posix rest, isSegment segment = true := by
  -- Runs between slashes hold no slash, and the empty ones and single dots are left out.
  intro segment member
  simp only [segmentsOf, List.mem_map, List.mem_filter] at member
  obtain ⟨run, ⟨between, kept⟩, rfl⟩ := member
  have apart := Text.runsBetween_apart between
  simp only [Bool.and_eq_true, Bool.not_eq_eq_eq_not, Bool.not_true, bne_iff_ne] at kept
  rw [isSegment_iff, String.toList_ofList]
  refine ⟨by simpa using kept.1, kept.2, ?_⟩
  intro c inside same
  have := apart c inside
  simp [same, PathStyle.separator] at this

/-- A proper segment is the only segment of the path that it writes. -/
theorem segmentsOf_segment {segment : String} (ok : isSegment segment = true) :
    segmentsOf .posix segment.toList = [segment] := by
  obtain ⟨nonempty, noDot, slashless⟩ := isSegment_iff.mp ok
  -- Nothing divides the segment, so it is one run.
  have whole : Text.runsBetween (· == PathStyle.posix.separator) segment.toList =
      [segment.toList] := by
    apply Text.runsBetween_whole
    intro c inside
    simpa [PathStyle.separator] using slashless c inside
  simp [segmentsOf, whole, nonempty, noDot]

/-- A proper segment has no root. -/
theorem splitRoot_segment {segment : String} (ok : isSegment segment = true) :
    splitRoot .posix segment.toList = ⟨[], [], segment.toList⟩ := by
  -- The first character is no slash, so nothing is dropped at the start.
  obtain ⟨nonempty, _, slashless⟩ := isSegment_iff.mp ok
  have whole : segment.toList.dropWhile (· == '/') = segment.toList := by
    cases chars : segment.toList with
    | nil => rfl
    | cons c rest =>
      have head : c ≠ '/' := slashless c (by simp [chars])
      simp [head]
  simp [splitRoot, splitPosixRoot, whole]

/-- Reading proper segments from the last to the first puts them in front of those found. -/
theorem ofReversedParts_segments (before : List String) {reversed found : List String}
    (ok : ∀ segment ∈ reversed, isSegment segment = true) :
    ofReversedParts .posix (reversed ++ before) found =
      ofReversedParts .posix before (reversed.reverse ++ found) := by
  induction reversed generalizing found with
  | nil => rfl
  | cons segment rest ih =>
    -- The last segment has no root, so reading goes on before it.
    have head := ok segment (by simp)
    simp only [List.cons_append, ofReversedParts, splitRoot_segment head, segmentsOf_segment head]
    rw [ih fun other member => ok other (by simp [member])]
    simp

/-- Parts that are proper segments name the relative location that they make. -/
theorem ofParts_segments {segments : List String}
    (ok : ∀ segment ∈ segments, isSegment segment = true) :
    ofParts .posix segments = ⟨.posix, "", "", segments⟩ := by
  -- The parts are read from the last to the first.
  have reversed : ofReversedParts .posix (segments.reverse ++ []) [] =
      ofReversedParts .posix [] (segments.reverse.reverse ++ []) :=
    ofReversedParts_segments [] (by simpa using ok)
  simpa [ofParts, ofReversedParts] using reversed

/-- Reading the parts of a posix location again gives the location. -/
theorem ofParts_parts {l : Location} (plain : l.IsPosix) : ofParts .posix l.parts = l := by
  -- The segments are read as they are, and then the root, if there is one, ends the reading.
  obtain ⟨style, drive, root, segments⟩ := l
  obtain ⟨rfl, rfl, roots, ok⟩ := plain
  have reversed : ∀ before, ofReversedParts .posix (segments.reverse ++ before) [] =
      ofReversedParts .posix before (segments.reverse.reverse ++ []) :=
    fun before => ofReversedParts_segments before (by simpa using ok)
  rcases roots with rfl | rfl | rfl
  · simpa [parts, isAnchored] using ofParts_segments ok
  · have slash : ofReversedParts .posix ["/"] segments = ⟨.posix, "", "/", segments⟩ := rfl
    simpa [ofParts, parts, isAnchored, anchor, reversed] using slash
  · have slashes : ofReversedParts .posix ["//"] segments = ⟨.posix, "", "//", segments⟩ := rfl
    simpa [ofParts, parts, isAnchored, anchor, reversed] using slashes

/-- Every text names a posix location. -/
theorem posix_isPosix (text : String) : (posix text).IsPosix := by
  -- There is a single part, so its root and its segments are those of the location.
  have root : (splitPosixRoot text.toList).drive = [] ∧
      ((splitPosixRoot text.toList).root = [] ∨ (splitPosixRoot text.toList).root = ['/'] ∨
        (splitPosixRoot text.toList).root = ['/', '/']) := by
    unfold splitPosixRoot
    dsimp only
    split <;> simp
  obtain ⟨drive, root⟩ := root
  have segments := segmentsOf_ok (splitPosixRoot text.toList).rest
  simp only [posix, ofText, ofParts, List.reverse_singleton, ofReversedParts, splitRoot,
    List.append_nil, firstDrive, drive]
  rcases root with root | root | root
  · simp only [root]
    exact ⟨rfl, rfl, by simp, segments⟩
  · simp only [root]
    exact ⟨rfl, rfl, by simp [← String.toList_inj], segments⟩
  · simp only [root]
    exact ⟨rfl, rfl, by simp [← String.toList_inj], segments⟩

/-- Proper segments below a posix location make a posix location. -/
theorem IsPosix.below {l : Location} (plain : l.IsPosix) {names : List String}
    (ok : ∀ name ∈ names, isSegment name = true) : (l.below names).IsPosix := by
  refine ⟨plain.style_eq, plain.drive_eq, plain.root_cases, ?_⟩
  intro segment member
  rcases List.mem_append.mp member with own | appended
  · exact plain.segments_ok segment own
  · exact ok segment appended

/-- The style of a location that parts name is the one they are read in. -/
theorem ofReversedParts_style (style : PathStyle) (parts segments : List String) :
    (ofReversedParts style parts segments).style = style := by
  -- The style is handed on unchanged from part to part.
  induction parts generalizing segments with
  | nil => rfl
  | cons part rest ih =>
    simp only [ofReversedParts]
    split
    · exact ih _
    · rfl
    · rfl

/-- Appending parts keeps the style of a location. -/
@[simp] theorem joinParts_style (l : Location) (parts : List String) :
    (l.joinParts parts).style = l.style := by
  -- Whatever the parts name, they are read in the style of the location.
  have read : (ofParts l.style parts).style = l.style := ofReversedParts_style _ _ _
  unfold joinParts append
  split
  · split
    · exact read
    · exact read
  · split
    · split
      · rfl
      · exact read
    · rfl

/-- Appending a written path keeps the style of a location. -/
@[simp] theorem join_style (l : Location) (part : String) : (l / part).style = l.style :=
  joinParts_style l [part]

/-- Appending a proper segment to a posix location puts it below. -/
theorem join_segment {l : Location} (style : l.style = .posix) {name : String}
    (ok : isSegment name = true) : l / name = l.below [name] := by
  -- The name is a relative location of its own, which is appended.
  have single : ofParts .posix [name] = ⟨.posix, "", "", [name]⟩ :=
    ofParts_segments (by simpa using ok)
  change l.append (ofParts l.style [name]) = _
  rw [style, single]
  simp [append, below]

/-- The enclosing location of what is directly below a location is that location. -/
@[simp] theorem parent_below_single (l : Location) (name : String) :
    (l.below [name]).parent = l := by
  simp [parent, below]

/-- What is directly below a location has the name that puts it there. -/
@[simp] theorem name_below_single (l : Location) (name : String) : (l.below [name]).name = name := by
  simp [Location.name, below]

end Location

end AutomationIndex
