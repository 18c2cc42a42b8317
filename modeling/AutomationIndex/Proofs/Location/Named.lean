import AutomationIndex.Proofs.Location.Anchor
import AutomationIndex.Proofs.Location.Enclosure

/-! What parts name in both styles: the anchors and segments of the locations that they name, and
which of these are named by their own parts again. -/

namespace AutomationIndex.Location

variable {style : PathStyle} {l a b : Location}

/-- Whether a drive and a root can be the anchor of a location in a style. -/
def AnchorIn : PathStyle → String → String → Prop
  | .posix, drive, root => drive = "" ∧ (root = "" ∨ root = "/" ∨ root = "//")
  | .windows, drive, root => IsAnchor drive.toList root.toList

/-- Whether a text can be a segment in a style: it is neither empty nor a single dot, and holds no
separator. -/
structure SegmentIn (style : PathStyle) (text : String) : Prop where
  nonempty : text ≠ ""
  noDot : text ≠ "."
  noSlash : '/' ∉ text.toList
  noBackslash : style.hasDrives = true → '\\' ∉ text.toList

/-- A written text is a drive, a root, and segments. -/
theorem ofText_eq (style : PathStyle) (text : String) : ofText style text =
    ⟨style, String.ofList (splitRoot style text.toList).drive,
      String.ofList (splitRoot style text.toList).root,
      segmentsOf style (splitRoot style text.toList).rest⟩ := by
  -- With a single part there is no earlier one to take a drive or a root from.
  simp only [ofText, ofParts, List.reverse_singleton, ofReversedParts, List.append_nil]
  split
  · next drive root => simp [drive, root]
  · next drive _ => simp [drive, firstDrive]
  · rfl

/-- What is split off a text is the anchor of a location, and what is left holds the separators that
the style writes. -/
theorem splitRoot_anchorIn (style : PathStyle) (part : List Char) :
    AnchorIn style (String.ofList (splitRoot style part).drive)
        (String.ofList (splitRoot style part).root) ∧
      (style.hasDrives = true → '/' ∉ (splitRoot style part).rest) := by
  cases style with
  | posix =>
    refine ⟨⟨by simp [splitRoot], ?_⟩, fun drives => nomatch drives⟩
    simp only [splitRoot, splitPosixRoot]
    split <;> simp [← String.toList_inj]
  | windows =>
    -- Slashes are replaced before anything is split off.
    have noSlash : '/' ∉ part.map fun c => if c == '/' then '\\' else c := by
      rw [List.mem_map]
      rintro ⟨c, _, same⟩
      split at same
      · cases same
      · next other => exact other (by simp [same])
    obtain ⟨anchor, within⟩ := splitWindowsRoot_isAnchor noSlash
    exact ⟨by simpa [AnchorIn, splitRoot] using anchor, fun _ member => noSlash (within member)⟩

/-- The drive of the first part that has one can have a root. -/
theorem firstDrive_anchorIn (style : PathStyle) (parts : List String) {drive root : String}
    (anchor : AnchorIn style drive root) (rooted : root ≠ "") :
    AnchorIn style (firstDrive style parts) root := by
  cases style with
  | posix => exact ⟨firstDrive_posix parts, anchor.2⟩
  | windows =>
    obtain rfl : root = "\\" := (IsAnchor.rootText_cases anchor).resolve_left rooted
    -- A part without a drive leaves the search to the parts before it.
    induction parts with
    | nil => exact .plain (.inl rfl) (.inr rfl)
    | cons part rest ih =>
      simp only [firstDrive]
      split
      · exact ih
      · have split := (splitRoot_anchorIn .windows part.toList).1
        exact IsAnchor.rooted split

/-- The segments of a path are proper ones. -/
theorem segmentsOf_segmentIn {rest : List Char} (noSlash : style.hasDrives = true → '/' ∉ rest) :
    ∀ segment ∈ segmentsOf style rest, SegmentIn style segment := by
  intro segment member
  simp only [segmentsOf, List.mem_map, List.mem_filter] at member
  obtain ⟨run, ⟨between, kept⟩, rfl⟩ := member
  -- A segment is a run between separators, so it holds none.
  have apart : style.separator ∉ run := by
    intro inside
    simpa using Text.runsBetween_apart between _ inside
  simp only [Bool.and_eq_true, Bool.not_eq_eq_eq_not, Bool.not_true, bne_iff_ne] at kept
  refine ⟨by simpa [← String.toList_inj] using kept.1, by simpa [← String.toList_inj] using kept.2, ?_, ?_⟩
  · rw [String.toList_ofList]
    cases style with
    | posix => exact apart
    | windows => exact fun inside => noSlash rfl (Text.runsBetween_subset between inside)
  · intro drives
    rw [String.toList_ofList]
    cases style with
    | posix => cases drives
    | windows => exact apart

/-- Locations as parts name them, in either style. -/
structure IsNamed (l : Location) : Prop where
  anchorIn : AnchorIn l.style l.drive l.root
  segmentIn : ∀ segment ∈ l.segments, SegmentIn l.style segment

/-- Parts name a location with an anchor and segments of their style. -/
theorem ofReversedParts_named (style : PathStyle) (parts segments : List String)
    (each : ∀ segment ∈ segments, SegmentIn style segment) :
    AnchorIn style (ofReversedParts style parts segments).drive
        (ofReversedParts style parts segments).root ∧
      ∀ segment ∈ (ofReversedParts style parts segments).segments, SegmentIn style segment := by
  -- The induction follows the parts from the last one on; a part with a root ends it.
  induction parts generalizing segments with
  | nil =>
    refine ⟨?_, each⟩
    cases style with
    | posix => exact ⟨rfl, .inl rfl⟩
    | windows => exact IsAnchor.plain (.inl rfl) (.inl rfl)
  | cons part rest ih =>
    obtain ⟨anchor, noSlash⟩ := splitRoot_anchorIn style part.toList
    have all := List.forall_mem_append.mpr ⟨segmentsOf_segmentIn noSlash, each⟩
    simp only [ofReversedParts]
    split
    · exact ih _ all
    · next rooted =>
      refine ⟨firstDrive_anchorIn style rest anchor ?_, all⟩
      simpa [← String.toList_inj] using rooted
    · exact ⟨anchor, all⟩

/-- What parts name is such a location. -/
theorem ofParts_isNamed (style : PathStyle) (parts : List String) : (ofParts style parts).IsNamed := by
  obtain ⟨anchor, segments⟩ :=
    ofReversedParts_named style parts.reverse [] (List.forall_mem_nil _)
  have own : (ofParts style parts).style = style := ofReversedParts_style style _ _
  exact ⟨by rw [own]; exact anchor, by rw [own]; exact segments⟩

/-- In windows style, the anchor is one that is split off. -/
theorem IsNamed.isAnchor (named : l.IsNamed) (windows : l.style = .windows) :
    IsAnchor l.drive.toList l.root.toList := by
  simpa [windows, AnchorIn] using named.anchorIn

/-- What encloses a named location is named. -/
theorem IsNamed.ofSegments (named : l.IsNamed) {segments : List String}
    (within : segments ⊆ l.segments) : IsNamed { l with segments := segments } :=
  ⟨named.anchorIn, fun segment member => named.segmentIn segment (within member)⟩

/-- In posix style, these are the locations as texts name them. -/
theorem isNamed_posix_iff (posix : l.style = .posix) : l.IsNamed ↔ l.IsPosix := by
  constructor
  -- Without drives an anchor is a root of at most two separators, and the segments follow.
  · intro named
    have anchor := named.anchorIn
    rw [posix] at anchor
    refine ⟨posix, anchor.1, anchor.2, fun segment member => ?_⟩
    obtain ⟨nonempty, noDot, noSlash, _⟩ := named.segmentIn segment member
    rw [isSegment_iff]
    exact ⟨fun empty => nonempty (String.toList_inj.mp empty),
      fun dot => noDot (String.toList_inj.mp dot), fun c inside same => noSlash (same ▸ inside)⟩
  · intro plain
    refine ⟨by rw [posix]; exact ⟨plain.drive_eq, plain.root_cases⟩, fun segment member => ?_⟩
    obtain ⟨nonempty, noDot, slashless⟩ := isSegment_iff.mp (plain.segments_ok segment member)
    refine ⟨fun empty => nonempty (by rw [empty]; rfl), fun dot => noDot (by rw [dot]; rfl),
      fun slash => slashless _ slash rfl, ?_⟩
    simp [posix, PathStyle.hasDrives]

/-- Locations that parts name and whose segments cannot be taken for drives: where there are drives,
no segment has a colon in it. -/
structure IsUnambiguous (l : Location) : Prop where
  named : l.IsNamed
  colonless : l.style.hasDrives = true → ∀ segment ∈ l.segments, ':' ∉ segment.toList

/-- Posix locations are unambiguous. -/
theorem IsPosix.isUnambiguous (plain : l.IsPosix) : l.IsUnambiguous :=
  ⟨(isNamed_posix_iff plain.style_eq).mpr plain, by simp [plain.style_eq, PathStyle.hasDrives]⟩

/-- Whether a text is read as one segment in a style. -/
structure ReadsAsSegment (style : PathStyle) (text : String) : Prop where
  split : splitRoot style text.toList = ⟨[], [], text.toList⟩
  single : segmentsOf style text.toList = [text]

/-- A text without colons that can be a segment is read as one. -/
theorem SegmentIn.readsAsSegment {text : String} (segment : SegmentIn style text)
    (colonless : style.hasDrives = true → ':' ∉ text.toList) : ReadsAsSegment style text := by
  cases style with
  | posix =>
    have ok : isSegment text = true := by
      rw [isSegment_iff]
      exact ⟨fun empty => segment.nonempty (String.toList_inj.mp empty),
        fun dot => segment.noDot (String.toList_inj.mp dot),
        fun c inside same => segment.noSlash (same ▸ inside)⟩
    exact ⟨splitRoot_segment ok, segmentsOf_segment ok⟩
  | windows =>
    have apart : ∀ c ∈ text.toList, c ≠ '/' ∧ c ≠ '\\' := fun c inside =>
      ⟨fun same => segment.noSlash (same ▸ inside), fun same => segment.noBackslash rfl (same ▸ inside)⟩
    -- A drive would need a colon.
    have closed : opensDrive text.toList = false := by
      unfold opensDrive
      split
      · next letter rest written => exact absurd (by simp [written]) (colonless rfl)
      · rfl
    have child : IsChildName .windows text :=
      ⟨segment.nonempty, segment.noDot, apart, by rw [isAnchored_apart apart, closed, Bool.and_false]⟩
    exact ⟨child.splitRoot_eq, child.segmentsOf_eq⟩

/-- The segments of an unambiguous location are read as such. -/
theorem IsUnambiguous.readsAsSegment (plain : l.IsUnambiguous) :
    ∀ segment ∈ l.segments, ReadsAsSegment l.style segment := fun segment member =>
  (plain.named.segmentIn segment member).readsAsSegment fun drives =>
    plain.colonless drives segment member

/-- Reading segments from the last to the first puts them in front of those found. -/
theorem ofReversedParts_read (before found : List String) {reversed : List String}
    (each : ∀ segment ∈ reversed, ReadsAsSegment style segment) :
    ofReversedParts style (reversed ++ before) found =
      ofReversedParts style before (reversed.reverse ++ found) := by
  -- The parts are read from the last one, and each is one segment in front of those found.
  induction reversed generalizing found with
  | nil => rfl
  | cons segment rest ih =>
    obtain ⟨here, later⟩ := List.forall_mem_cons.mp each
    simp only [List.cons_append, ofReversedParts, here.split, here.single]
    rw [ih _ later]
    simp

/-- The relative location that names make in a style. -/
def relative (style : PathStyle) (names : List String) : Location :=
  ⟨style, "", "", names⟩

/-- Segments name the relative location that they make. -/
theorem ofParts_read {segments : List String}
    (each : ∀ segment ∈ segments, ReadsAsSegment style segment) :
    ofParts style segments = relative style segments := by
  have read := ofReversedParts_read [] [] fun segment member =>
    each segment (List.mem_reverse.mp member)
  simpa [ofParts, ofReversedParts, relative] using read

/-- Reading segments after a text puts them below what the text names. -/
theorem ofParts_cons_read (text : String) {segments : List String}
    (each : ∀ segment ∈ segments, ReadsAsSegment style segment) :
    ofParts style (text :: segments) = (ofText style text).below segments := by
  -- The later parts are read first, and the text in front of them alone can anchor the location.
  have read := ofReversedParts_read [text] [] fun segment member =>
    each segment (List.mem_reverse.mp member)
  rw [ofParts, List.reverse_cons, read, List.reverse_reverse, List.append_nil]
  simp only [ofText, ofParts, List.reverse_singleton, ofReversedParts, List.append_nil, below]
  split <;> rfl

/-- An unambiguous location, read again, lies below what its anchor names by itself. -/
theorem IsUnambiguous.reread_eq (plain : l.IsUnambiguous) :
    l.reread = (ofText l.style l.anchor).below l.segments := by
  rw [reread, parts]
  split
  · exact ofParts_cons_read _ plain.readsAsSegment
  · next bare =>
    -- Nothing is read where there is no anchor.
    have unanchored : l.anchor = "" := by
      simp only [isAnchored, Bool.or_eq_true, bne_iff_ne, ne_eq, not_or, not_not] at bare
      simp [anchor, bare]
    rw [ofParts_read plain.readsAsSegment, unanchored, ofText_eq]
    cases l.style <;> rfl

/-- Whether the anchor of a location, written by itself, names the anchor. -/
def KeepsAnchor (l : Location) : Prop :=
  ofText l.style l.anchor = { l with segments := [] }

instance : Decidable l.KeepsAnchor :=
  inferInstanceAs (Decidable (_ = _))

/-- Where the anchor is kept, reading a location again changes nothing. -/
theorem IsUnambiguous.reread_eq_self (plain : l.IsUnambiguous) (kept : l.KeepsAnchor) :
    l.reread = l := by
  rw [plain.reread_eq, kept]
  rfl

/-- Posix locations keep their anchors. -/
theorem IsPosix.keepsAnchor (plain : l.IsPosix) : l.KeepsAnchor := by
  obtain ⟨style, drive, root, segments⟩ := l
  obtain ⟨rfl, rfl, roots, _⟩ := plain
  change ofText .posix ("" ++ root) = ⟨.posix, "", root, []⟩
  rw [String.empty_append]
  rcases roots with rfl | rfl | rfl <;> decide

section Windows

/-- What a windows anchor names by itself is split off its drive and root as they are. -/
theorem IsNamed.ofText_anchor (named : l.IsNamed) (windows : l.style = .windows) :
    ofText .windows l.anchor =
      ⟨.windows, String.ofList (splitWindowsRoot (l.drive.toList ++ l.root.toList)).drive,
        String.ofList (splitWindowsRoot (l.drive.toList ++ l.root.toList)).root,
        segmentsOf .windows (splitWindowsRoot (l.drive.toList ++ l.root.toList)).rest⟩ := by
  have anchor := named.isAnchor windows
  -- There is no slash to be replaced.
  have noSlash : '/' ∉ l.drive.toList ++ l.root.toList := by
    refine List.not_mem_append anchor.drive_marked.2 ?_
    rcases anchor.root_cases with bare | slash
    · simp [bare]
    · simp [slash]
  have same : (l.drive.toList ++ l.root.toList).map (fun c => if c == '/' then '\\' else c) =
      l.drive.toList ++ l.root.toList := by
    refine (List.map_congr_left fun c member => ?_).trans (List.map_id _)
    have other : c ≠ '/' := fun slash => noSlash (slash ▸ member)
    simp [other]
  rw [ofText_eq, Location.anchor, String.toList_append, splitRoot, same]

/-- A windows location keeps its anchor exactly if its drive reads back. -/
theorem IsNamed.keepsAnchor_iff (named : l.IsNamed) (windows : l.style = .windows) :
    l.KeepsAnchor ↔ ReadsBack l.drive.toList := by
  have anchor := named.isAnchor windows
  rw [KeepsAnchor, windows, named.ofText_anchor windows]
  constructor
  · intro same
    by_contra other
    -- The drive that is split off instead reads back.
    have drive := congrArg Location.drive same
    simp only [← String.toList_inj, String.toList_ofList] at drive
    exact other (drive ▸ (anchor.splitsBack.lost other).2)
  · intro reads
    rw [anchor.splitsBack.kept reads]
    obtain ⟨style, drive, root, segments⟩ := l
    obtain rfl : style = .windows := windows
    simp [segmentsOf, Text.runsBetween]

end Windows

/-- Named locations of one style whose drives compare as equal both keep their anchors, or neither. -/
theorem keepsAnchor_congr (first : a.IsNamed) (second : b.IsNamed) (styles : a.style = b.style)
    (drives : a.style.folded a.drive = a.style.folded b.drive) : a.KeepsAnchor ↔ b.KeepsAnchor := by
  -- Case folding can lose an anchor only where there are drives, and it moves no mark of a drive.
  cases style : a.style with
  | posix =>
    have own := (isNamed_posix_iff style).mp first
    have other := (isNamed_posix_iff (styles ▸ style)).mp second
    exact iff_of_true own.keepsAnchor other.keepsAnchor
  | windows =>
    rw [style] at drives
    change Text.toSmall a.drive = Text.toSmall b.drive at drives
    rw [first.keepsAnchor_iff style, second.keepsAnchor_iff (styles ▸ style), ← readsBack_toSmall_iff,
      drives, readsBack_toSmall_iff]

end AutomationIndex.Location
