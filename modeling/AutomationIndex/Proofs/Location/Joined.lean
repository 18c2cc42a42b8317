import AutomationIndex.Proofs.Location.Characters

/-! Joining in both styles: which names stay in a directory, which leave it behind, and that a
project's own fragments stay. -/

namespace AutomationIndex.Location

variable {style : PathStyle} {directory named : Location} {text : String}

/-- Whether a text names a child in a style: it is neither empty nor a single dot, has no separator
of either style and no anchor. -/
structure IsChildName (style : PathStyle) (text : String) : Prop where
  nonempty : text ≠ ""
  noDot : text ≠ "."
  apart : ∀ c ∈ text.toList, c ≠ '/' ∧ c ≠ '\\'
  unanchored : (ofText style text).isAnchored = false

/-- Whether a text opens with a drive: a letter and a colon. -/
def opensDrive : List Char → Bool
  | letter :: ':' :: _ => letter.isAlpha
  | _ => false

/-- A text without separators is split into the drive that it opens with, where there are drives, and
the rest. -/
theorem splitRoot_apart (style : PathStyle) {part : List Char}
    (apart : ∀ c ∈ part, c ≠ '/' ∧ c ≠ '\\') : splitRoot style part =
      if style.hasDrives && opensDrive part then ⟨part.take 2, [], part.drop 2⟩
      else ⟨[], [], part⟩ := by
  have first : part.head? ≠ some '/' ∧ part.head? ≠ some '\\' := by
    cases part with
    | nil => simp
    | cons c rest => simpa using apart c List.mem_cons_self
  cases style with
  | posix =>
    have whole : part.dropWhile (· == '/') = part := by
      cases part with
      | nil => rfl
      | cons c rest => exact List.dropWhile_cons_of_neg (by simpa using first.1)
    simp [splitRoot, splitPosixRoot, whole, PathStyle.hasDrives]
  | windows =>
    have same : part.map (fun c => if c == '/' then '\\' else c) = part := by
      refine (List.map_congr_left fun c member => ?_).trans (List.map_id part)
      simp [(apart c member).1]
    have unmarked : ['\\', '\\'].isPrefixOf part = false := by
      cases part with
      | nil => rfl
      | cons c rest =>
        have other : c ≠ '\\' := by simpa using first.2
        simp [List.isPrefixOf, other.symm]
    have unshared : splitShare part = none := by
      unfold splitShare
      split
      · exact absurd rfl first.2
      · rfl
    rw [splitRoot, same]
    simp only [splitWindowsRoot, unmarked, Bool.false_eq_true, if_false, unshared,
      List.nil_append, PathStyle.hasDrives, Bool.true_and]
    split
    · next letter rest =>
      -- What follows the colon begins with no separator either.
      have below : rest.head? ≠ some '\\' := by
        cases rest with
        | nil => simp
        | cons c more => simpa using (apart c (by simp)).2
      by_cases alphabetic : letter.isAlpha = true
      · simp [opensDrive, alphabetic, below]
      · simp [opensDrive, alphabetic, (apart letter (by simp)).2]
    · next other =>
      have closed : opensDrive part = false := by
        unfold opensDrive
        split
        · exact absurd rfl (other _ _)
        · rfl
      simp [closed, first.2]

/-- A text without separators has an anchor exactly if it opens with a drive, where there are any. -/
theorem isAnchored_apart {style : PathStyle} {text : String}
    (apart : ∀ c ∈ text.toList, c ≠ '/' ∧ c ≠ '\\') :
    (ofText style text).isAnchored = (style.hasDrives && opensDrive text.toList) := by
  -- Without separators there is no root, so the text is anchored where it opens with a drive.
  have split := splitRoot_apart style apart
  by_cases drive : (style.hasDrives && opensDrive text.toList) = true
  · obtain ⟨letter, rest, written⟩ : ∃ letter rest, text.toList = letter :: ':' :: rest := by
      rw [Bool.and_eq_true] at drive
      revert drive
      unfold opensDrive
      split
      · next letter rest written => exact fun _ => ⟨letter, rest, written⟩
      · simp
    rw [if_pos drive, written] at split
    rw [drive]
    simp [ofText, ofParts, ofReversedParts, written, split, isAnchored, ← String.toList_inj]
  · rw [if_neg drive] at split
    rw [Bool.not_eq_true] at drive
    rw [drive]
    simp [ofText, ofParts, ofReversedParts, split, isAnchored]

/-- A text without anchor is split into nothing and itself. -/
theorem splitRoot_unanchored {part : List Char} (apart : ∀ c ∈ part, c ≠ '/' ∧ c ≠ '\\')
    (driveless : (splitRoot style part).drive = []) : splitRoot style part = ⟨[], [], part⟩ := by
  rw [splitRoot_apart style apart] at driveless ⊢
  split at driveless
  · next drive =>
    -- A drive has two characters, so it is not nothing.
    rw [Bool.and_eq_true] at drive
    cases part with
    | nil => cases drive.2
    | cons c rest => simp at driveless
  · next plain => exact if_neg plain

/-- A text without anchor has no drive. -/
theorem splitRoot_driveless (unanchored : (ofText style text).isAnchored = false) :
    (splitRoot style text.toList).drive = [] := by
  -- A split drive would anchor the text in each of the three forms.
  simp only [ofText, ofParts, List.reverse_singleton, ofReversedParts] at unanchored
  split at unanchored
  · assumption
  · assumption
  · have drive : String.ofList (splitRoot style text.toList).drive = "" := by
      simp_all [isAnchored]
    simpa [← String.toList_inj] using drive

namespace IsChildName

/-- A child's name has no anchor, and all of it is left. -/
theorem splitRoot_eq (child : IsChildName style text) :
    splitRoot style text.toList = ⟨[], [], text.toList⟩ :=
  splitRoot_unanchored child.apart (splitRoot_driveless child.unanchored)

/-- A child's name is one segment. -/
theorem segmentsOf_eq (child : IsChildName style text) :
    segmentsOf style text.toList = [text] := by
  -- No character of the name separates, so it is one run, and it is not dropped.
  have whole : Text.runsBetween (· == style.separator) text.toList = [text.toList] := by
    apply Text.runsBetween_whole
    intro c inside
    obtain ⟨slash, backslash⟩ := child.apart c inside
    cases style with
    | posix => exact beq_eq_false_iff_ne.mpr slash
    | windows => exact beq_eq_false_iff_ne.mpr backslash
  have some : text.toList ≠ [] := fun empty => child.nonempty (String.toList_inj.mp empty)
  have noDot : text.toList ≠ ['.'] := fun dot => child.noDot (String.toList_inj.mp dot)
  simp [segmentsOf, whole, some, noDot]

end IsChildName

/-- Names of children make the relative location that they lead to. -/
theorem ofParts_children {names : List String} (children : ∀ name ∈ names, IsChildName style name) :
    ofParts style names = ⟨style, "", "", names⟩ := by
  -- The names are read from the last to the first, and none of them ends the reading.
  have read : ∀ (reversed found : List String), (∀ name ∈ reversed, IsChildName style name) →
      ofReversedParts style reversed found = ⟨style, "", "", reversed.reverse ++ found⟩ := by
    intro reversed
    induction reversed with
    | nil => exact fun _ _ => rfl
    | cons name rest ih =>
      intro found each
      have child := each name List.mem_cons_self
      simp only [ofReversedParts, child.splitRoot_eq, child.segmentsOf_eq]
      rw [ih _ fun other member => each other (List.mem_cons_of_mem _ member)]
      simp
  have whole := read names.reverse [] fun name member => children name (List.mem_reverse.mp member)
  simpa [ofParts] using whole

/-- Names of children lead below a directory in either style. -/
theorem joinParts_children {names : List String}
    (children : ∀ name ∈ names, IsChildName directory.style name) :
    directory.joinParts names = directory.below names := by
  rw [joinParts, ofParts_children children]
  simp [append, below]

/-- The name of a child is put below a directory. -/
theorem join_child (child : IsChildName directory.style text) :
    directory / text = directory.below [text] :=
  joinParts_children (List.forall_mem_singleton.mpr child)

/-- The fields of a project's own fragment have no separators of either style. -/
theorem fragmentFields_apart (fragment : String) :
    ∀ field ∈ (Text.fields '/' (Text.replaceChar '\\' '/' fragment)).map Text.strip,
      ∀ c ∈ field.toList, c ≠ '/' ∧ c ≠ '\\' := by
  intro field member c inside
  simp only [Text.fields, List.mem_map] at member
  obtain ⟨_, ⟨run, between, rfl⟩, rfl⟩ := member
  rw [Text.strip, String.toList_ofList, String.toList_ofList] at inside
  have within := Text.stripChars_subset _ inside
  -- A field lies between slashes, which all backslashes have become.
  have apart : c ≠ '/' := by simpa using Text.runsBetween_apart between c within
  have written := Text.runsBetween_subset between within
  rw [Text.replaceChar, String.toList_ofList, List.mem_map] at written
  obtain ⟨d, -, same⟩ := written
  refine ⟨apart, ?_⟩
  rintro rfl
  split at same
  · simp at same
  · next other => exact other (by simp [same])

/-- Whether names lead down from a directory: each names a child, and none climbs. -/
def LeadDown (style : PathStyle) (names : List String) : Prop :=
  ∀ name ∈ names, IsChildName style name ∧ name ≠ ".."

/-- One more segment of a fragment keeps leading down. -/
theorem LeadDown.step {kept : List String} (down : LeadDown style kept) {segment : String}
    (apart : ∀ c ∈ segment.toList, c ≠ '/' ∧ c ≠ '\\') :
    LeadDown style (fragmentSegments.step style kept segment) := by
  -- A segment is dropped, takes the last level back or is added as a level of its own.
  unfold fragmentSegments.step
  split
  · exact down
  · next plain =>
    split
    · exact fun name member => down name (List.dropLast_subset _ member)
    · next level =>
      simp only [Bool.or_eq_true, beq_iff_eq, not_or, Bool.not_eq_true] at plain level
      obtain ⟨⟨nonempty, noDot⟩, unanchored⟩ := plain
      exact List.forall_mem_append.mpr ⟨down, List.forall_mem_singleton.mpr
        ⟨⟨nonempty, noDot, apart, unanchored⟩, level⟩⟩

/-- The segments of a project's own fragment lead down. -/
theorem fragmentSegments_leadDown (style : PathStyle) (fragment : String) :
    LeadDown style (fragmentSegments style fragment) := by
  -- The fold is generalised over what is kept so far, which always leads down.
  suffices general : ∀ (segments kept : List String),
      (∀ segment ∈ segments, ∀ c ∈ segment.toList, c ≠ '/' ∧ c ≠ '\\') → LeadDown style kept →
        LeadDown style (segments.foldl (fragmentSegments.step style) kept) from
    general _ [] (fragmentFields_apart fragment) (List.forall_mem_nil _)
  intro segments
  induction segments with
  | nil => exact fun _ _ down => down
  | cons segment rest ih =>
    intro kept each down
    obtain ⟨apart, later⟩ := List.forall_mem_cons.mp each
    exact ih _ later (down.step apart)

/-- A project's own fragment leads below the root, or is the root. -/
theorem joinProjectRelative_eq (root : Location) (fragment : String) :
    root.joinProjectRelative fragment = root.below (fragmentSegments root.style fragment) :=
  joinParts_children fun name member => (fragmentSegments_leadDown _ fragment name member).1

/-- Whether a name, read as a location, stays in a directory that it is joined to: it has no root,
and no drive but that of the directory. -/
def KeepsTo (named directory : Location) : Prop :=
  named.root = "" ∧ (named.drive = "" ∨
    directory.style.folded named.drive = directory.style.folded directory.drive)

instance : Decidable (named.KeepsTo directory) :=
  inferInstanceAs (Decidable (_ ∧ _))

/-- A posix path has no root exactly if it does not begin with a slash. -/
theorem splitPosixRoot_rootless_iff {part : List Char} :
    (splitPosixRoot part).root = [] ↔ part.head? ≠ some '/' := by
  cases part with
  | nil => simp [splitPosixRoot]
  | cons c rest =>
    by_cases slash : c = '/'
    · -- At least the first character is dropped, which makes a root.
      have fewer : (rest.dropWhile (· == '/')).length ≤ rest.length :=
        (List.dropWhile_sublist _).length_le
      have some : rest.length + 1 - (rest.dropWhile (· == '/')).length ≠ 0 := by omega
      subst slash
      simp only [splitPosixRoot, beq_self_eq_true, List.dropWhile_cons_of_pos, List.length_cons]
      split
      · contradiction
      · simp
      · simp
    · simp [splitPosixRoot, slash]

/-- A posix name stays in any directory exactly if it does not begin with a slash. -/
theorem keepsTo_posix_iff {name : String} :
    (ofText .posix name).KeepsTo directory ↔ name.toList.head? ≠ some '/' := by
  -- On the side without drives only a root anchors, and the first character decides it.
  rw [← splitPosixRoot_rootless_iff]
  simp only [KeepsTo, ofText, ofParts, List.reverse_singleton, ofReversedParts, splitRoot,
    splitPosixRoot_drive, firstDrive]
  split
  · next rootless => simp [rootless]
  · simp [← String.toList_inj]
  · next driven _ => exact (driven rfl).elim

/-- The location that a name stands for beside a directory of which it keeps the drive at most. -/
def onDriveOf (named directory : Location) : Location :=
  if named.root ≠ "" ∧ named.drive = "" then { named with drive := directory.drive } else named

/-- A name that stays in a directory leads below it, and any other leaves all of it behind but the
drive. -/
theorem append_eq (directory named : Location) : directory.append named =
    if named.KeepsTo directory then directory.below named.segments
    else named.onDriveOf directory := by
  obtain ⟨style, drive, root, segments⟩ := named
  -- The root and the drive of the name are each given or not, which makes the four cases.
  by_cases rootless : root = ""
  · subst rootless
    by_cases driveless : drive = ""
    · simp [append, KeepsTo, driveless, below]
    · simp [append, KeepsTo, driveless, below, onDriveOf]
  · by_cases driveless : drive = ""
    · by_cases bare : directory.drive = "" <;>
        simp [append, KeepsTo, onDriveOf, rootless, driveless, bare]
    · simp [append, KeepsTo, onDriveOf, rootless, driveless]

/-- Joining a written name to a directory. -/
theorem join_eq (directory : Location) (name : String) :
    directory / name = if (ofText directory.style name).KeepsTo directory
      then directory.below (ofText directory.style name).segments
      else (ofText directory.style name).onDriveOf directory :=
  append_eq directory (ofText directory.style name)

/-- Whether a location lies below a directory and is not the directory, as both are written: the
parts of the one are the first of the other, as the style compares them. -/
def LiesBelow (l directory : Location) : Prop :=
  l.style = directory.style ∧ directory.foldedParts <+: l.foldedParts ∧
    directory.foldedParts ≠ l.foldedParts

instance {l directory : Location} : Decidable (l.LiesBelow directory) :=
  inferInstanceAs (Decidable (_ ∧ _ ∧ _))

/-- Names lead strictly below a directory if there are any. -/
theorem below_liesBelow_iff (directory : Location) (names : List String) :
    (directory.below names).LiesBelow directory ↔ names ≠ [] := by
  -- The names come after the directory's own parts, and folding does not change their number.
  have parts : (directory.below names).foldedParts =
      directory.foldedParts ++ names.map directory.style.folded := by
    have anchored : (directory.below names).isAnchored = directory.isAnchored := rfl
    simp only [foldedParts, Location.parts, anchored]
    split <;> simp [below, anchor]
  rw [LiesBelow, parts]
  simp [below]

end AutomationIndex.Location
