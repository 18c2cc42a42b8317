import AutomationIndex.Proofs.Location.Named

/-! The written forms of posix locations, and of relative ones in either style: read as paths, they name
these locations. -/

namespace AutomationIndex

namespace Text

/-- A text has at least one run. -/
theorem runsBetween_ne_nil (p : Char → Bool) (chars : List Char) : runsBetween p chars ≠ [] := by
  cases chars with
  -- One run stands before any character was read, and a step keeps the first or adds one.
  | nil => simp [runsBetween]
  | cons c rest =>
    change runsBetween.step p c (runsBetween p rest) ≠ []
    unfold runsBetween.step
    split
    · simp
    · split <;> simp

/-- Where a character is accepted, the runs of what precedes it end and new ones begin. -/
theorem runsBetween_divided {p : Char → Bool} (first : List Char) {c : Char} (accepted : p c = true)
    (rest : List Char) :
    runsBetween p (first ++ c :: rest) = runsBetween p first ++ runsBetween p rest := by
  induction first with
  | nil =>
    change runsBetween.step p c (runsBetween p rest) = _
    simp [runsBetween.step, accepted, runsBetween]
  | cons d first ih =>
    change runsBetween.step p d (runsBetween p (first ++ c :: rest)) =
      runsBetween.step p d (runsBetween p first) ++ _
    rw [ih]
    -- There is always a first run for the character to join.
    cases runs : runsBetween p first with
    | nil => exact absurd runs (runsBetween_ne_nil p first)
    | cons run others => by_cases d_accepted : p d = true <;> simp [runsBetween.step, d_accepted]

/-- Texts without accepted characters are the runs between the accepted characters that join them. -/
theorem runsBetween_intercalate {p : Char → Bool} {c : Char} (accepted : p c = true)
    {texts : List String} (some : texts ≠ [])
    (apart : ∀ text ∈ texts, ∀ d ∈ text.toList, p d = false) :
    runsBetween p (c.toString.intercalate texts).toList = texts.map String.toList := by
  -- The induction is on the texts; each but the last ends at its own separator.
  induction texts with
  | nil => exact absurd rfl some
  | cons text rest ih =>
    cases rest with
    | nil =>
      rw [String.intercalate_singleton, runsBetween_whole (apart text List.mem_cons_self)]
      rfl
    | cons next more =>
      have single : c.toString.toList = [c] := by simp [Char.toString]
      rw [String.intercalate_cons_cons, String.toList_append, String.toList_append, single,
        List.append_assoc, List.singleton_append, runsBetween_divided _ accepted,
        runsBetween_whole (apart text List.mem_cons_self),
        ih (by simp) fun other member => apart other (List.mem_cons_of_mem _ member)]
      rfl

end Text

namespace Location

variable {style : PathStyle} {l : Location}

/-- A proper segment does not hold the separator of its style. -/
theorem SegmentIn.noSeparator {segment : String} (ok : SegmentIn style segment) :
    style.separator ∉ segment.toList := by
  cases style with
  | posix => exact ok.noSlash
  | windows => exact ok.noBackslash rfl

/-- Proper segments are the segments of the text that the separator joins them to. -/
theorem segmentsOf_intercalate {segments : List String}
    (ok : ∀ segment ∈ segments, SegmentIn style segment) :
    segmentsOf style (style.separator.toString.intercalate segments).toList = segments := by
  cases segments with
  | nil => rfl
  | cons first others =>
    -- No segment holds the separator, so the runs are the segments, and none of them is dropped.
    have runs : Text.runsBetween (· == style.separator)
        (style.separator.toString.intercalate (first :: others)).toList =
        (first :: others).map String.toList :=
      Text.runsBetween_intercalate (c := style.separator) (by simp) (by simp)
        fun segment member c inside => beq_eq_false_iff_ne.mpr fun same =>
          (ok segment member).noSeparator (same ▸ inside)
    have kept : ((first :: others).map String.toList).filter (fun run =>
        !run.isEmpty && run != ['.']) = (first :: others).map String.toList := by
      rw [List.filter_eq_self]
      intro run member
      obtain ⟨segment, among, rfl⟩ := List.mem_map.mp member
      have nonempty : segment.toList ≠ [] := fun empty =>
        (ok segment among).nonempty (String.toList_inj.mp empty)
      have noDot : segment.toList ≠ ['.'] := fun dot =>
        (ok segment among).noDot (String.toList_inj.mp dot)
      simp [nonempty, noDot]
    rw [segmentsOf, runs, kept, List.map_map]
    simp

/-- The text of proper segments begins with a character of the first one. -/
theorem intercalate_head {separator : String} {segments : List String}
    (ok : ∀ segment ∈ segments, SegmentIn style segment) :
    ∀ c ∈ (separator.intercalate segments).toList.head?, ∃ segment ∈ segments, c ∈ segment.toList := by
  cases segments with
  | nil => rintro c ⟨⟩
  | cons first others =>
    -- A segment is not empty, so the joined text begins with its first character.
    have nonempty : first.toList ≠ [] := fun empty =>
      (ok first List.mem_cons_self).nonempty (String.toList_inj.mp empty)
    obtain ⟨c, rest, line⟩ := List.exists_cons_of_ne_nil nonempty
    have begins : (separator.intercalate (first :: others)).toList.head? = some c := by
      cases others with
      | nil => rw [String.intercalate_singleton, line]; rfl
      | cons second others =>
        rw [String.intercalate_cons_cons, String.toList_append, String.toList_append, line]
        rfl
    rw [begins]
    rintro _ ⟨⟩
    exact ⟨first, List.mem_cons_self, by simp [line]⟩

/-- A posix root is split from a text that begins with no slash. -/
theorem splitPosixRoot_append {root : String} (roots : root = "" ∨ root = "/" ∨ root = "//")
    {body : List Char} (begins : ∀ c ∈ body.head?, c ≠ '/') :
    splitPosixRoot (root.toList ++ body) = ⟨[], root.toList, body⟩ := by
  -- The body does not begin with a separator, so the root takes all of them.
  have dropped : body.dropWhile (· == '/') = body := by
    cases body with
    | nil => rfl
    | cons c rest => exact List.dropWhile_cons_of_neg (by simpa using begins c rfl)
  rcases roots with rfl | rfl | rfl
  · simp [splitPosixRoot, dropped]
  · simp [splitPosixRoot, dropped]
  · have two : body.length + 1 + 1 - body.length = 2 := by omega
    simp [splitPosixRoot, dropped, two]

/-- The text of a posix location names the location. -/
theorem posix_text (plain : l.IsPosix) : posix l.text = l := by
  obtain ⟨style, drive, root, segments⟩ := l
  obtain ⟨rfl, rfl, roots, ok⟩ := plain
  have slash : PathStyle.posix.separator.toString = "/" := rfl
  have proper : ∀ segment ∈ segments, SegmentIn .posix segment :=
    ((isNamed_posix_iff rfl).mpr ⟨rfl, rfl, roots, ok⟩).segmentIn
  have begins : ∀ c ∈ ("/".intercalate segments).toList.head?, c ≠ '/' := by
    intro c first same
    obtain ⟨segment, member, inside⟩ := intercalate_head proper c first
    exact (proper segment member).noSlash (same ▸ inside)
  have read : segmentsOf .posix ("/".intercalate segments).toList = segments :=
    segmentsOf_intercalate proper
  have whole : posix (root ++ "/".intercalate segments) = ⟨.posix, "", root, segments⟩ := by
    simp only [posix, ofText, ofParts, List.reverse_singleton, ofReversedParts, splitRoot,
      String.toList_append, splitPosixRoot_append roots begins, read, List.append_nil, firstDrive]
    rcases roots with rfl | rfl | rfl <;> rfl
  -- A location that would have no text is written as a dot.
  simp only [text, anchor, slash, String.empty_append]
  split
  · next empty =>
    rw [beq_iff_eq.mp empty] at whole
    rw [← whole]
    rfl
  · exact whole

/-- Posix locations with one text are one. -/
theorem text_inj {other : Location} (first : l.IsPosix) (second : other.IsPosix) :
    l.text = other.text ↔ l = other :=
  ⟨fun same => by rw [← posix_text first, same, posix_text second], congrArg text⟩

/-- A windows path that begins with no backslash and has no colon in it has no anchor. -/
theorem splitWindowsRoot_unanchored {part : List Char} (begins : ∀ c ∈ part.head?, c ≠ '\\')
    (colonless : ':' ∉ part) : splitWindowsRoot part = ⟨[], [], part⟩ := by
  have head : part.head? ≠ some '\\' := fun first => begins _ first rfl
  -- Without a separator at the front there is no share, and without a colon no drive.
  have unshared : splitShare part = none := by
    unfold splitShare
    split
    · exact absurd rfl head
    · rfl
  rcases splitWindowsRoot_cases part with ⟨_, split⟩ | ⟨rest, rfl, _⟩ | ⟨rest, rfl, _⟩
  · rw [split]
    simp only [splitMarked, unshared]
    split
    · exact absurd (by simp) colonless
    · simp [head]
  · exact absurd rfl head
  · exact absurd rfl head

/-- The text of a relative location names the location. -/
theorem ofText_relative {segments : List String} (ok : ∀ segment ∈ segments, SegmentIn style segment)
    (colonless : style.hasDrives = true → ∀ segment ∈ segments, ':' ∉ segment.toList) :
    ofText style (relative style segments).text = relative style segments := by
  cases style with
  | posix =>
    have named : (relative .posix segments).IsNamed := ⟨⟨rfl, .inl rfl⟩, ok⟩
    exact posix_text ((isNamed_posix_iff rfl).mp named)
  | windows =>
    let joined := PathStyle.windows.separator.toString.intercalate segments
    have among : ∀ c ∈ joined.toList, c = '\\' ∨ ∃ segment ∈ segments, c ∈ segment.toList := by
      intro c inside
      by_cases separator : c = '\\'
      · exact .inl separator
      · exact .inr ((mem_intercalate_iff (by simpa [PathStyle.separator] using separator)).mp inside)
    have same : joined.toList.map (fun c => if c == '/' then '\\' else c) = joined.toList := by
      refine (List.map_congr_left fun c inside => ?_).trans (List.map_id _)
      have other : c ≠ '/' := by
        rintro rfl
        rcases among _ inside with separator | ⟨segment, member, slash⟩
        · cases separator
        · exact (ok segment member).noSlash slash
      simp [other]
    have split : splitRoot .windows joined.toList = ⟨[], [], joined.toList⟩ := by
      rw [splitRoot, same]
      apply splitWindowsRoot_unanchored
      · rintro c first rfl
        obtain ⟨segment, member, inside⟩ := intercalate_head ok _ first
        exact (ok segment member).noBackslash rfl inside
      · intro inside
        rcases among _ inside with separator | ⟨segment, member, colon⟩
        · cases separator
        · exact colonless rfl segment member colon
    have whole : ofText .windows joined = relative .windows segments := by
      rw [ofText_eq, split, segmentsOf_intercalate ok]
      rfl
    have text : (relative .windows segments).text = if joined == "" then "." else joined := by
      simp [Location.text, relative, anchor, joined]
    rw [text]
    -- The empty location is written as a dot.
    split
    · next empty =>
      rw [← whole, beq_iff_eq.mp empty]
      decide
    · exact whole

end Location

end AutomationIndex
