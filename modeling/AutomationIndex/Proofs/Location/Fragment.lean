import AutomationIndex.Proofs.Location.Joined
import AutomationIndex.Proofs.Location.Written
import AutomationIndex.Proofs.Text.Case

/-! A project's own path fragments: how their fields are read from left to right, and that joining
them to a root keeps below it, repeats itself, and can be done in two steps. -/

namespace AutomationIndex

namespace Text

/-- Slashes are the only separators once backslashes have become slashes. -/
theorem runsBetween_replaced (chars : List Char) :
    runsBetween (· == '/') (chars.map fun c => if c == '\\' then '/' else c) =
      runsBetween (fun c => c == '/' || c == '\\') chars := by
  induction chars with
  | nil => rfl
  | cons c rest ih =>
    change runsBetween.step (· == '/') (if c == '\\' then '/' else c) (runsBetween _ (rest.map _)) =
      runsBetween.step (fun c => c == '/' || c == '\\') c (runsBetween _ rest)
    rw [ih]
    -- A backslash ends a run on both sides, and so does a slash.
    by_cases backslash : c = '\\'
    · simp [runsBetween.step, backslash]
    · by_cases slash : c = '/' <;> simp [runsBetween.step, backslash, slash]

end Text

namespace Location

/-- The fields of a fragment between separators of either style, without the blanks around them. -/
def fragmentFields (fragment : String) : List String :=
  (Text.runsBetween (fun c => c == '/' || c == '\\') fragment.toList).map fun run =>
    String.ofList (Text.stripChars run)

/-- Whether a field of a fragment is passed over: it is blank, a single dot, or has an anchor. -/
def isPassedOver (style : PathStyle) (field : String) : Bool :=
  field == "" || field == "." || (ofText style field).isAnchored

/-- Whether a field of a fragment adds a segment. -/
def isOrdinary (style : PathStyle) (field : String) : Bool :=
  !isPassedOver style field && field != ".."

/-- The segments that are left when the fields of a fragment are read from left to right: ordinary
ones are added, and a double dot takes back the last of those that are left. -/
inductive Reads (style : PathStyle) : List String → List String → Prop where
  | start : Reads style [] []
  | passedOver {read kept : List String} {field : String} (before : Reads style read kept)
      (passed : isPassedOver style field = true) : Reads style (read ++ [field]) kept
  | up {read kept : List String} (before : Reads style read kept) :
      Reads style (read ++ [".."]) kept.dropLast
  | down {read kept : List String} {field : String} (before : Reads style read kept)
      (ordinary : isOrdinary style field = true) : Reads style (read ++ [field]) (kept ++ [field])

variable {style : PathStyle} {fields kept : List String} {field : String}

/-- A double dot is not passed over. -/
theorem isPassedOver_up (style : PathStyle) : isPassedOver style ".." = false := by
  cases style <;> decide

/-- An ordinary field is not passed over, and is no double dot. -/
theorem isOrdinary_iff :
    isOrdinary style field = true ↔ isPassedOver style field = false ∧ field ≠ ".." := by
  simp [isOrdinary]

/-- A field is passed over, goes up, or is ordinary. -/
theorem field_cases (style : PathStyle) (field : String) :
    isPassedOver style field = true ∨ field = ".." ∨ isOrdinary style field = true := by
  rw [isOrdinary_iff]
  by_cases up : field = ".." <;> cases isPassedOver style field <;> simp [up]

/-- A field that is passed over leaves the segments as they are. -/
theorem step_passedOver (passed : isPassedOver style field = true) (kept : List String) :
    fragmentSegments.step style kept field = kept :=
  if_pos passed

/-- A double dot takes back the last segment. -/
theorem step_up (style : PathStyle) (kept : List String) :
    fragmentSegments.step style kept ".." = kept.dropLast := by
  have unpassed : ¬ isPassedOver style ".." = true := by simp [isPassedOver_up]
  exact (if_neg unpassed).trans (if_pos rfl)

/-- An ordinary field is added to the segments. -/
theorem step_ordinary (ordinary : isOrdinary style field = true) (kept : List String) :
    fragmentSegments.step style kept field = kept ++ [field] := by
  obtain ⟨unpassed, level⟩ := isOrdinary_iff.mp ordinary
  have unpassed : ¬ isPassedOver style field = true := by simp [unpassed]
  exact (if_neg unpassed).trans (if_neg (by simpa using level))

/-- Reading fields from left to right leaves exactly what folding the step over them gives. -/
theorem reads_iff : Reads style fields kept ↔ fields.foldl (fragmentSegments.step style) [] = kept := by
  constructor
  · intro reads
    induction reads with
    | start => rfl
    | passedOver _ passed ih => rw [List.foldl_concat, ih, step_passedOver passed]
    | up _ ih => rw [List.foldl_concat, ih, step_up]
    | down _ ordinary ih => rw [List.foldl_concat, ih, step_ordinary ordinary]
  · -- Each field is read in one of three ways, which are the cases of the step.
    rintro rfl
    induction fields using List.reverseRecOn with
    | nil => exact .start
    | append_singleton read field ih =>
      rw [List.foldl_concat]
      rcases field_cases style field with passed | rfl | ordinary
      · rw [step_passedOver passed]
        exact ih.passedOver passed
      · rw [step_up]
        exact ih.up
      · rw [step_ordinary ordinary]
        exact ih.down ordinary

/-- Whatever is left has been read, and is ordinary. -/
theorem Reads.kept_ordinary (reads : Reads style fields kept) :
    ∀ segment ∈ kept, segment ∈ fields ∧ isOrdinary style segment = true := by
  -- The induction is on the reading: a step up forgets one segment, and a step down adds its field.
  induction reads with
  | start => exact List.forall_mem_nil _
  | passedOver _ _ ih =>
    intro segment member
    exact (ih segment member).imp_left (List.mem_append_left _)
  | up _ ih =>
    intro segment member
    exact (ih segment (List.dropLast_subset _ member)).imp_left (List.mem_append_left _)
  | @down read kept field _ ordinary ih =>
    refine List.forall_mem_append.mpr ⟨fun segment member => ?_, List.forall_mem_singleton.mpr ?_⟩
    · exact (ih segment member).imp_left (List.mem_append_left _)
    · exact ⟨by simp, ordinary⟩

/-- Ordinary fields are all left. -/
theorem reads_ordinary (ordinary : ∀ field ∈ fields, isOrdinary style field = true) :
    Reads style fields fields := by
  induction fields using List.reverseRecOn with
  | nil => exact .start
  | append_singleton read field ih =>
    obtain ⟨before, here⟩ := List.forall_mem_append.mp ordinary
    exact (ih before).down (here field (List.mem_singleton_self _))

/-- The segments of a fragment are what is left of its fields. -/
theorem fragmentSegments_reads (style : PathStyle) (fragment : String) :
    Reads style (fragmentFields fragment) (fragmentSegments style fragment) := by
  -- Replacing the separators first and then splitting is splitting at both.
  have fields : (Text.fields '/' (Text.replaceChar '\\' '/' fragment)).map Text.strip =
      fragmentFields fragment := by
    simp only [Text.fields, Text.replaceChar, String.toList_ofList, Text.runsBetween_replaced,
      List.map_map]
    exact List.map_congr_left fun run _ => by simp [Text.strip]
  rw [reads_iff, ← fields]
  rfl

/-- Blanks, dots and anchors do not count, and a double dot takes back a segment if there is one. -/
example : fragmentSegments .windows " \\Lib/./../C:/../ Inc " = ["Inc"] := by
  decide

/-- What is left of the fields of a fragment are its segments and nothing else. -/
theorem reads_fragmentFields_iff {fragment : String} :
    Reads style (fragmentFields fragment) kept ↔ kept = fragmentSegments style fragment := by
  rw [reads_iff, reads_iff.mp (fragmentSegments_reads style fragment)]
  exact eq_comm

/-- A field of a fragment has no blanks around it, and no separators of either style. -/
theorem fragmentFields_plain {fragment : String} (member : field ∈ fragmentFields fragment) :
    Text.strip field = field ∧ ∀ c ∈ field.toList, c ≠ '/' ∧ c ≠ '\\' := by
  obtain ⟨run, between, rfl⟩ := List.mem_map.mp member
  constructor
  -- What stripping leaves is stripped already, and is part of one run between separators.
  · rw [Text.strip, String.toList_ofList, Text.stripChars_stripChars]
  · intro c inside
    rw [String.toList_ofList] at inside
    simpa using Text.runsBetween_apart between c (Text.stripChars_subset _ inside)

/-- A segment of a fragment is an ordinary field, without blanks around it and without separators. -/
theorem fragmentSegments_plain {fragment : String} (member : field ∈ fragmentSegments style fragment) :
    isOrdinary style field = true ∧ Text.strip field = field ∧
      ∀ c ∈ field.toList, c ≠ '/' ∧ c ≠ '\\' := by
  obtain ⟨listed, ordinary⟩ := (fragmentSegments_reads style fragment).kept_ordinary field member
  exact ⟨ordinary, fragmentFields_plain listed⟩

/-- The fields of two fragments with a slash between them are those of the one and of the other. -/
theorem fragmentFields_append (first second : String) :
    fragmentFields (first ++ "/" ++ second) = fragmentFields first ++ fragmentFields second := by
  have divided : (first ++ "/" ++ second).toList = first.toList ++ '/' :: second.toList := by simp
  rw [fragmentFields, divided, Text.runsBetween_divided _ (by decide), List.map_append]
  rfl

/-- Segments that a separator of either style joins are the fields of the text. -/
theorem fragmentFields_intercalate {separator : Char} (divides : separator = '/' ∨ separator = '\\')
    (nonempty : kept ≠ []) (plain : ∀ segment ∈ kept,
      Text.strip segment = segment ∧ ∀ c ∈ segment.toList, c ≠ '/' ∧ c ≠ '\\') :
    fragmentFields (separator.toString.intercalate kept) = kept := by
  -- Either separator ends a field, and plain segments are not changed by stripping.
  have accepted : (separator == '/' || separator == '\\') = true := by simpa using divides
  rw [fragmentFields, Text.runsBetween_intercalate accepted nonempty
    (fun segment member c inside => by simpa using (plain segment member).2 c inside), List.map_map]
  exact (List.map_congr_left fun segment member => (plain segment member).1).trans (List.map_id kept)

/-- The segments of a fragment, written with either separator, are a fragment with the same
segments. -/
theorem fragmentSegments_intercalate {separator : Char} (divides : separator = '/' ∨ separator = '\\')
    {fragment : String} : fragmentSegments style
        (separator.toString.intercalate (fragmentSegments style fragment)) =
      fragmentSegments style fragment := by
  symm
  rw [← reads_fragmentFields_iff]
  -- The segments have no separators in them, so they are the fields of what is written.
  by_cases none : fragmentSegments style fragment = []
  · -- No segment at all is written as one blank field.
    have blank : fragmentFields "" = [] ++ [""] := by decide
    rw [none, String.intercalate_nil, blank]
    exact .passedOver .start (by simp [isPassedOver])
  · rw [fragmentFields_intercalate divides none fun _ member => (fragmentSegments_plain member).2]
    exact reads_ordinary fun _ member => (fragmentSegments_plain member).1

/-- Whether fields never climb above where they start: no beginning of them has more double dots than
ordinary fields. -/
def StaysDown (style : PathStyle) (fields : List String) : Prop :=
  ∀ beginning, beginning <+: fields →
    beginning.count ".." ≤ beginning.countP (isOrdinary style)

/-- Fields that climb no higher than the last segments leave those below them alone. -/
theorem foldl_step_below (base kept : List String) (enough : ∀ beginning, beginning <+: fields →
    beginning.count ".." ≤ beginning.countP (isOrdinary style) + kept.length) :
    fields.foldl (fragmentSegments.step style) (base ++ kept) =
      base ++ fields.foldl (fragmentSegments.step style) kept := by
  induction fields generalizing kept with
  | nil => rfl
  | cons field rest ih =>
    have further : ∀ beginning, beginning <+: rest → (field :: beginning).count ".." ≤
        (field :: beginning).countP (isOrdinary style) + kept.length :=
      fun beginning starts => enough _ (List.prefix_cons_inj field |>.mpr starts)
    rw [List.foldl_cons, List.foldl_cons]
    rcases field_cases style field with passed | rfl | ordinary
    · -- What is passed over counts on neither side.
      have level : field ≠ ".." := by
        rintro rfl
        simp [isPassedOver_up] at passed
      have plain : ¬ isOrdinary style field = true := by simp [isOrdinary, passed]
      rw [step_passedOver passed, step_passedOver passed]
      refine ih _ fun beginning starts => ?_
      simpa [level, plain] using further beginning starts
    · have plain : ¬ isOrdinary style ".." = true := by simp [isOrdinary]
      have some : kept ≠ [] := by
        rintro rfl
        simpa [plain] using further [] List.nil_prefix
      rw [step_up, step_up, List.dropLast_append_of_ne_nil some]
      refine ih _ fun beginning starts => ?_
      have bound := further beginning starts
      simp only [List.count_cons_self, List.countP_cons_of_neg plain] at bound
      rw [List.length_dropLast]
      omega
    · have level : field ≠ ".." := (isOrdinary_iff.mp ordinary).2
      rw [step_ordinary ordinary, step_ordinary ordinary, List.append_assoc]
      refine ih _ fun beginning starts => ?_
      have bound := further beginning starts
      rw [List.count_cons_of_ne level, List.countP_cons_of_pos ordinary] at bound
      rw [List.length_append, List.length_singleton]
      omega

/-- The segments of a fragment that does not climb above where it starts follow those of the fragment
before it. -/
theorem fragmentSegments_append (fragment : String) {further : String}
    (down : StaysDown style (fragmentFields further)) :
    fragmentSegments style (fragment ++ "/" ++ further) =
      fragmentSegments style fragment ++ fragmentSegments style further := by
  -- Reading goes on above the segments of the first fragment, and leaves them alone.
  have onward := foldl_step_below (fragmentSegments style fragment) [] down
  rw [List.append_nil, reads_iff.mp (fragmentSegments_reads style further)] at onward
  symm
  rw [← reads_fragmentFields_iff, reads_iff, fragmentFields_append, List.foldl_append,
    reads_iff.mp (fragmentSegments_reads style fragment), onward]

/-- Names below a location are added to its parts. -/
theorem parts_below (l : Location) (names : List String) :
    (l.below names).parts = l.parts ++ names := by
  have anchored : (l.below names).isAnchored = l.isAnchored := rfl
  simp only [Location.parts, anchored]
  split <;> rfl

/-- Joining a fragment to a root puts below it what is left when the fields of the fragment are read
from left to right, and nothing else. So the result is the root or lies below it, all that is added
are plain segments, joining these again, written with either separator, gives the same, and a fragment
that does not climb above where it starts can be joined in a second step. -/
theorem joinProjectRelative_normalises (root : Location) (fragment : String) :
    ∃ kept, (∀ other, Reads root.style (fragmentFields fragment) other ↔ other = kept) ∧
      root.joinProjectRelative fragment = root.below kept ∧
      (root.joinProjectRelative fragment).parts = root.parts ++ kept ∧
      (root.joinProjectRelative fragment = root ∨
        (root.joinProjectRelative fragment).LiesBelow root) ∧
      (∀ segment ∈ kept, Text.strip segment = segment ∧ segment ≠ "" ∧ segment ≠ "." ∧
        segment ≠ ".." ∧ (ofText root.style segment).isAnchored = false ∧
        ∀ c ∈ segment.toList, c ≠ '/' ∧ c ≠ '\\') ∧
      (∀ separator, separator = '/' ∨ separator = '\\' →
        root.joinProjectRelative (separator.toString.intercalate kept) =
          root.joinProjectRelative fragment) ∧
      ∀ further, StaysDown root.style (fragmentFields further) →
        root.joinProjectRelative (fragment ++ "/" ++ further) =
          (root.joinProjectRelative fragment).joinProjectRelative further := by
  have joined := joinProjectRelative_eq root fragment
  -- The segments of the fragment are what is left, and everything else is told of them.
  refine ⟨fragmentSegments root.style fragment, fun _ => reads_fragmentFields_iff, joined,
    joined ▸ parts_below root _, ?_, ?_, ?_, ?_⟩
  · rw [joined]
    by_cases none : fragmentSegments root.style fragment = []
    · left
      rw [none, below_nil]
    · exact .inr ((below_liesBelow_iff root _).mpr none)
  · intro segment member
    obtain ⟨ordinary, stripped, apart⟩ := fragmentSegments_plain member
    obtain ⟨unpassed, level⟩ := isOrdinary_iff.mp ordinary
    simp only [isPassedOver, Bool.or_eq_false_iff, beq_eq_false_iff_ne] at unpassed
    exact ⟨stripped, unpassed.1.1, unpassed.1.2, level, unpassed.2, apart⟩
  · intro separator divides
    rw [joined, joinProjectRelative_eq, fragmentSegments_intercalate divides]
  · intro further down
    rw [joined, joinProjectRelative_eq, joinProjectRelative_eq, fragmentSegments_append fragment down]
    simp [below]

end Location

end AutomationIndex
