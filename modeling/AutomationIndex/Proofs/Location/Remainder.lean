import AutomationIndex.Proofs.Location.Named

/-! What is left of a location below a base, in both styles: the names that lead there, if the base
keeps its anchor and encloses the location as the style compares them. -/

namespace AutomationIndex

section Marks

variable {α : Type} {p : α → Prop} {marks segments others rest : List α}

/-- Lists that begin with what is marked and go on with what is not are equal in both halves. -/
theorem append_marked_inj (first : ∀ a ∈ marks, p a) (second : ∀ a ∈ others, p a)
    (plain : ∀ a ∈ segments, ¬ p a) (unmarked : ∀ a ∈ rest, ¬ p a) :
    marks ++ segments = others ++ rest ↔ marks = others ∧ segments = rest := by
  -- Where one list of marks ends first, a mark would have to be a segment.
  induction marks generalizing others with
  | nil =>
    cases others with
    | nil => simp
    | cons other others =>
      refine iff_of_false (fun same => ?_) (by simp)
      rw [List.nil_append] at same
      exact plain other (by simp [same]) (second other (by simp))
  | cons mark marks ih =>
    obtain ⟨here, later⟩ := List.forall_mem_cons.mp first
    cases others with
    | nil =>
      refine iff_of_false (fun same => ?_) (by simp)
      rw [List.nil_append] at same
      exact unmarked mark (by simp [← same]) here
    | cons other others =>
      rw [List.cons_append, List.cons_append, List.cons.injEq, List.cons.injEq, and_assoc,
        ih later fun a member => second a (List.mem_cons_of_mem _ member)]

/-- One of them begins another one if it does so in the second half, or has none. -/
theorem append_marked_prefix (first : ∀ a ∈ marks, p a) (second : ∀ a ∈ others, p a)
    (plain : ∀ a ∈ segments, ¬ p a) (unmarked : ∀ a ∈ rest, ¬ p a) :
    marks ++ segments <+: others ++ rest ↔
      marks = others ∧ segments <+: rest ∨ marks <+: others ∧ marks ≠ others ∧ segments = [] := by
  -- Marks stand in front of both lists, so they are compared first and one by one.
  induction marks generalizing others with
  | nil =>
    cases others with
    | nil => simp
    | cons other others =>
      cases segments with
      | nil => simp
      | cons segment segments =>
        -- A plain segment does not begin with a mark of the other side.
        refine iff_of_false (fun begins => ?_) (by simp)
        rw [List.nil_append, List.cons_append, List.cons_prefix_cons] at begins
        exact plain segment (by simp) (begins.1 ▸ second other (by simp))
  | cons mark marks ih =>
    obtain ⟨here, later⟩ := List.forall_mem_cons.mp first
    cases others with
    | nil =>
      -- A mark is no plain segment, so it is not found among the other side's rest.
      refine iff_of_false (fun begins => ?_) (by simp)
      exact unmarked mark (begins.subset (by simp)) here
    | cons other others =>
      rw [List.cons_append, List.cons_append, List.cons_prefix_cons, List.cons_prefix_cons,
        ih later fun a member => second a (List.mem_cons_of_mem _ member), List.cons.injEq]
      by_cases same : mark = other <;> simp [same]

end Marks

namespace PathStyle

variable {style : PathStyle}

/-- A text compares as nothing only if it is empty. -/
@[simp] theorem folded_eq_empty_iff (style : PathStyle) (text : String) :
    style.folded text = "" ↔ text = "" := by
  cases style with
  | posix => rfl
  | windows =>
    have small : Text.toSmall text = "" ↔ text = "" := Text.toSmall_eq_iff (by simp) text
    exact small

/-- Whether a text is told apart from segments: it is empty, or has a separator or a colon in it. -/
def IsMark (style : PathStyle) (text : String) : Prop :=
  text = "" ∨ style.separator ∈ text.toList ∨ style.hasDrives = true ∧ ':' ∈ text.toList

/-- Comparing leaves it alone what is told apart from segments. -/
@[simp] theorem isMark_folded_iff (style : PathStyle) (text : String) :
    style.IsMark (style.folded text) ↔ style.IsMark text := by
  cases style with
  | posix => rfl
  | windows =>
    -- Case folding keeps the two characters a mark is known by.
    have separator : '\\' ∈ (Text.toSmall text).toList ↔ '\\' ∈ text.toList :=
      Text.mem_toSmall_iff (by decide) text
    have colon : ':' ∈ (Text.toSmall text).toList ↔ ':' ∈ text.toList :=
      Text.mem_toSmall_iff (by decide) text
    rw [IsMark, IsMark, folded_eq_empty_iff]
    exact or_congr_right (or_congr separator (and_congr_right fun _ => colon))

end PathStyle

namespace Location

variable {l a b base : Location}

/-- A location as its style compares it. -/
def folded (l : Location) : Location :=
  { l with
    drive := l.style.folded l.drive
    root := l.style.folded l.root
    segments := l.segments.map l.style.folded }

/-- Posix locations are compared as they are. -/
theorem folded_eq_self (posix : l.style = .posix) : l.folded = l := by
  obtain ⟨style, drive, root, segments⟩ := l
  obtain rfl : style = .posix := posix
  have plain : PathStyle.posix.folded = id := rfl
  simp [folded, plain]

/-- The steps to the top of a location. -/
def anchorSteps (l : Location) : List String :=
  if l.root ≠ "" then [l.drive, l.root] else if l.drive ≠ "" then [l.drive] else []

/-- There is a step to the top of a location exactly if it has an anchor. -/
theorem anchorSteps_eq_nil_iff : l.anchorSteps = [] ↔ l.isAnchored = false := by
  by_cases rootless : l.root = "" <;> by_cases driveless : l.drive = "" <;>
    simp [anchorSteps, isAnchored, rootless, driveless]

/-- Only a bare drive takes fewer steps than another top and still one: the other one has a root. -/
theorem bare_of_anchorSteps_shorter (fewer : a.anchorSteps.length < b.anchorSteps.length)
    (some : a.anchorSteps ≠ []) : a.root = "" ∧ a.drive ≠ "" ∧ b.root ≠ "" := by
  -- A root counts as two steps and a bare drive as one.
  have two : b.anchorSteps.length ≤ 2 ∧ (b.root = "" → b.anchorSteps.length ≤ 1) := by
    unfold anchorSteps
    split
    · simp_all
    · split <;> simp
  rw [anchorSteps] at fewer some
  split at fewer
  · exact absurd fewer (by simpa using two.1)
  · next rootless =>
    rw [if_neg rootless] at some
    split at fewer
    · next driven =>
      exact ⟨not_not.mp rootless, driven, fun bare => absurd (two.2 bare) (by simpa using fewer)⟩
    · next driveless => exact absurd (if_neg driveless) some

/-- The steps to a location lead to its top first. -/
theorem steps_eq (l : Location) : l.steps = l.anchorSteps ++ l.segments := by
  by_cases rootless : l.root = "" <;> by_cases driveless : l.drive = "" <;>
    simp [steps, anchorSteps, parts, isAnchored, anchor, rootless, driveless]

/-- The part of a location for its top, if there is one. -/
def anchorParts (l : Location) : List String :=
  if l.isAnchored then [l.anchor] else []

/-- The parts of a location begin with the one for its top. -/
theorem parts_eq (l : Location) : l.parts = l.anchorParts ++ l.segments := by
  unfold parts anchorParts
  split <;> rfl

namespace IsNamed

/-- A root is compared as it is. -/
theorem folded_root (named : l.IsNamed) : l.style.folded l.root = l.root := by
  -- A root is one of at most three texts, and folding keeps each of them.
  cases style : l.style with
  | posix => rfl
  | windows =>
    rcases (named.isAnchor style).rootText_cases with bare | slash
    · rw [bare]
      rfl
    · rw [slash]
      decide +kernel

/-- Drive and root are told apart from segments. -/
theorem isMark (named : l.IsNamed) :
    l.style.IsMark l.drive ∧ l.style.IsMark l.root := by
  -- The drive and the root are empty, or hold a separator or a colon: they mark the anchor off.
  cases style : l.style with
  | posix =>
    obtain ⟨_, driveless, roots, _⟩ := (isNamed_posix_iff style).mp named
    refine ⟨.inl driveless, ?_⟩
    rcases roots with bare | slash | slashes
    · exact .inl bare
    · exact .inr (.inl (by rw [slash]; decide))
    · exact .inr (.inl (by rw [slashes]; decide))
  | windows =>
    have anchor := named.isAnchor style
    constructor
    · rcases anchor.drive_marked.1 with bare | separator | colon
      · exact .inl (String.toList_inj.mp bare)
      · exact .inr (.inl separator)
      · exact .inr (.inr ⟨rfl, colon⟩)
    · rcases anchor.rootText_cases with bare | slash
      · exact .inl bare
      · exact .inr (.inl (by rw [slash]; decide))

end IsNamed

/-- Named locations have anchors that compare as equal exactly if their drives do and they have the
same root. -/
theorem folded_anchor_iff (first : a.IsNamed) (second : b.IsNamed) (styles : a.style = b.style) :
    a.style.folded a.anchor = a.style.folded b.anchor ↔
      a.style.folded a.drive = a.style.folded b.drive ∧ a.root = b.root := by
  -- On the side without drives the anchor is the root; on the other the last character decides.
  cases style : a.style with
  | posix =>
    have own := ((isNamed_posix_iff style).mp first).drive_eq
    have other := ((isNamed_posix_iff (styles ▸ style)).mp second).drive_eq
    simp [anchor, own, other, PathStyle.folded]
  | windows =>
    have own := first.isAnchor style
    have other := second.isAnchor (styles ▸ style)
    refine ⟨IsAnchor.folded_inj own other, ?_⟩
    rintro ⟨drives, roots⟩
    change Text.toSmall (a.drive ++ a.root) = Text.toSmall (b.drive ++ b.root)
    change Text.toSmall a.drive = Text.toSmall b.drive at drives
    rw [← roots]
    rcases own.rootText_cases with bare | slash
    · rw [bare, String.append_empty, String.append_empty, drives]
    · rw [slash, Text.toSmall_backslash, Text.toSmall_backslash, drives]

/-- The part for the top of a named location is told apart from segments. -/
theorem IsNamed.anchorParts_isMark (named : l.IsNamed) :
    ∀ part ∈ l.anchorParts, l.style.IsMark part := by
  -- The one part is the drive and the root together, and each of them is a mark.
  obtain ⟨drive, root⟩ := named.isMark
  unfold anchorParts
  split
  · refine List.forall_mem_singleton.mpr ?_
    simp only [PathStyle.IsMark, anchor, String.append_eq_empty_iff, String.toList_append,
      List.mem_append] at drive root ⊢
    tauto
  · exact List.forall_mem_nil _

/-- The steps to the top of a named location are told apart from segments. -/
theorem IsNamed.anchorSteps_isMark (named : l.IsNamed) :
    ∀ step ∈ l.anchorSteps, l.style.IsMark step := by
  -- The drive and the root are steps of their own here.
  obtain ⟨drive, root⟩ := named.isMark
  unfold anchorSteps
  split
  · exact List.forall_mem_cons.mpr ⟨drive, List.forall_mem_singleton.mpr root⟩
  · split
    · exact List.forall_mem_singleton.mpr drive
    · exact List.forall_mem_nil _

/-- No segment of an unambiguous location can be taken for its top. -/
theorem IsUnambiguous.not_isMark (plain : l.IsUnambiguous) :
    ∀ segment ∈ l.segments, ¬ l.style.IsMark segment := by
  intro segment member
  have proper := plain.named.segmentIn segment member
  -- A segment is not empty and holds no separator; a colon is what an unambiguous location leaves
  -- out.
  rintro (empty | separator | ⟨drives, colon⟩)
  · exact proper.nonempty empty
  · cases style : l.style with
    | posix => exact proper.noSlash (by rwa [style] at separator)
    | windows => exact proper.noBackslash (by rw [style]; rfl) (by rwa [style] at separator)
  · exact plain.colonless drives segment member colon

/-- Comparing keeps marks apart from segments. -/
theorem forall_isMark_folded {style : PathStyle} {texts : List String} :
    (∀ text ∈ texts.map style.folded, style.IsMark text) ↔ ∀ text ∈ texts, style.IsMark text := by
  simp

/-- Comparing keeps segments apart from marks. -/
theorem forall_not_isMark_folded {style : PathStyle} {texts : List String} :
    (∀ text ∈ texts.map style.folded, ¬ style.IsMark text) ↔
      ∀ text ∈ texts, ¬ style.IsMark text := by
  simp

/-- Named locations of one style have tops that compare as equal exactly if their anchors do. -/
theorem anchorParts_folded_iff (first : a.IsNamed) (second : b.IsNamed) (styles : a.style = b.style) :
    a.anchorParts.map a.style.folded = b.anchorParts.map a.style.folded ↔
      a.style.folded a.drive = a.style.folded b.drive ∧ a.root = b.root := by
  rw [← folded_anchor_iff first second styles]
  -- An anchor compares as nothing only if there is none.
  have bare : ∀ {l : Location}, l.isAnchored = false ↔ l.anchor = "" := by
    intro l
    simp [isAnchored, anchor, String.append_eq_empty_iff]
  have empty : ∀ {l : Location}, l.isAnchored = false → a.style.folded l.anchor = "" := by
    intro l unanchored
    rw [bare.mp unanchored, PathStyle.folded_eq_empty_iff]
  have shown : ∀ {l : Location}, l.isAnchored = true → a.style.folded l.anchor ≠ "" := by
    intro l anchored none
    rw [PathStyle.folded_eq_empty_iff, ← bare, anchored] at none
    cases none
  unfold anchorParts
  cases own : a.isAnchored <;> cases other : b.isAnchored
  · simp [empty own, empty other]
  · simpa [empty own] using (shown other).symm
  · simpa [empty other] using shown own
  · simp

/-- Unambiguous locations count as the same exactly if they compare as equal. -/
theorem same_iff_folded (first : a.IsUnambiguous) (second : b.IsUnambiguous) :
    a.same b = true ↔ a.folded = b.folded := by
  simp only [same, Bool.and_eq_true, beq_iff_eq]
  constructor
  -- The anchor's parts are marks and the segments are not, so the two join without overlap.
  · rintro ⟨styles, parts⟩
    rw [foldedParts, foldedParts, parts_eq, parts_eq, List.map_append, List.map_append, ← styles,
      append_marked_inj (p := a.style.IsMark) (forall_isMark_folded.mpr first.named.anchorParts_isMark)
        (forall_isMark_folded.mpr (styles ▸ second.named.anchorParts_isMark))
        (forall_not_isMark_folded.mpr first.not_isMark)
        (forall_not_isMark_folded.mpr (styles ▸ second.not_isMark)),
      anchorParts_folded_iff first.named second.named styles] at parts
    obtain ⟨⟨drives, roots⟩, segments⟩ := parts
    simp [folded, ← styles, drives, roots, segments]
  · intro same
    have styles : a.style = b.style := (congrArg Location.style same :)
    have drives := congrArg Location.drive same
    have segments := congrArg Location.segments same
    have roots := congrArg Location.root same
    -- Folding keeps the root, and the folded anchors agree where drive and root do.
    simp only [folded] at drives segments roots
    rw [first.named.folded_root, second.named.folded_root] at roots
    rw [← styles] at drives segments
    have tops := (anchorParts_folded_iff first.named second.named styles).mpr ⟨drives, roots⟩
    refine ⟨styles, ?_⟩
    rw [foldedParts, foldedParts, parts_eq, parts_eq, List.map_append, List.map_append, ← styles, tops,
      segments]

/-- A named location encloses another one, as they compare, exactly if the drives compare as equal,
the roots are the same, and the segments of the one begin those of the other. -/
theorem folded_encloses_iff (first : a.IsNamed) (second : b.IsNamed) (styles : a.style = b.style) :
    a.folded.Encloses b.folded ↔ (a.style.folded a.drive = a.style.folded b.drive ∧ a.root = b.root) ∧
      a.segments.map a.style.folded <+: b.segments.map a.style.folded := by
  -- Folding leaves the root alone, so roots are compared as they are.
  have own := first.folded_root
  have other := second.folded_root
  constructor
  · rintro ⟨_, drives, roots, segments⟩
    simp only [folded, ← styles] at drives roots segments other
    exact ⟨⟨drives, by rw [← own, roots, other]⟩, segments⟩
  · rintro ⟨⟨drives, roots⟩, segments⟩
    refine ⟨styles, ?_, ?_, ?_⟩ <;> simp only [folded, ← styles]
    · exact drives
    · rw [roots]
    · exact segments

/-- Named locations of one style have tops that compare as equal exactly if their steps do. -/
theorem anchorSteps_folded_iff (first : a.IsNamed) (second : b.IsNamed) (styles : a.style = b.style) :
    a.anchorSteps.map a.style.folded = b.anchorSteps.map a.style.folded ↔
      a.style.folded a.drive = a.style.folded b.drive ∧ a.root = b.root := by
  have own := first.folded_root
  have other := second.folded_root
  rw [← styles] at other
  -- A drive compares as nothing only if there is none.
  have none : a.style.folded "" = "" := (PathStyle.folded_eq_empty_iff _ _).mpr rfl
  have some : ∀ {text : String}, text ≠ "" → a.style.folded text ≠ "" :=
    fun shown => mt (PathStyle.folded_eq_empty_iff _ _).mp shown
  unfold anchorSteps
  rcases eq_or_ne a.root "" with bare | rooted <;> rcases eq_or_ne b.root "" with bareToo | rootedToo
  · rcases eq_or_ne a.drive "" with driveless | driven <;>
      rcases eq_or_ne b.drive "" with drivelessToo | drivenToo
    · simp [bare, bareToo, driveless, drivelessToo]
    · simp [bare, bareToo, driveless, drivenToo, none, (some drivenToo).symm]
    · simp [bare, bareToo, driven, drivelessToo, none, some driven]
    · simp [bare, bareToo, driven, drivenToo]
  · rcases eq_or_ne a.drive "" with driveless | driven
    · simp [bare, rootedToo, rootedToo.symm, driveless]
    · simp [bare, rootedToo, rootedToo.symm, driven]
  · rcases eq_or_ne b.drive "" with driveless | driven
    · simp [rooted, bareToo, driveless]
    · simp [rooted, bareToo, driven]
  · simp [rooted, rootedToo, own, other]

/-- What is left of a location below a base that is read again as it is. -/
theorem remainder?_eq (again : base.reread = base) : l.remainder? base =
    if (base.steps = [] → l.isAnchored = false) ∧
        base.steps.map l.style.folded <+: l.steps.map l.style.folded then
      if base.steps.length = 1 ∧ l.root ≠ "" then some { l with drive := "" }
      else some (relative l.style (l.steps.drop base.steps.length))
    else none := by
  have inside : (if base.steps.length == 0 then !l.isAnchored else
      (l.steps.take base.steps.length).map l.style.folded == base.steps.map l.style.folded) = true ↔
      (base.steps = [] → l.isAnchored = false) ∧
        base.steps.map l.style.folded <+: l.steps.map l.style.folded := by
    -- The empty base is asked for no steps, and any other one for no anchor.
    by_cases none : base.steps = []
    · simp [none]
    · rw [if_neg (by simpa using none), beq_iff_eq, List.map_take, List.prefix_iff_eq_take,
        List.length_map, eq_comm]
      exact (and_iff_right (absurd · none)).symm
  simp only [remainder?, again, inside]
  simp only [Bool.and_eq_true, beq_iff_eq, bne_iff_ne, relative]

/-- What is left of a location below a base that encloses it, as they compare, are the names that
lead there. -/
theorem remainder?_of_encloses (again : base.reread = base) (encloses : base.folded.Encloses l.folded)
    (first : base.IsNamed) (second : l.IsNamed) :
    l.remainder? base = some (relative l.style (l.segments.drop base.segments.length)) := by
  have styles : base.style = l.style := encloses.style_eq
  -- The tops compare as equal, so as many steps lead to both, and the segments begin there.
  obtain ⟨tops, segments⟩ := (folded_encloses_iff first second styles).mp encloses
  rw [← anchorSteps_folded_iff first second styles, styles] at tops
  rw [styles] at segments
  have counted : base.anchorSteps.length = l.anchorSteps.length := by
    simpa using congrArg List.length tops
  have length : base.steps.length = l.anchorSteps.length + base.segments.length := by
    rw [steps_eq, List.length_append, counted]
  have left : l.steps.drop base.steps.length = l.segments.drop base.segments.length := by
    rw [steps_eq l, length, List.drop_append]
    simp
  have begins : base.steps.map l.style.folded <+: l.steps.map l.style.folded := by
    rw [steps_eq, steps_eq, List.map_append, List.map_append, tops, List.prefix_append_right_inj]
    exact segments
  have unanchored : base.steps = [] → l.isAnchored = false := by
    intro none
    rw [none, List.length_nil] at length
    rw [← anchorSteps_eq_nil_iff, ← List.length_eq_zero_iff]
    omega
  -- A location with a root takes two steps to its top.
  have unrooted : ¬ (base.steps.length = 1 ∧ l.root ≠ "") := by
    rintro ⟨single, rooted⟩
    have top : l.anchorSteps.length = 2 := by simp [anchorSteps, rooted]
    omega
  rw [remainder?_eq again, if_pos ⟨unanchored, begins⟩, if_neg unrooted, left]

/-- Nothing is left of a location below a base that does not keep its anchor, even if that one encloses
it. -/
theorem remainder?_of_lost (plain : base.IsUnambiguous) (lost : ¬ base.KeepsAnchor)
    (encloses : base.folded.Encloses l.folded) (second : l.IsNamed) : l.remainder? base = none := by
  have styles : base.style = l.style := encloses.style_eq
  obtain ⟨⟨drives, roots⟩, _⟩ := (folded_encloses_iff plain.named second styles).mp encloses
  cases style : base.style with
  | posix => exact absurd ((isNamed_posix_iff style).mp plain.named).keepsAnchor lost
  | windows =>
    have anchor := plain.named.isAnchor style
    rw [plain.named.keepsAnchor_iff style] at lost
    -- What does not read back is a share, which has a root.
    have slash : base.root = "\\" := String.toList_inj.mp (anchor.splitsBack.rooted lost)
    obtain ⟨root, reads⟩ := anchor.splitsBack.lost lost
    let drive := String.ofList (splitWindowsRoot (base.drive.toList ++ base.root.toList)).drive
    -- The base is read as one on a drive that reads back, so the drives do not compare as equal.
    have different : Text.toSmall l.drive ≠ Text.toSmall drive := by
      intro same
      rw [style] at drives
      change Text.toSmall base.drive = Text.toSmall l.drive at drives
      apply lost
      rw [← readsBack_toSmall_iff, drives, same, readsBack_toSmall_iff, String.toList_ofList]
      exact reads
    have rootRead : String.ofList (splitWindowsRoot (base.drive.toList ++ base.root.toList)).root =
        "\\" := by rw [root]
    obtain ⟨more, steps⟩ : ∃ more, base.reread.steps = drive :: "\\" :: more := by
      rw [plain.reread_eq, style, plain.named.ofText_anchor style, steps_eq, anchorSteps]
      simp only [below, rootRead]
      exact ⟨_, rfl⟩
    have own : ∃ more, l.steps = l.drive :: l.root :: more := by
      rw [steps_eq, anchorSteps, ← roots, slash]
      exact ⟨_, rfl⟩
    obtain ⟨others, own⟩ := own
    rw [remainder?, steps, own]
    simp [← styles, style, PathStyle.folded, different]

/-- Whether a location is on the drive that is all of a base, and has a root there. -/
structure IsRootedOn (l base : Location) : Prop where
  drive_eq : base.style.folded base.drive = base.style.folded l.drive
  driven : base.drive ≠ ""
  bare : base.root = "" ∧ base.segments = []
  rooted : l.root ≠ ""

/-- Something is left of a location only below a base that encloses it, as they compare, or below
its bare drive. -/
theorem encloses_of_remainder? (again : base.reread = base) (first : base.IsUnambiguous)
    (second : l.IsUnambiguous) (styles : base.style = l.style) {rest : Location}
    (left : l.remainder? base = some rest) : base.folded.Encloses l.folded ∨ l.IsRootedOn base := by
  obtain ⟨unanchored, begins⟩ : (base.steps = [] → l.isAnchored = false) ∧
      base.steps.map l.style.folded <+: l.steps.map l.style.folded := by
    rw [remainder?_eq again] at left
    by_contra outside
    rw [if_neg outside] at left
    cases left
  rw [folded_encloses_iff first.named second.named styles,
    ← anchorSteps_folded_iff first.named second.named styles]
  rw [← styles, steps_eq base, steps_eq l, List.map_append, List.map_append,
    append_marked_prefix (p := base.style.IsMark)
      (forall_isMark_folded.mpr first.named.anchorSteps_isMark)
      (forall_isMark_folded.mpr (styles ▸ second.named.anchorSteps_isMark))
      (forall_not_isMark_folded.mpr first.not_isMark)
      (forall_not_isMark_folded.mpr (styles ▸ second.not_isMark))] at begins
  refine begins.imp id ?_
  rintro ⟨shorter, different, noSegments⟩
  -- There are fewer steps to the top of the base than to that of the location, and still some.
  have segments : base.segments = [] := List.map_eq_nil_iff.mp noSegments
  have fewer : base.anchorSteps.length < l.anchorSteps.length := by
    by_contra longer
    exact different (shorter.eq_of_length_le (by simpa using longer))
  have top : base.anchorSteps ≠ [] := by
    intro empty
    have noSteps := unanchored (by rw [steps_eq, empty, segments, List.append_nil])
    rw [anchorSteps_eq_nil_iff.mpr noSteps] at fewer
    exact absurd fewer (Nat.not_lt_zero _)
  obtain ⟨bare, driven, rooted⟩ := bare_of_anchorSteps_shorter fewer top
  simp only [anchorSteps, bare, driven, rooted, ne_eq, not_true_eq_false, if_false,
    not_false_eq_true, if_true, List.map_cons, List.map_nil, List.cons_prefix_cons] at shorter
  exact ⟨shorter.1, driven, ⟨bare, segments⟩, rooted⟩

end Location

end AutomationIndex
