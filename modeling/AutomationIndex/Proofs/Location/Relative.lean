import AutomationIndex.Proofs.Location.Remainder
import AutomationIndex.Proofs.Location.Written

/-! The written path from one location to another: it exists if the anchors agree and the first one is
read back, climbs no further than it has to, and leads there. -/

namespace AutomationIndex

section Shared

variable {α : Type} [DecidableEq α]

/-- What two lists begin with, as far as they agree. -/
def sharedBeginning : List α → List α → List α
  | a :: first, b :: second => if a = b then a :: sharedBeginning first second else []
  | _, _ => []

/-- What begins both lists begins what they share. -/
theorem prefix_sharedBeginning_iff {beginning first second : List α} :
    beginning <+: sharedBeginning first second ↔ beginning <+: first ∧ beginning <+: second := by
  -- Both lists are walked together, so the second is taken apart where the first is.
  induction first generalizing beginning second with
  | nil => simp +contextual [sharedBeginning]
  | cons a first ih =>
    cases second with
    | nil => simp +contextual [sharedBeginning]
    | cons b second =>
      cases beginning with
      | nil => simp
      | cons c beginning =>
        by_cases same : a = b
        -- An equal head is passed on both sides, and the rest is the induction hypothesis.
        · subst same
          simp only [sharedBeginning, if_true, List.cons_prefix_cons, ih]
          tauto
        -- At the first difference the shared beginning ends, and no longer list begins both.
        · simp only [sharedBeginning, same, if_false, List.cons_prefix_cons]
          refine iff_of_false (by simp) fun ⟨⟨first, _⟩, second, _⟩ => ?_
          exact same (first.symm.trans second)

/-- What two lists share begins both. -/
theorem sharedBeginning_begins (first second : List α) :
    sharedBeginning first second <+: first ∧ sharedBeginning first second <+: second :=
  prefix_sharedBeginning_iff.mp List.prefix_rfl

/-- As many elements of a list begin another one as it shares with that one. -/
theorem take_begins_iff {first second : List α} {count : Nat} (within : count ≤ first.length) :
    first.take count <+: second ↔ count ≤ (sharedBeginning first second).length := by
  -- What is taken from the first list begins both lists, so the shared beginning is no shorter.
  have counted : (first.take count).length = count := List.length_take_of_le within
  have begins := sharedBeginning_begins first second
  constructor
  · intro taken
    have shared := prefix_sharedBeginning_iff.mpr ⟨List.take_prefix count first, taken⟩
    simpa only [counted] using shared.length_le
  · intro fewer
    have shared : first.take count <+: sharedBeginning first second :=
      List.prefix_of_prefix_length_le (List.take_prefix count first) begins.1 (by rwa [counted])
    exact shared.trans begins.2

/-- A list shares all of itself with itself. -/
theorem sharedBeginning_self (list : List α) : sharedBeginning list list = list := by
  induction list with
  | nil => rfl
  | cons a list ih => simp [sharedBeginning, ih]

/-- Lists that begin in the same way share that and what they share afterwards. -/
theorem sharedBeginning_append (beginning first second : List α) :
    sharedBeginning (beginning ++ first) (beginning ++ second) =
      beginning ++ sharedBeginning first second := by
  induction beginning with
  | nil => rfl
  | cons a beginning ih => simp [sharedBeginning, ih]

end Shared

namespace Location

variable {a b l target : Location}

/-- The location some levels up. -/
def climbed (l : Location) (levels : Nat) : Location :=
  { l with segments := l.segments.take (l.segments.length - levels) }

/-- The ancestors of a location are what is found by climbing. -/
theorem ancestors_getElem? (l : Location) {levels : Nat} (within : levels ≤ l.segments.length) :
    l.ancestors[levels]? = some (l.climbed levels) := by
  have listed : levels < l.segments.length + 1 := by omega
  simp [ancestors, climbed, listed]

section Climb

variable {bases : List Location} {base rest : Location} {ups levels : Nat}

/-- Climbing stops at a location that something is left of the target below. -/
theorem climb?_here (left : target.remainder? base = some rest) :
    climb? target (base :: bases) ups = some (ups, rest) := by
  rw [climb?.eq_def]
  dsimp only
  rw [left]

/-- Climbing goes on from a location that nothing is left of the target below. -/
theorem climb?_onward (nothing : target.remainder? base = none) :
    climb? target (base :: bases) ups = climb? target bases (ups + 1) := by
  rw [climb?.eq_def]
  dsimp only
  rw [nothing]

/-- Climbing stops at the first location that encloses the target. -/
theorem climb?_eq_some (here : bases[levels]? = some base)
    (left : target.remainder? base = some rest)
    (before : ∀ m < levels, ∀ other, bases[m]? = some other → target.remainder? other = none)
    (ups : Nat) : climb? target bases ups = some (ups + levels, rest) := by
  -- The induction follows the bases, of which all before the first one that encloses are passed.
  induction bases generalizing levels ups with
  | nil => cases here
  | cons first bases ih =>
    cases levels with
    | zero =>
      obtain rfl : first = base := by simpa using here
      exact climb?_here left
    | succ levels =>
      have nothing := before 0 (Nat.succ_pos _) first rfl
      have there : bases[levels]? = some base := by simpa using here
      have later := ih there
        (fun m fewer other found => before (m + 1) (by omega) other (by simpa using found)) (ups + 1)
      rw [climb?_onward nothing, later, Nat.add_right_comm, Nat.add_assoc]

/-- Where climbing stops, something is left of the target. -/
theorem exists_of_climb? (climbs : climb? target bases ups = some (levels, rest)) :
    ∃ base ∈ bases, target.remainder? base = some rest := by
  -- The induction is on the bases still to climb to; the ones left behind only change `ups`.
  induction bases generalizing ups with
  | nil => cases climbs
  | cons first bases ih =>
    cases left : target.remainder? first with
    | some remaining =>
      rw [climb?_here left] at climbs
      obtain ⟨_, rfl⟩ := Prod.mk.inj (Option.some.inj climbs)
      exact ⟨first, List.mem_cons_self, left⟩
    | none =>
      rw [climb?_onward left] at climbs
      obtain ⟨base, member, remains⟩ := ih climbs
      exact ⟨base, List.mem_cons_of_mem _ member, remains⟩

end Climb

/-- Climbing from an unambiguous location leads to one. -/
theorem IsUnambiguous.climbed (plain : l.IsUnambiguous) (levels : Nat) :
    (l.climbed levels).IsUnambiguous :=
  ⟨plain.named.ofSegments (List.take_subset _ _), fun drives segment member =>
    plain.colonless drives segment (List.take_subset _ _ member)⟩

/-- Locations that keep their anchors have the same one exactly if their drives compare as equal and
they have the same root. -/
theorem sameAnchor_iff (first : a.IsNamed) (second : b.IsNamed) (styles : a.style = b.style)
    (kept : a.KeepsAnchor) (keptToo : b.KeepsAnchor) : sameAnchor a b = true ↔
      a.style.folded a.drive = a.style.folded b.drive ∧ a.root = b.root := by
  -- Both sides compare the parts of the bare anchors, which `anchorParts_folded_iff` decides.
  have top : ∀ l : Location, { l with segments := [] }.parts = l.anchorParts := by
    intro l
    rw [parts_eq]
    exact List.append_nil _
  rw [sameAnchor, kept, keptToo, ← anchorParts_folded_iff first second styles]
  simp only [same, foldedParts, top]
  simp [styles]

/-- Written paths lead only between locations of one anchor. -/
theorem anchors_of_relativePath (first : a.IsUnambiguous) (second : b.IsUnambiguous)
    (styles : a.style = b.style) (kept : a.KeepsAnchor) {text : String}
    (written : relativePath a b = some text) :
    a.style.folded a.drive = a.style.folded b.drive ∧ a.root = b.root := by
  unfold relativePath at written
  split at written
  · next agree =>
    split at written
    · next ups rest climbs =>
      obtain ⟨base, member, left⟩ := exists_of_climb? climbs
      obtain ⟨levels, _, rfl⟩ := List.mem_map.mp member
      have plain : (a.climbed levels).IsUnambiguous := first.climbed levels
      have again : (a.climbed levels).reread = a.climbed levels := plain.reread_eq_self kept
      rcases encloses_of_remainder? again plain second styles left with encloses | rooted
      · exact ((folded_encloses_iff plain.named second.named styles).mp encloses).1
      · -- On a bare drive, the other anchor would be kept and differ.
        have drives := rooted.drive_eq
        have keptToo := (keepsAnchor_congr first.named second.named styles drives).mp kept
        exact (sameAnchor_iff first.named second.named styles kept keptToo).mp agree
    · cases written
  · cases written

/-- What a written path from one location to another says: it climbs some levels and then goes down by
names. -/
structure LeadsBy (source target : Location) (text : String) (ups : Nat) (names : List String) :
    Prop where
  /-- Read as a path, the text is made of these steps. -/
  read : ofText target.style text = relative target.style (List.replicate ups ".." ++ names)
  downward : ".." ∉ names
  /-- No further up than to what both locations begin with, as the style compares them. -/
  shortest : ups + (sharedBeginning source.foldedParts target.foldedParts).length =
    source.parts.length
  within : ups ≤ source.segments.length
  arrives : ((source.climbed ups).below names).same target = true
  dot_iff : text = "." ↔ source.same target = true

/-- The empty location is written as a dot, and no other one is read from it. -/
theorem relative_text_eq_dot_iff {style : PathStyle} {names : List String}
    (read : ofText style (relative style names).text = relative style names) :
    (relative style names).text = "." ↔ names = [] := by
  constructor
  · intro dot
    -- Reading the text back decides the question, since `.` is read as the empty relative location.
    have empty : ofText style "." = relative style [] := by cases style <;> decide
    rw [dot, empty] at read
    exact (congrArg Location.segments read).symm
  · rintro rfl
    cases style <;> decide

/-- The steps of a written path: up, and then down to a location without colons in its segments. -/
theorem ups_proper {style : PathStyle} {names : List String} (ups : Nat)
    (proper : ∀ name ∈ names, SegmentIn style name)
    (colonless : style.hasDrives = true → ∀ name ∈ names, ':' ∉ name.toList) :
    (∀ step ∈ List.replicate ups ".." ++ names, SegmentIn style step) ∧
      (style.hasDrives = true → ∀ step ∈ List.replicate ups ".." ++ names, ':' ∉ step.toList) := by
  -- A step up is a proper name in either flavour and holds no colon, so it changes neither
  -- condition.
  have up : SegmentIn style ".." := ⟨by decide, by decide, by decide, fun _ => by decide⟩
  constructor
  · refine List.forall_mem_append.mpr ⟨fun step member => ?_, proper⟩
    exact List.eq_of_mem_replicate member ▸ up
  · refine fun drives => List.forall_mem_append.mpr ⟨fun step member => ?_, colonless drives⟩
    rw [List.eq_of_mem_replicate member]
    decide

section Written

variable (first : a.IsUnambiguous) (second : b.IsUnambiguous) (styles : a.style = b.style)
  (agree : a.style.folded a.drive = a.style.folded b.drive ∧ a.root = b.root) {common : Nat}
  (shared : common = (sharedBeginning (a.segments.map a.style.folded)
    (b.segments.map a.style.folded)).length)

include shared in
/-- A location has all segments that it shares. -/
theorem shared_le : common ≤ a.segments.length := by
  simpa [shared] using (sharedBeginning_begins (a.segments.map a.style.folded)
    (b.segments.map a.style.folded)).1.length_le

include first second styles agree shared in
/-- Some levels up, a location encloses another one of its anchor exactly if no more segments are left
than are shared. -/
theorem climbed_encloses_iff (levels : Nat) : (a.climbed levels).folded.Encloses b.folded ↔
    a.segments.length - levels ≤ common := by
  rw [folded_encloses_iff (first.climbed levels).named second.named styles]
  change (a.style.folded a.drive = a.style.folded b.drive ∧ a.root = b.root) ∧
    (a.segments.take (a.segments.length - levels)).map a.style.folded <+: _ ↔ _
  rw [and_iff_right agree, List.map_take, shared]
  exact take_begins_iff (by simp)

include first second styles agree shared in
/-- Climbing from a location that keeps its anchor stops as soon as the segments left begin those of
the target. -/
theorem climb?_ancestors (kept : a.KeepsAnchor) : climb? b a.ancestors 0 =
    some (a.segments.length - common, relative a.style (b.segments.drop common)) := by
  have encloses := climbed_encloses_iff first second styles agree shared
  have again : ∀ levels, (a.climbed levels).reread = a.climbed levels :=
    fun levels => (first.climbed levels).reread_eq_self kept
  have within := shared_le shared
  have kept_levels : a.segments.length - (a.segments.length - common) = common := by omega
  have left : b.remainder? (a.climbed (a.segments.length - common)) =
      some (relative a.style (b.segments.drop common)) := by
    rw [remainder?_of_encloses (again _) ((encloses _).mpr kept_levels.le) (first.climbed _).named
      second.named, ← styles]
    simp [climbed, kept_levels, within]
  have climbs := climb?_eq_some (ancestors_getElem? a (Nat.sub_le _ common)) left ?_ 0
  · rwa [Nat.zero_add] at climbs
  · intro levels fewer other found
    rw [ancestors_getElem? a (by omega)] at found
    obtain rfl := Option.some.inj found
    cases more : b.remainder? (a.climbed levels) with
    | none => rfl
    | some rest =>
      rcases encloses_of_remainder? (again _) (first.climbed _) second styles more with
        enclosing | rooted
      · -- More segments are left than are shared.
        have bound := (encloses levels).mp enclosing
        omega
      · exact absurd (agree.2.symm.trans rooted.bare.1) rooted.rooted

include first second styles agree shared in
/-- The path that is written between locations of one anchor that is kept. -/
theorem relativePath_eq (kept : a.KeepsAnchor) : relativePath a b = some (relative b.style
    (List.replicate (a.segments.length - common) ".." ++ b.segments.drop common)).text := by
  -- The same anchors pass the first test of `relativePath`, and the climb meets the shared
  -- beginning.
  have keptToo := (keepsAnchor_congr first.named second.named styles agree.1).mp kept
  have same := (sameAnchor_iff first.named second.named styles kept keptToo).mpr agree
  have names : (relative a.style (b.segments.drop common)).parts = b.segments.drop common := rfl
  -- Each step of the answer is read back as the one segment it was written from.
  have proper : ∀ step ∈ List.replicate (a.segments.length - common) ".." ++ b.segments.drop common,
      ReadsAsSegment b.style step := by
    obtain ⟨ok, colonless⟩ := ups_proper (a.segments.length - common)
      (fun name member => second.named.segmentIn name (List.drop_subset _ _ member))
      (fun drives name member => second.colonless drives name (List.drop_subset _ _ member))
    exact fun step member =>
      (ok step member).readsAsSegment fun drives => colonless drives step member
  simp only [relativePath, same, if_true, climb?_ancestors first second styles agree shared kept, names]
  -- What is left is the answer's text: a dot for no step at all, the joined steps otherwise.
  generalize List.replicate (a.segments.length - common) ".." ++ b.segments.drop common = steps at proper
  cases steps with
  | nil => cases b.style <;> decide
  | cons step steps => exact congrArg (fun l => some l.text) (ofParts_read proper)

include shared in
/-- As many segments as are shared compare as equal. -/
theorem take_shared : (a.segments.take common).map a.style.folded =
    (b.segments.take common).map a.style.folded := by
  obtain ⟨own, other⟩ :=
    sharedBeginning_begins (a.segments.map a.style.folded) (b.segments.map a.style.folded)
  rw [List.map_take, List.map_take, shared, ← List.prefix_iff_eq_take.mp own,
    ← List.prefix_iff_eq_take.mp other]

include first second styles agree in
/-- Locations of one anchor count as the same exactly if their segments compare as equal. -/
theorem same_iff_segments : a.same b = true ↔
    a.segments.map a.style.folded = b.segments.map a.style.folded := by
  -- The drives and roots agree already, so only the segments are left to compare.
  rw [same_iff_folded first second]
  constructor
  · intro equal
    have segments := congrArg Location.segments equal
    simpa [folded, styles] using segments
  · intro segments
    obtain ⟨drives, roots⟩ := agree
    simp only [folded, ← styles, drives, roots, segments]

include first second styles agree shared in
/-- All segments are shared exactly by locations that count as the same. -/
theorem same_iff_shared : a.same b = true ↔
    a.segments.length ≤ common ∧ b.segments.length ≤ common := by
  -- The locations agree where both are used up by what they share.
  rw [same_iff_segments first second styles agree]
  constructor
  · intro equal
    have lengths : a.segments.length = b.segments.length := by simpa using congrArg List.length equal
    rw [shared, equal, sharedBeginning_self, List.length_map]
    exact ⟨lengths.le, le_rfl⟩
  · rintro ⟨own, other⟩
    have whole := take_shared shared
    rwa [List.take_of_length_le own, List.take_of_length_le other] at whole

include first second styles agree shared in
/-- These steps lead from the one location to the other. -/
theorem leadsBy_shared (noUps : ".." ∉ b.segments) : LeadsBy a b (relative b.style
    (List.replicate (a.segments.length - common) ".." ++ b.segments.drop common)).text
    (a.segments.length - common) (b.segments.drop common) := by
  obtain ⟨ok, colonless⟩ := ups_proper (a.segments.length - common)
    (fun name member => second.named.segmentIn name (List.drop_subset common _ member))
    (fun drives name member => second.colonless drives name (List.drop_subset common _ member))
  have read := ofText_relative ok colonless
  have within := shared_le shared
  -- With one anchor, the parts share it and what the segments share.
  have tops : a.anchorParts.map a.style.folded = b.anchorParts.map b.style.folded := by
    rw [← styles]
    exact (anchorParts_folded_iff first.named second.named styles).mpr agree
  have kept_levels : a.segments.length - (a.segments.length - common) = common := by omega
  refine ⟨read, fun member => noUps (List.drop_subset _ _ member), ?_, Nat.sub_le _ _, ?_, ?_⟩
  · rw [foldedParts, foldedParts, parts_eq, parts_eq, List.map_append, List.map_append, tops,
      sharedBeginning_append, List.length_append, ← tops, List.length_map, List.length_append]
    rw [← styles, ← shared]
    omega
  · have plain : ((a.climbed (a.segments.length - common)).below
        (b.segments.drop common)).IsUnambiguous := by
      have climbed := first.climbed (a.segments.length - common)
      refine ⟨⟨climbed.named.anchorIn, List.forall_mem_append.mpr ⟨climbed.named.segmentIn, ?_⟩⟩,
        fun drives => List.forall_mem_append.mpr ⟨climbed.colonless drives, ?_⟩⟩
      · intro name member
        have own := second.named.segmentIn name (List.drop_subset _ _ member)
        rwa [← styles] at own
      · exact fun name member =>
          second.colonless (styles ▸ drives) name (List.drop_subset _ _ member)
    rw [same_iff_segments plain second styles agree]
    simp only [below, climbed, kept_levels, List.map_append, take_shared shared]
    rw [← List.map_append, List.take_append_drop]
  · rw [relative_text_eq_dot_iff read, same_iff_shared first second styles agree shared]
    simp [Nat.sub_eq_zero_iff_le]

end Written

/-- Nothing leads from a location that does not keep its anchor to itself. -/
theorem relativePath_self_of_lost (plain : a.IsUnambiguous) (lost : ¬ a.KeepsAnchor) :
    relativePath a a = none := by
  unfold relativePath
  split
  · split
    · next climbs =>
      -- Every location on the way up has the anchor that is not kept, so nothing is left below it.
      obtain ⟨base, member, left⟩ := exists_of_climb? climbs
      obtain ⟨levels, _, rfl⟩ := List.mem_map.mp member
      have outer := plain.climbed levels
      have encloses : (a.climbed levels).folded.Encloses a.folded := by
        rw [folded_encloses_iff outer.named plain.named rfl]
        exact ⟨⟨rfl, rfl⟩, (List.take_prefix _ _).map _⟩
      have nothing := remainder?_of_lost outer lost encloses plain.named
      exact absurd (nothing.symm.trans left) (by simp)
    · rfl
  · rfl

/-- The written path from one location to another, where no segment is a double dot or could be taken
for a drive. If the anchor of the first location is kept when it is read again, as it always is in
posix style, then there is none exactly if the anchors do not compare as equal, and otherwise the one
that there is climbs no further than it has to and leads there. A location whose anchor is not kept is
not even found from itself. -/
theorem relativePath_leads (first : a.IsUnambiguous) (second : b.IsUnambiguous)
    (styles : a.style = b.style) (noUps : ".." ∉ b.segments) :
    (a.KeepsAnchor →
      (relativePath a b = none ↔ a.style.folded a.anchor ≠ a.style.folded b.anchor) ∧
      ∀ text, relativePath a b = some text → ∃ ups names, LeadsBy a b text ups names) ∧
    (a.style = .posix → a.KeepsAnchor) ∧
    (¬ a.KeepsAnchor → relativePath a a = none) := by
  refine ⟨fun kept => ?_, fun posix => ?_, relativePath_self_of_lost first⟩
  · -- Where the anchors agree, a path is written, and only there.
    have path := fun agree => relativePath_eq first second styles agree rfl kept
    rw [Ne, folded_anchor_iff first.named second.named styles]
    constructor
    · constructor
      · intro none agree
        rw [path agree] at none
        cases none
      · intro differ
        cases written : relativePath a b with
        | none => rfl
        | some text => exact absurd (anchors_of_relativePath first second styles kept written) differ
    · intro text written
      have agree := anchors_of_relativePath first second styles kept written
      rw [path agree, Option.some.injEq] at written
      exact ⟨_, _, written ▸ leadsBy_shared first second styles agree rfl noUps⟩
  · exact ((isNamed_posix_iff posix).mp first.named).keepsAnchor

/-- On one drive in any case, a path leads up and down again. -/
theorem relativePath_leads_drive : ∃ ups names,
    LeadsBy (ofText .windows "C:\\Temp\\A") (ofText .windows "c:/TEMP/B/C") "..\\B\\C" ups names := by
  -- The two locations differ in letter case and in separators, and neither is refused for it.
  have plain : (ofText .windows "C:\\Temp\\A").IsUnambiguous :=
    ⟨ofParts_isNamed _ _, fun _ => by decide +kernel⟩
  have other : (ofText .windows "c:/TEMP/B/C").IsUnambiguous :=
    ⟨ofParts_isNamed _ _, fun _ => by decide +kernel⟩
  have kept : (ofText .windows "C:\\Temp\\A").KeepsAnchor := by decide +kernel
  exact ((relativePath_leads plain other rfl (by decide +kernel)).1 kept).2 _ (by decide +kernel)

/-- A machine's share without a name has no path to itself. -/
theorem relativePath_unnamedShare :
    (ofText .windows "\\\\server\\").segments = [] ∧
      relativePath (ofText .windows "\\\\server\\") (ofText .windows "\\\\server\\") = none := by
  decide +kernel

end Location

end AutomationIndex
