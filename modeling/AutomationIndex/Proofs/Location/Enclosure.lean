import AutomationIndex.Location.Containment
import AutomationIndex.Proofs.Location.Spelling
import Mathlib.Data.List.Nodup

/-! Enclosure of locations by their spelling, and the deepest location that encloses another one. -/

namespace AutomationIndex.Location

/-- Whether a location is another one or lies above it, as both are written. -/
structure Encloses (outer inner : Location) : Prop where
  style_eq : outer.style = inner.style
  drive_eq : outer.drive = inner.drive
  root_eq : outer.root = inner.root
  segments_begin : outer.segments <+: inner.segments

/-- A location encloses itself. -/
theorem Encloses.refl (l : Location) : l.Encloses l :=
  ⟨rfl, rfl, rfl, List.prefix_rfl⟩

/-- What encloses an enclosing location encloses what that one does. -/
theorem Encloses.trans {a b c : Location} (outer : a.Encloses b) (inner : b.Encloses c) :
    a.Encloses c :=
  ⟨outer.style_eq.trans inner.style_eq, outer.drive_eq.trans inner.drive_eq,
    outer.root_eq.trans inner.root_eq, outer.segments_begin.trans inner.segments_begin⟩

/-- Two locations that enclose each other are one. -/
theorem Encloses.antisymm {a b : Location} (outer : a.Encloses b) (inner : b.Encloses a) : a = b := by
  -- Neither list of segments is longer than the other.
  have segments := outer.segments_begin.eq_of_length_le inner.segments_begin.length_le
  obtain ⟨style, drive, root, _⟩ := outer
  cases a
  cases b
  simp_all

/-- Of two locations that enclose a third one, the one with fewer segments encloses the other. -/
theorem Encloses.of_length_le {a b l : Location} (first : a.Encloses l) (second : b.Encloses l)
    (shorter : a.segments.length ≤ b.segments.length) : a.Encloses b :=
  ⟨first.style_eq.trans second.style_eq.symm, first.drive_eq.trans second.drive_eq.symm,
    first.root_eq.trans second.root_eq.symm,
    List.prefix_of_prefix_length_le first.segments_begin second.segments_begin shorter⟩

/-- A location encloses what some names lead to below it. -/
theorem encloses_below (l : Location) (names : List String) : l.Encloses (l.below names) :=
  ⟨rfl, rfl, rfl, List.prefix_append _ _⟩

/-- Posix locations count as the same only if they are. -/
theorem same_iff_eq {a b : Location} (first : a.IsPosix) (second : b.IsPosix) :
    a.same b = true ↔ a = b := by
  -- The parts of a posix location determine it.
  have folded : PathStyle.posix.folded = id := rfl
  constructor
  · intro equal
    have parts : a.parts = b.parts := by
      simpa [same, foldedParts, first.style_eq, second.style_eq, folded] using equal
    rw [← ofParts_parts first, ← ofParts_parts second, parts]
  · rintro rfl
    simp [same]

/-- The steps to a posix location tell its root apart from its segments. -/
theorem IsPosix.steps_eq {l : Location} (plain : l.IsPosix) :
    l.steps = if l.root = "" then l.segments else "" :: l.root :: l.segments := by
  by_cases rootless : l.root = "" <;>
    simp [steps, parts, isAnchored, rootless, plain.drive_eq]

/-- The steps to a posix location begin with those to another one exactly if that one encloses it,
where there are any. -/
theorem steps_prefix_iff {a l : Location} (outer : a.IsPosix) (inner : l.IsPosix)
    (some : a.steps ≠ []) : a.steps <+: l.steps ↔ a.Encloses l := by
  have style := outer.style_eq.trans inner.style_eq.symm
  have drive := outer.drive_eq.trans inner.drive_eq.symm
  -- An empty step stands for the missing drive and is no segment, so roots do not mix.
  have noEmpty : ∀ {l : Location}, l.IsPosix → "" ∉ l.segments := by
    intro l plain member
    simpa [isSegment] using plain.segments_ok "" member
  rw [outer.steps_eq, inner.steps_eq]
  by_cases rootless : a.root = "" <;> by_cases bare : l.root = ""
  · -- Without roots, the steps are the segments.
    simp only [rootless, bare, if_true]
    exact ⟨fun shared => ⟨style, drive, rootless.trans bare.symm, shared⟩, (·.segments_begin)⟩
  · simp only [rootless, bare, if_true, if_false]
    constructor
    · intro shared
      -- The first segment would have to be the empty step of the other location.
      rw [outer.steps_eq, if_pos rootless] at some
      obtain ⟨first, rest, segments⟩ := List.exists_cons_of_ne_nil some
      rw [segments, List.cons_prefix_cons] at shared
      exact absurd (by simp [segments, shared.1]) (noEmpty outer)
    · intro encloses
      exact absurd (encloses.root_eq.symm.trans rootless) bare
  · simp only [rootless, bare, if_true, if_false]
    constructor
    · intro shared
      -- The empty step would have to be a segment of the other location.
      exact absurd (shared.subset (by simp)) (noEmpty inner)
    · intro encloses
      exact absurd (encloses.root_eq.trans bare) rootless
  · -- With roots, these have to agree before the segments do.
    simp only [rootless, bare, if_false, List.cons_prefix_cons, true_and]
    exact ⟨fun shared => ⟨style, drive, shared.1, shared.2⟩,
      fun encloses => ⟨encloses.root_eq, encloses.segments_begin⟩⟩

/-- A posix location lies within another one exactly if that one encloses it. -/
theorem isWithin_iff_encloses {a l : Location} (outer : a.IsPosix) (inner : l.IsPosix) :
    l.isWithin a = true ↔ a.Encloses l := by
  -- Comparing reads the location once more, which changes nothing.
  have again : a.reread = a := by rw [reread, outer.style_eq, ofParts_parts outer]
  have folded : PathStyle.posix.folded = id := rfl
  by_cases empty : a.steps = []
  · -- The empty location encloses whatever has no root.
    have spelled := outer.steps_eq
    rw [empty] at spelled
    have rootless : a.root = "" := by
      by_contra rooted
      simp [rooted] at spelled
    have segments : a.segments = [] := by simpa [rootless] using spelled.symm
    have within : l.isWithin a = true ↔ l.root = "" := by
      simp [isWithin, remainder?, again, empty, isAnchored, inner.drive_eq]
    rw [within]
    constructor
    · intro bare
      exact ⟨outer.style_eq.trans inner.style_eq.symm, outer.drive_eq.trans inner.drive_eq.symm,
        rootless.trans bare.symm, by simp [segments]⟩
    · intro encloses
      exact encloses.root_eq.symm.trans rootless
  · have counted : (a.steps.length == 0) = false := by simpa using empty
    have within : l.isWithin a = true ↔ a.steps <+: l.steps := by
      rw [List.prefix_iff_eq_take, isWithin, remainder?]
      simp only [again, counted, inner.style_eq, folded, List.map_id, Bool.false_eq_true, if_false]
      -- What remains is found by cutting off as many steps as the other location has.
      by_cases shared : l.steps.take a.steps.length = a.steps
      · simp only [shared, beq_self_eq_true, if_true]
        split <;> simp
      · have different : a.steps ≠ l.steps.take a.steps.length := fun same => shared same.symm
        simp [shared, different]
    rw [within, steps_prefix_iff outer inner empty]

/-- A posix location contains another one, or equals it, exactly if it encloses it. -/
theorem contains_iff_encloses {a l : Location} (outer : a.IsPosix) (inner : l.IsPosix) :
    a.contains true l = true ↔ a.Encloses l := by
  simp only [contains, isSubOf, Bool.true_and, Bool.or_eq_true, Bool.and_eq_true,
    Bool.not_eq_eq_eq_not, Bool.not_true, isWithin_iff_encloses outer inner,
    same_iff_eq outer inner]
  constructor
  · rintro (⟨_, encloses⟩ | rfl)
    · exact encloses
    · exact Encloses.refl a
  · intro encloses
    -- Containing the location itself is allowed here.
    by_cases equal : a = l
    · exact Or.inr equal
    · refine Or.inl ⟨?_, encloses⟩
      rw [Bool.eq_false_iff, Ne, same_iff_eq inner outer]
      exact fun same => equal same.symm

/-- An anchor is one part more than the segments. -/
theorem parts_length (l : Location) :
    l.parts.length = l.segments.length + if l.isAnchored then 1 else 0 := by
  unfold parts
  split <;> simp

/-- The best candidate so far only gives way to deeper ones. -/
theorem foldl_deeper_eq_some {candidates : List Location} {best : Option Location}
    {root : Location} (folded : candidates.foldl deepestContaining.deeper best = some root) :
    (best = some root ∨ root ∈ candidates) ∧
      ∀ other, best = some other ∨ other ∈ candidates → other.parts.length ≤ root.parts.length := by
  induction candidates generalizing best with
  | nil =>
    simp only [List.foldl_nil] at folded
    subst folded
    simp
  | cons candidate rest ih =>
    obtain ⟨source, deepest⟩ := ih folded
    cases best with
    | none =>
      -- The first candidate is the best one so far, whatever it is.
      simp only [deepestContaining.deeper, Option.some.injEq] at source deepest
      exact ⟨by simpa [eq_comm] using source, by simpa [eq_comm] using deepest⟩
    | some kept =>
      simp only [deepestContaining.deeper] at source deepest
      -- The next candidate takes over if it is deeper, and is forgotten otherwise.
      split at source <;> rename_i deeper <;> simp only [deeper, if_true, if_false] at deepest
      · refine ⟨by rcases source with same | member <;> simp_all, ?_⟩
        have first := deepest candidate (Or.inl rfl)
        rintro other (same | member)
        · cases same
          omega
        · rcases List.mem_cons.mp member with same | member
          · exact same ▸ first
          · exact deepest other (Or.inr member)
      · refine ⟨by rcases source with same | member <;> simp_all, ?_⟩
        have first := deepest kept (Or.inl rfl)
        rintro other (same | member)
        · cases same
          exact first
        · rcases List.mem_cons.mp member with same | member
          · subst same
            omega
          · exact deepest other (Or.inr member)

/-- Once there is a candidate, there is a best one. -/
theorem foldl_deeper_eq_none {candidates : List Location} {best : Option Location} :
    candidates.foldl deepestContaining.deeper best = none ↔ best = none ∧ candidates = [] := by
  -- A candidate that was kept is only ever replaced by another one.
  induction candidates generalizing best with
  | nil => simp
  | cons candidate rest ih =>
    rw [List.foldl_cons, ih]
    cases best with
    | none => simp [deepestContaining.deeper]
    | some kept =>
      simp only [deepestContaining.deeper]
      split <;> simp

/-- There is no deepest candidate exactly where no candidate contains the location. -/
theorem deepestContaining_eq_none_iff {l : Location} {candidates : List Location}
    {includeEqual : Bool} : l.deepestContaining candidates includeEqual = none ↔
      ∀ candidate ∈ candidates, candidate.contains includeEqual l = false := by
  simp [deepestContaining, foldl_deeper_eq_none, List.filter_eq_nil_iff]

/-- The deepest candidate contains the location, and no candidate that does has more parts. -/
theorem deepestContaining_eq_some {l root : Location} {candidates : List Location}
    {includeEqual : Bool} (deepest : l.deepestContaining candidates includeEqual = some root) :
    root ∈ candidates ∧ root.contains includeEqual l = true ∧
      ∀ other ∈ candidates, other.contains includeEqual l = true →
        other.parts.length ≤ root.parts.length := by
  -- There is no candidate to begin with, so the best one is among those that contain the location.
  obtain ⟨source, bound⟩ := foldl_deeper_eq_some deepest
  have member : root ∈ candidates.filter (·.contains includeEqual l) := by simpa using source
  obtain ⟨candidate, contains⟩ := List.mem_filter.mp member
  refine ⟨candidate, contains, ?_⟩
  intro other candidate contains
  exact bound other (Or.inr (List.mem_filter.mpr ⟨candidate, contains⟩))

section Owners

variable {α : Type} {place : α → Location} {owners : List α} {l : Location}

/-- What has the deepest place that contains a location. -/
theorem find?_deepest_eq_some_iff (plain : ∀ a ∈ owners, (place a).IsPosix)
    (distinct : (owners.map place).Nodup) (posix : l.IsPosix) {a : α} :
    ((l.deepestContaining (owners.map place) true).bind fun root =>
        owners.find? fun a => (place a).same root) = some a ↔
      a ∈ owners ∧ (place a).Encloses l ∧
        ∀ b ∈ owners, (place b).Encloses l → (place b).Encloses (place a) := by
  -- Distinct places identify their owners, and the ones that enclose the location form a chain.
  have chain : ∀ a ∈ owners, ∀ b ∈ owners, (place a).Encloses l → (place b).Encloses l →
      (place b).parts.length ≤ (place a).parts.length → (place b).Encloses (place a) := by
    intro a _ b _ first second longer
    apply second.of_length_le first
    have rooted : (place b).root = (place a).root := second.root_eq.trans first.root_eq.symm
    have driven : (place b).drive = (place a).drive := second.drive_eq.trans first.drive_eq.symm
    have anchored : (place b).isAnchored = (place a).isAnchored := by
      simp [isAnchored, rooted, driven]
    rw [parts_length, parts_length, anchored] at longer
    omega
  -- Looking an owner up by its place finds that owner.
  have found : ∀ a ∈ owners, (owners.find? fun b => (place b).same (place a)) = some a := by
    intro a member
    have here : (owners.find? fun b => (place b).same (place a)).isSome = true :=
      List.find?_isSome.mpr ⟨a, member, (same_iff_eq (plain a member) (plain a member)).mpr rfl⟩
    obtain ⟨b, located⟩ := Option.isSome_iff_exists.mp here
    have other := List.mem_of_find?_eq_some located
    have same : (place b).same (place a) = true := by simpa using List.find?_some located
    have equal := (same_iff_eq (plain b other) (plain a member)).mp same
    rw [located, List.inj_on_of_nodup_map distinct other member equal]
  rw [Option.bind_eq_some_iff]
  constructor
  · -- The deepest candidate has the owner, and every other one that encloses is not deeper.
    rintro ⟨root, deepest, located⟩
    obtain ⟨candidate, contains, bound⟩ := deepestContaining_eq_some deepest
    obtain ⟨owner, member, rfl⟩ := List.mem_map.mp candidate
    rw [found owner member, Option.some.injEq] at located
    subst located
    have encloses := (contains_iff_encloses (plain owner member) posix).mp contains
    refine ⟨member, encloses, ?_⟩
    intro b other enclosing
    apply chain owner member b other encloses enclosing
    exact bound _ (List.mem_map_of_mem other)
      ((contains_iff_encloses (plain b other) posix).mpr enclosing)
  · rintro ⟨member, encloses, deepest⟩
    refine ⟨place a, ?_, found a member⟩
    cases chosen : l.deepestContaining (owners.map place) true with
    | none =>
      have refused := deepestContaining_eq_none_iff.mp chosen _ (List.mem_map_of_mem member)
      have contains := (contains_iff_encloses (plain a member) posix).mpr encloses
      simp [contains] at refused
    | some root =>
      obtain ⟨candidate, contains, bound⟩ := deepestContaining_eq_some chosen
      obtain ⟨owner, other, rfl⟩ := List.mem_map.mp candidate
      have enclosing := (contains_iff_encloses (plain owner other) posix).mp contains
      -- Each of the two places encloses the other, so they are one.
      have longer := bound _ (List.mem_map_of_mem member)
        ((contains_iff_encloses (plain a member) posix).mpr encloses)
      rw [Option.some.injEq]
      exact (deepest owner other enclosing).antisymm
        (chain owner other a member enclosing encloses longer)

/-- Nothing has a place that contains a location exactly if no place encloses it. -/
theorem find?_deepest_eq_none_iff (plain : ∀ a ∈ owners, (place a).IsPosix)
    (distinct : (owners.map place).Nodup) (posix : l.IsPosix) :
    ((l.deepestContaining (owners.map place) true).bind fun root =>
        owners.find? fun a => (place a).same root) = none ↔
      ∀ a ∈ owners, ¬ (place a).Encloses l := by
  -- The deepest place is always the place of somebody.
  constructor
  · intro absent a member encloses
    cases chosen : l.deepestContaining (owners.map place) true with
    | none =>
      have refused := deepestContaining_eq_none_iff.mp chosen _ (List.mem_map_of_mem member)
      have contains := (contains_iff_encloses (plain a member) posix).mpr encloses
      simp [contains] at refused
    | some root =>
      obtain ⟨candidate, contains, bound⟩ := deepestContaining_eq_some chosen
      obtain ⟨owner, other, rfl⟩ := List.mem_map.mp candidate
      rw [chosen, Option.bind_some, List.find?_eq_none] at absent
      exact absent owner other ((same_iff_eq (plain owner other) (plain owner other)).mpr rfl)
  · intro outside
    cases found : ((l.deepestContaining (owners.map place) true).bind fun root =>
      owners.find? fun a => (place a).same root) with
    | none => rfl
    | some a =>
      obtain ⟨member, encloses, _⟩ := (find?_deepest_eq_some_iff plain distinct posix).mp found
      exact absurd encloses (outside a member)

end Owners

end AutomationIndex.Location
