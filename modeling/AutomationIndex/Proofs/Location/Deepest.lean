import AutomationIndex.Proofs.Location.Remainder

/-! Containment as an order in both styles, and what the deepest candidate that contains a location
owes to it: every other one that does contains that one as well, and the order of the candidates does
not count. -/

namespace AutomationIndex.Location

variable {style : PathStyle} {a b c l base : Location} {candidates : List Location}
  {includeEqual : Bool}

/-- Locations of one style that containment orders: they are unambiguous, keep their anchors, and are
absolute where there are drives. -/
structure IsOrdered (style : PathStyle) (l : Location) : Prop where
  style_eq : l.style = style
  plain : l.IsUnambiguous
  kept : l.KeepsAnchor
  absolute : style.hasDrives = true → l.isAbsolute = true

/-- Posix locations are ordered. -/
theorem IsPosix.isOrdered (posix : l.IsPosix) : IsOrdered .posix l :=
  ⟨posix.style_eq, posix.isUnambiguous, posix.keepsAnchor, fun drives => nomatch drives⟩

/-- No location has a root on an ordered one that is a bare drive. -/
theorem IsOrdered.not_isRootedOn (outer : IsOrdered style base) : ¬ l.IsRootedOn base := by
  intro rooted
  cases style with
  | posix => exact rooted.driven ((isNamed_posix_iff outer.style_eq).mp outer.plain.named).drive_eq
  | windows =>
    -- An absolute windows location has a root, so it is no bare drive.
    have absolute := outer.absolute rfl
    simp [isAbsolute, rooted.bare.1] at absolute

/-- A location lies at or below an ordered one exactly if that one encloses it, as they compare. -/
theorem isWithin_iff_folded (outer : IsOrdered style base) (inner : IsOrdered style l) :
    l.isWithin base = true ↔ base.folded.Encloses l.folded := by
  -- A kept anchor is reread as itself, so within is being enclosed with case folded.
  have again := outer.plain.reread_eq_self outer.kept
  have styles := outer.style_eq.trans inner.style_eq.symm
  rw [isWithin, Option.isSome_iff_exists]
  constructor
  · rintro ⟨rest, left⟩
    exact (encloses_of_remainder? again outer.plain inner.plain styles left).resolve_right
      outer.not_isRootedOn
  · exact fun encloses => ⟨_, remainder?_of_encloses again encloses outer.plain.named inner.plain.named⟩

/-- A location lies below an ordered one exactly if that one encloses it and they differ, as they
compare. -/
theorem isSubOf_iff (outer : IsOrdered style base) (inner : IsOrdered style l) :
    base.isSubOf l = true ↔ base.folded.Encloses l.folded ∧ base.folded ≠ l.folded := by
  have different : l.same base = false ↔ base.folded ≠ l.folded := by
    rw [← Bool.not_eq_true, same_iff_folded inner.plain outer.plain]
    exact not_congr eq_comm
  rw [isSubOf, Bool.and_eq_true, Bool.not_eq_true', different, isWithin_iff_folded outer inner, and_comm]

/-- A candidate counts exactly if the location lies below it, or equals it where that counts. -/
theorem contains_iff_or : base.contains includeEqual l = true ↔
    base.isSubOf l = true ∨ includeEqual = true ∧ base.same l = true := by
  rw [contains, Bool.or_eq_true, Bool.and_eq_true]

/-- A candidate counts exactly if it encloses the location, as they compare, and equals it only where
that counts. -/
theorem contains_iff (outer : IsOrdered style base) (inner : IsOrdered style l) :
    base.contains includeEqual l = true ↔
      base.folded.Encloses l.folded ∧ (includeEqual = true ∨ base.folded ≠ l.folded) := by
  rw [contains_iff_or, isSubOf_iff outer inner,
    same_iff_folded outer.plain inner.plain]
  -- Equality is counted or left out; everything else is the enclosing.
  constructor
  · rintro (⟨encloses, different⟩ | ⟨counts, equal⟩)
    · exact ⟨encloses, .inr different⟩
    · exact ⟨equal ▸ Encloses.refl _, .inl counts⟩
  · rintro ⟨encloses, counts⟩
    by_cases equal : base.folded = l.folded
    · exact .inr ⟨counts.resolve_right (not_not.mpr equal), equal⟩
    · exact .inl ⟨encloses, equal⟩

/-- No location lies below itself. -/
theorem isSubOf_irrefl (l : Location) : l.isSubOf l = false := by
  simp [isSubOf, same]

/-- What lies below something lies below all that this lies below. -/
theorem isSubOf_trans (outer : IsOrdered style a) (middle : IsOrdered style b)
    (inner : IsOrdered style c) (first : a.isSubOf b = true) (second : b.isSubOf c = true) :
    a.isSubOf c = true := by
  rw [isSubOf_iff outer middle] at first
  rw [isSubOf_iff middle inner] at second
  rw [isSubOf_iff outer inner]
  refine ⟨first.1.trans second.1, fun equal => first.2 ?_⟩
  -- What lies between equal locations is equal to them.
  exact first.1.antisymm (equal ▸ second.1)

/-- Of two locations that enclose a third one, as they compare, one encloses the other. -/
theorem Encloses.total (first : a.folded.Encloses l.folded) (second : b.folded.Encloses l.folded) :
    a.folded.Encloses b.folded ∨ b.folded.Encloses a.folded :=
  (le_total a.folded.segments.length b.folded.segments.length).imp
    (first.of_length_le second) (second.of_length_le first)

/-- Two locations that contain a third one, or equal it, are equal, or one lies below the other. -/
theorem isSubOf_connected (first : IsOrdered style a) (second : IsOrdered style b)
    (inner : IsOrdered style l) (containing : a.contains true l = true)
    (containingToo : b.contains true l = true) :
    a.same b = true ∨ a.isSubOf b = true ∨ b.isSubOf a = true := by
  -- Two locations that enclose the same one are enclosed one by the other.
  rw [contains_iff first inner] at containing
  rw [contains_iff second inner] at containingToo
  rw [same_iff_folded first.plain second.plain, isSubOf_iff first second, isSubOf_iff second first]
  by_cases equal : a.folded = b.folded
  · exact .inl equal
  · right
    exact (containing.1.total containingToo.1).imp (⟨·, equal⟩) (⟨·, fun same => equal same.symm⟩)

/-- A location that encloses another one has no more parts. -/
theorem parts_length_le_iff (outer : IsOrdered style a) (middle : IsOrdered style b)
    (first : a.folded.Encloses l.folded) (second : b.folded.Encloses l.folded) :
    a.parts.length ≤ b.parts.length ↔ a.folded.Encloses b.folded := by
  have styles := outer.style_eq.trans middle.style_eq.symm
  -- Both hang below the anchor of the third location, so only the segments count.
  have tops : a.anchorParts.map a.style.folded = b.anchorParts.map a.style.folded := by
    rw [anchorParts_folded_iff outer.plain.named middle.plain.named styles]
    refine ⟨?_, ?_⟩
    · have drives := first.drive_eq.trans second.drive_eq.symm
      simpa [folded, styles] using drives
    · have roots := first.root_eq.trans second.root_eq.symm
      simp only [folded] at roots
      rwa [outer.plain.named.folded_root, middle.plain.named.folded_root] at roots
  have counted : a.anchorParts.length = b.anchorParts.length := by
    simpa using congrArg List.length tops
  have segments : ∀ l : Location, l.folded.segments.length = l.segments.length :=
    fun l => List.length_map _
  rw [parts_eq, parts_eq, List.length_append, List.length_append, counted, Nat.add_le_add_iff_left,
    ← segments a, ← segments b]
  exact ⟨first.of_length_le second, fun encloses => encloses.segments_begin.length_le⟩

/-- Every candidate that contains the location is equal to the deepest one, or contains that one. -/
theorem deepestContaining_deepest (ordered : ∀ candidate ∈ candidates, IsOrdered style candidate)
    (inner : IsOrdered style l) {root : Location}
    (deepest : l.deepestContaining candidates includeEqual = some root) :
    root ∈ candidates ∧ root.contains includeEqual l = true ∧
      ∀ other ∈ candidates, other.contains includeEqual l = true →
        other.folded.Encloses root.folded := by
  -- The number of parts orders what encloses `l`, so the deepest one is enclosed by the others.
  obtain ⟨member, containing, bound⟩ := deepestContaining_eq_some deepest
  refine ⟨member, containing, fun other candidate also => ?_⟩
  have outer := ordered other candidate
  have middle := ordered root member
  rw [← parts_length_le_iff outer middle ((contains_iff outer inner).mp also).1
    ((contains_iff middle inner).mp containing).1]
  exact bound other candidate also

/-- Candidates in another order have a deepest one that is equal, if there is any. -/
theorem deepestContaining_perm (ordered : ∀ candidate ∈ candidates, IsOrdered style candidate)
    (inner : IsOrdered style l) {others : List Location} (permuted : others.Perm candidates) :
    Option.Rel (fun root other => root.same other = true)
      (l.deepestContaining candidates includeEqual) (l.deepestContaining others includeEqual) := by
  have orderedToo : ∀ candidate ∈ others, IsOrdered style candidate :=
    fun candidate member => ordered candidate (permuted.mem_iff.mp member)
  -- Whether any candidate counts does not depend on their order.
  have absent : l.deepestContaining candidates includeEqual = none ↔
      l.deepestContaining others includeEqual = none := by
    rw [deepestContaining_eq_none_iff, deepestContaining_eq_none_iff]
    exact forall_congr' fun candidate => imp_congr_left permuted.mem_iff.symm
  cases here : l.deepestContaining candidates includeEqual with
  | none =>
    rw [absent.mp here]
    exact .none
  | some root =>
    cases there : l.deepestContaining others includeEqual with
    | none =>
      rw [absent.mpr there] at here
      cases here
    | some other =>
      obtain ⟨member, containing, bound⟩ := deepestContaining_deepest ordered inner here
      obtain ⟨memberToo, containingToo, boundToo⟩ := deepestContaining_deepest orderedToo inner there
      -- Each of the two encloses the other one.
      have equal := (boundToo root (permuted.mem_iff.mpr member) containing).antisymm
        (bound other (permuted.mem_iff.mp memberToo) containingToo)
      exact .some ((same_iff_folded (ordered root member).plain (orderedToo other memberToo).plain).mpr
        equal)

/-- An unambiguous location, absolute where there are drives, lies at or below itself exactly if it
keeps its anchor. -/
theorem isWithin_self_iff (plain : l.IsUnambiguous)
    (absolute : l.style.hasDrives = true → l.isAbsolute = true) :
    l.isWithin l = true ↔ l.KeepsAnchor := by
  constructor
  · intro within
    -- An anchor that is lost leaves a location outside of itself.
    by_contra lost
    rw [isWithin, remainder?_of_lost plain lost (Encloses.refl _) plain.named] at within
    cases within
  · intro kept
    -- A kept anchor makes the location one of the ordered ones.
    have ordered : IsOrdered l.style l := ⟨rfl, plain, kept, absolute⟩
    exact (isWithin_iff_folded ordered ordered).mpr (Encloses.refl _)

/-- Containment of locations that keep their anchors is a strict partial order in either style, the
locations that contain a given one form a chain in it, and so the deepest of these among some
candidates is equal to, or lies below, every other one, in whatever order they come. Locations that do
not keep their anchors do not even lie at or below themselves. -/
theorem deepestContaining_laws (style : PathStyle) :
    (∀ l : Location, IsOrdered style l → l.isSubOf l = false) ∧
    (∀ a b c : Location, IsOrdered style a → IsOrdered style b → IsOrdered style c →
      a.isSubOf b = true → b.isSubOf c = true → a.isSubOf c = true) ∧
    (∀ a b l : Location, IsOrdered style a → IsOrdered style b → IsOrdered style l →
      (a.isSubOf l = true ∨ a.same l = true) → (b.isSubOf l = true ∨ b.same l = true) →
        a.same b = true ∨ a.isSubOf b = true ∨ b.isSubOf a = true) ∧
    (∀ (l : Location) candidates includeEqual, IsOrdered style l →
      (∀ candidate ∈ candidates, IsOrdered style candidate) →
        (l.deepestContaining candidates includeEqual = none ↔ ∀ candidate ∈ candidates,
          ¬ (candidate.isSubOf l = true ∨ includeEqual = true ∧ candidate.same l = true)) ∧
        (∀ root, l.deepestContaining candidates includeEqual = some root →
          root ∈ candidates ∧ (root.isSubOf l = true ∨ includeEqual = true ∧ root.same l = true) ∧
            ∀ other ∈ candidates,
              (other.isSubOf l = true ∨ includeEqual = true ∧ other.same l = true) →
                other.same root = true ∨ other.isSubOf root = true) ∧
        ∀ others, others.Perm candidates → Option.Rel (fun root other => root.same other = true)
          (l.deepestContaining candidates includeEqual) (l.deepestContaining others includeEqual)) ∧
    (∀ l : Location, l.style = style → l.IsUnambiguous → (style.hasDrives = true → l.isAbsolute = true) →
      (l.isWithin l = true ↔ l.KeepsAnchor)) := by
  refine ⟨fun l _ => isSubOf_irrefl l, fun a b c => isSubOf_trans, ?_, ?_, ?_⟩
  -- The two ways of asking, `contains` and the disjunction, are exchanged by `contains_iff_or`.
  · intro a b l first second inner containing containingToo
    exact isSubOf_connected first second inner (contains_iff_or.mpr (by simpa using containing))
      (contains_iff_or.mpr (by simpa using containingToo))
  · intro l candidates includeEqual inner ordered
    refine ⟨?_, ?_, fun others permuted => deepestContaining_perm ordered inner permuted⟩
    · rw [deepestContaining_eq_none_iff]
      refine forall_congr' fun candidate => imp_congr_right fun _ => ?_
      rw [← contains_iff_or, Bool.not_eq_true]
    -- The bound on the parts is read as a law of the two orders.
    · intro root deepest
      obtain ⟨member, containing, bound⟩ := deepestContaining_deepest ordered inner deepest
      refine ⟨member, contains_iff_or.mp containing, fun other candidate also => ?_⟩
      have encloses := bound other candidate (contains_iff_or.mpr also)
      rw [same_iff_folded (ordered other candidate).plain (ordered root member).plain,
        isSubOf_iff (ordered other candidate) (ordered root member)]
      by_cases equal : other.folded = root.folded
      · exact .inl equal
      · exact .inr ⟨encloses, equal⟩
  · rintro l rfl plain absolute
    exact isWithin_self_iff plain absolute

/-- A directory, one below it that is spelled in capitals, and a file in that one: whichever directory
comes first, the inner one is the deepest that contains the file. -/
theorem deepestContaining_laws_windows :
    let outer := ofText .windows "C:\\Work"
    let inner := ofText .windows "c:\\WORK\\LINE"
    let file := ofText .windows "C:\\Work\\Line\\main.c"
    outer.isSubOf file = true ∧
      file.deepestContaining [outer, inner] false = some inner ∧
      ∃ root, file.deepestContaining [inner, outer] false = some root ∧ inner.same root = true := by
  intro outer inner file
  have named (text : String) : (ofText .windows text).IsNamed := ofParts_isNamed .windows [text]
  have outerOrdered : IsOrdered .windows outer :=
    ⟨rfl, ⟨named _, by decide⟩, by decide, by decide⟩
  have innerOrdered : IsOrdered .windows inner :=
    ⟨rfl, ⟨named _, by decide⟩, by decide, by decide⟩
  have fileOrdered : IsOrdered .windows file :=
    ⟨rfl, ⟨named _, by decide⟩, by decide, by decide⟩
  obtain ⟨-, below, -, deepest, -⟩ := deepestContaining_laws .windows
  -- The file is below the outer directory, since the inner one is.
  have containing := below outer inner file outerOrdered innerOrdered fileOrdered (by decide)
    (by decide)
  have ordered : ∀ root ∈ [outer, inner], IsOrdered .windows root :=
    List.forall_mem_cons.mpr ⟨outerOrdered, List.forall_mem_singleton.mpr innerOrdered⟩
  obtain ⟨-, -, permuted⟩ := deepest file [outer, inner] false fileOrdered ordered
  have found : file.deepestContaining [outer, inner] false = some inner := by decide
  have related := permuted [inner, outer] (.swap outer inner [])
  rw [found] at related
  refine ⟨containing, found, ?_⟩
  cases other : file.deepestContaining [inner, outer] false with
  | none =>
    rw [other] at related
    cases related
  | some root =>
    rw [other] at related
    cases related with
    | some same => exact ⟨root, rfl, same⟩

/-- The order of two roots that both contain a file counts where one of them does not keep its
anchor. -/
theorem deepestContaining_unkept :
    (ofText .windows "\\\\?\\\\m\\s\\x").deepestContaining
        [ofText .windows "\\\\?\\\\", ofText .windows "\\\\?\\\\\\m\\s"] true =
      some (ofText .windows "\\\\?\\\\") ∧
    (ofText .windows "\\\\?\\\\m\\s\\x").deepestContaining
        [ofText .windows "\\\\?\\\\\\m\\s", ofText .windows "\\\\?\\\\"] true =
      some (ofText .windows "\\\\?\\\\\\m\\s") ∧
    (ofText .windows "\\\\?\\\\").same (ofText .windows "\\\\?\\\\\\m\\s") = false := by
  decide

end AutomationIndex.Location
