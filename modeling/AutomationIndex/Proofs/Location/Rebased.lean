import AutomationIndex.Proofs.Location.Remainder

/-! Moving posix locations from one base to another: what lies below a base keeps its names, so a move
can be undone, and two moves in a row are one. -/

namespace AutomationIndex.Location

variable {base target replacement other : Location}

/-- What is left of a posix location below a base are the names that lead there. -/
theorem remainder?_below (plain : base.IsPosix) {names : List String}
    (segments : ∀ name ∈ names, isSegment name = true) :
    (base.below names).remainder? base = some (relative .posix names) := by
  have inner := plain.below segments
  -- In posix style, every base is read again as it is and compared as it is.
  have again : base.reread = base := by rw [reread, plain.style_eq, ofParts_parts plain]
  have encloses : base.folded.Encloses (base.below names).folded := by
    rw [folded_eq_self plain.style_eq, folded_eq_self inner.style_eq]
    exact encloses_below base names
  rw [remainder?_of_encloses again encloses plain.isUnambiguous.named inner.isUnambiguous.named,
    inner.style_eq]
  simp [below]

/-- A posix location lies at or below a base exactly if names lead there. -/
theorem isWithin_posix_iff (plain : base.IsPosix) (inner : target.IsPosix) :
    target.isWithin base = true ↔
      ∃ names, (∀ name ∈ names, isSegment name = true) ∧ target = base.below names := by
  -- Being within is being enclosed on this side, and the rest of the segments are the names below.
  rw [isWithin_iff_encloses plain inner]
  constructor
  · rintro ⟨style, drive, root, names, segments⟩
    refine ⟨names, fun name member => inner.segments_ok name ?_, ?_⟩
    · rw [← segments]
      exact List.mem_append_right _ member
    · cases target
      simp_all [below]
  · rintro ⟨names, _, rfl⟩
    exact encloses_below base names

/-- A posix location equals a base or lies inside it exactly if it lies at or below it. -/
theorem same_or_isSubOf_iff (plain : base.IsPosix) (inner : target.IsPosix) :
    target.same base = true ∨ base.isSubOf target = true ↔ target.isWithin base = true := by
  -- An equal location is within, and any other one is decided by `isSubOf` itself.
  have own : target.same base = true → target.isWithin base = true := by
    intro same
    rw [(same_iff_eq inner plain).mp same, isWithin_iff_encloses plain plain]
    exact Encloses.refl base
  cases equal : target.same base with
  | true => simp [own equal]
  | false => simp [isSubOf, equal]

/-- A location that is not at or below the base stays where it is. -/
theorem rebase_outside (outside : target.isWithin base = false) :
    rebase base target (some replacement) = target := by
  have nothing : target.remainder? base = none := by simpa [isWithin] using outside
  simp [rebase, nothing]

/-- What lies below the base moves to the same place below the replacement. -/
theorem rebase_below (plain : base.IsPosix) (style : replacement.style = .posix)
    {names : List String} (segments : ∀ name ∈ names, isSegment name = true) :
    rebase base (base.below names) (some replacement) = replacement.below names := by
  have parts : (relative .posix names).parts = names := rfl
  simp only [rebase, remainder?_below plain segments, parts, joinParts, style, ofParts_segments segments]
  simp [append, below]

/-- Moving a location from a base to a replacement: outside the base it stays where it is. At or below
the base, it gets to the same place at or below the replacement, moving it back gives the location
again, and moving it on is moving it there at once. -/
theorem rebase_roundTrip (plain : base.IsPosix) (inner : target.IsPosix)
    (moved : replacement.IsPosix) (further : other.IsPosix) :
    (target.same base = false ∧ base.isSubOf target = false →
      rebase base target (some replacement) = target) ∧
    (target.same base = true ∨ base.isSubOf target = true →
      ((rebase base target (some replacement)).same replacement = true ∨
        replacement.isSubOf (rebase base target (some replacement)) = true) ∧
      (target.remainder? base).isSome = true ∧
      (rebase base target (some replacement)).remainder? replacement = target.remainder? base ∧
      rebase replacement (rebase base target (some replacement)) (some base) = target ∧
      rebase replacement (rebase base target (some replacement)) (some other) =
        rebase base target (some other)) := by
  constructor
  · rintro ⟨different, outside⟩
    apply rebase_outside
    rw [← Bool.not_eq_true, ← same_or_isSubOf_iff plain inner]
    simp [different, outside]
  · intro inside
    -- The names that lead to the location are all that moving depends on.
    rw [same_or_isSubOf_iff plain inner, isWithin_posix_iff plain inner] at inside
    obtain ⟨names, segments, rfl⟩ := inside
    have there := rebase_below plain moved.style_eq segments
    have below := moved.below segments
    rw [there]
    refine ⟨?_, ?_, ?_, ?_, ?_⟩
    · rw [same_or_isSubOf_iff moved below, isWithin_posix_iff moved below]
      exact ⟨names, segments, rfl⟩
    · rw [remainder?_below plain segments, Option.isSome_some]
    · rw [remainder?_below moved segments, remainder?_below plain segments]
    · exact rebase_below moved plain.style_eq segments
    · rw [rebase_below moved further.style_eq segments,
        rebase_below plain further.style_eq segments]

/-- A file of a library is moved from one root to another one, back, and on to the empty location. -/
theorem rebase_roundTrip_library :
    rebase (posix "//srv") (posix "//srv/../Lib.lby") (some (posix "/proj")) =
      posix "/proj/../Lib.lby" ∧
    rebase (posix "/proj") (posix "/proj/../Lib.lby") (some (posix "//srv")) =
      posix "//srv/../Lib.lby" ∧
    rebase (posix "/proj") (posix "/proj/../Lib.lby") (some (posix "")) = posix "../Lib.lby" := by
  -- The location is spelled with a step up and moved as it is spelled, since nothing is resolved.
  have inside : (posix "//srv/../Lib.lby").same (posix "//srv") = true ∨
      (posix "//srv").isSubOf (posix "//srv/../Lib.lby") = true := .inr (by decide)
  have moved : rebase (posix "//srv") (posix "//srv/../Lib.lby") (some (posix "/proj")) =
      posix "/proj/../Lib.lby" := by decide
  obtain ⟨_, _, _, back, on⟩ := (rebase_roundTrip (posix_isPosix "//srv")
    (posix_isPosix "//srv/../Lib.lby") (posix_isPosix "/proj") (posix_isPosix "")).2 inside
  rw [moved] at back on
  refine ⟨moved, back, on.trans ?_⟩
  decide

end AutomationIndex.Location
