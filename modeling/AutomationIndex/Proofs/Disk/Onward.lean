import AutomationIndex.Proofs.Disk.Unlinked

/-! Ways that go on from where a location leads, whatever links the location leads through. -/

namespace AutomationIndex.Disk

variable {root : Node} {onLink : Place → List String → Except DiskCause Found} {here : Place}
  {first : List String} {found : Found} {links : Nat}

/-- A longer way goes on where its beginning ends, with the links that are left there, if longer ways
through a link do. -/
theorem followNames_onward
    (level : ∀ here names, followNames root true onLink here names =
      followLinks root true links here names)
    (linked : ∀ here names found, onLink here names = .ok found → ∃ fewer, ∀ rest,
      onLink here (names ++ rest) = followLinks root true fewer found.place rest)
    (followed : followNames root true onLink here first = .ok found) :
    ∃ fewer, ∀ rest, followNames root true onLink here (first ++ rest) =
      followLinks root true fewer found.place rest := by
  -- Each name of the beginning moves the place, or leaves the rest to what follows links.
  induction first generalizing here with
  | nil =>
    simp only [followNames] at followed
    split at followed
    · cases followed
      exact ⟨links, fun rest => level here rest⟩
    · cases followed
  | cons name names ih =>
    simp only [followNames] at followed
    split at followed
    · cases followed
    · rename_i entries stands
      simp only [List.cons_append, followNames, stands]
      split at followed
      · rename_i dot
        simpa only [dot, if_true] using ih followed
      · rename_i noDot
        split at followed
        · rename_i up
          simpa only [noDot, up, Bool.false_eq_true, if_true, if_false] using ih followed
        · rename_i noUp
          split at followed
          · cases followed
          · rename_i within
            simp only [noDot, noUp, within, Bool.false_eq_true, if_false]
            split at followed
            · cases followed
            · rename_i target child
              simp only [Bool.not_true, Bool.and_false, Bool.false_eq_true, if_false] at followed ⊢
              simpa only [List.append_assoc] using linked _ _ _ followed
            · exact ih followed
    · cases followed

/-- A longer way goes on where its beginning ends, with the links that are left there. -/
theorem followLinks_onward (followed : followLinks root true links here first = .ok found) :
    ∃ fewer, ∀ rest, followLinks root true links here (first ++ rest) =
      followLinks root true fewer found.place rest := by
  -- Following links is following names with links of one level less, so both levels are one lemma.
  induction links generalizing here first found with
  | zero =>
    have level (here : Place) (names : List String) :
        followNames root true (fun _ _ => .error .tooManyLinks) here names =
          followLinks root true 0 here names := rfl
    exact followNames_onward level (by simp) followed
  | succ links ih =>
    have level (here : Place) (names : List String) :
        followNames root true (followLinks root true links) here names =
          followLinks root true (links + 1) here names := rfl
    exact followNames_onward level (fun _ _ _ => ih) followed

/-- One name in a directory leads to a file only if the directory has one under it, where no link is. -/
theorem followLinks_entry {entries : List (String × Node)} {name : String} {place : Place}
    {bytes : List UInt8} (stands : root.at? here = some (.directory entries)) (noDot : name ≠ ".")
    (real : ∀ target, (Node.directory entries).child? name ≠ some (.link target))
    (followed : followLinks root true links here [name] = .ok ⟨place, .file bytes⟩) :
    (Node.directory entries).child? name = some (.file bytes) := by
  have followed : ∃ onLink, followNames root true onLink here [name] = .ok ⟨place, .file bytes⟩ := by
    cases links <;> exact ⟨_, followed⟩
  obtain ⟨onLink, followed⟩ := followed
  simp only [followNames, stands, beq_iff_eq, noDot, if_false] at followed
  split at followed
  · -- The directory lies in what the dots lead to, so that is no file.
    split at followed
    · rename_i outer above
      cases followed
      rcases List.eq_nil_or_concat' here with rfl | ⟨before, last, rfl⟩
      · rw [List.dropLast_nil, stands] at above
        cases above
      · rw [List.dropLast_concat] at above
        rw [Node.at?_snoc above] at stands
        obtain ⟨_, same⟩ := Node.eq_directory_of_child? stands
        cases same
    · cases followed
  · split at followed
    · cases followed
    · split at followed
      · cases followed
      · rename_i target entry
        exact absurd entry (real target)
      · rename_i node _ entry
        rw [Node.at?_snoc stands name, entry] at followed
        cases followed
        exact entry

/-- What lies below a location is looked for from where the location leads. -/
theorem find_onward {disk : Disk} {l : Location} (located : disk.find l = .ok found) :
    ∃ fewer, ∀ names, (∀ name ∈ names, LacksNul name) → disk.find (l.below names) =
      if (l.below names).text.utf8ByteSize > pathLimit then .error .nameTooLong
      else followLinks disk.root true fewer found.place names := by
  obtain ⟨fewer, onward⟩ := followLinks_onward (find_follows located)
  refine ⟨fewer, fun names each => ?_⟩
  -- The longer location lacks a NUL, as the shorter one does.
  have lacks : Char.ofNat 0 ∉ (l.below names).text.toList := by
    have outer : l.LacksNul := by
      rw [Location.lacksNul_iff]
      intro written
      simp [find, written] at located
    exact Location.lacksNul_iff.mp (outer.below each)
  simp only [find, List.contains_iff_mem, lacks, if_false]
  exact if_congr Iff.rfl rfl (onward names)

end AutomationIndex.Disk
