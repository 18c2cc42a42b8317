import AutomationIndex.Proofs.Disk.Replacement

/-! Disks with a file added: they stay well named, and no links are added. -/

namespace AutomationIndex

namespace Node

variable {node new : Node} {place : Place}

/-- Putting a well-named node under names of entries keeps a tree well named. -/
theorem put_isWellNamed (proper : new.isWellNamed = true)
    (named : ∀ name ∈ place, isEntryName name = true) (wellNamed : node.isWellNamed = true) :
    (put new place node).isWellNamed = true := by
  induction place generalizing node with
  | nil => exact proper
  | cons name rest ih =>
    obtain ⟨first, others⟩ := List.forall_mem_cons.mp named
    -- What is no directory is replaced by one, which has no entries before.
    have entries : (directory node.entries).isWellNamed = true := by
      cases node with
      | directory entries => exact wellNamed
      | file bytes => rfl
      | link target => rfl
    have child : ((node.child? name).getD (directory [])).isWellNamed = true := by
      cases stands : node.child? name with
      | none => rfl
      | some child => exact ((isWellNamed_directory_iff.mp entries).2 _ (child?_mem stands)).2
    exact setEntry_isWellNamed entries first (ih others child)

/-- Putting a file somewhere puts no link anywhere. -/
theorem link_of_put {bytes : List UInt8} {way : Place} {target : String}
    (stands : (put (file bytes) place node).at? way = some (link target)) :
    node.at? way = some (link target) := by
  induction place generalizing node way with
  | nil =>
    cases way with
    | nil => cases stands
    | cons step way => simp [put, at?, child?, entries] at stands
  | cons name rest ih =>
    cases way with
    | nil => cases stands
    | cons step way =>
      simp only [put, at?, child?_setEntry] at stands ⊢
      have own : (directory node.entries).child? step = node.child? step := rfl
      by_cases same : step = name
      · -- The way goes on to the file, through a new directory if there was none.
        simp only [same, if_true, Option.bind_some] at stands ⊢
        have inner := ih stands
        cases here : node.child? name with
        | some child => simpa [here] using inner
        | none =>
          rw [here, Option.getD_none] at inner
          cases way <;> simp [at?, child?, entries] at inner
      · simpa [same, own] using stands

end Node

namespace Disk

variable {disk : Disk}

/-- A disk stays well named with a file under names of entries. -/
theorem putAt_isWellNamed (wellNamed : disk.isWellNamed = true) {place : Place}
    (named : ∀ name ∈ place, isEntryName name = true) (bytes : List UInt8) :
    (disk.putAt place (.file bytes)).isWellNamed = true := by
  simp only [isWellNamed, Bool.and_eq_true] at wellNamed ⊢
  exact ⟨Node.put_isWellNamed rfl named wellNamed.1, wellNamed.2⟩

/-- A disk stays without links with a file anywhere. -/
theorem putAt_lacksLinks (unlinked : disk.root.LacksLinks) (place : Place) (bytes : List UInt8) :
    (disk.putAt place (.file bytes)).root.LacksLinks :=
  fun way target stands => unlinked way target (Node.link_of_put stands)

/-- On a disk without links, a location from the top without dots stands for its own names. -/
theorem resolvePlace_self (unlinked : disk.root.LacksLinks) {l : Location} (rooted : l.root ≠ "")
    (plain : ∀ name ∈ l.segments, name ≠ "." ∧ name ≠ "..") : disk.resolvePlace l = l.segments := by
  have once : plainNames l.segments = l.segments := plainNames_eq_self plain
  simp only [resolvePlace, beq_eq_false_iff_ne.mpr rooted, Bool.false_eq_true, if_false,
    resolveLinks_unlinked unlinked]
  change plainNames (plainNames l.segments) = l.segments
  rw [once, once]

end Disk

end AutomationIndex
