import AutomationIndex.Proofs.Disk.Tree
import AutomationIndex.Proofs.Location.Spelling
import AutomationIndex.Proofs.Logged
import AutomationIndex.Scan.Find

/-! What path patterns select: at most one location for each entry that a pattern fits. -/

namespace AutomationIndex

/-- The location of an entry is directly below that of its directory. -/
theorem Location.child_eq_below (l : Location) (name : String) : l.child name = l.below [name] :=
  rfl

/-- An entry of what is below a location is below the location under one more name. -/
theorem Location.child_below (l : Location) (names : List String) (name : String) :
    (l.below names).child name = l.below (names ++ [name]) := by
  simp [Location.below, Location.child]

namespace Glob

/-- Collecting at most one thing for each element keeps the order of the elements. -/
theorem collect_sublist {α β : Type} {f : α → Except DiskFault (List β)} {g : α → β}
    (single : ∀ a part, f a = .ok part → part.Sublist [g a]) {elements : List α} {found : List β}
    (collected : collect f elements = .ok found) : found.Sublist (elements.map g) := by
  -- Each element gives at most its own image, so the found ones are a sublist of the images.
  induction elements generalizing found with
  | nil =>
    cases collected
    exact List.Sublist.refl _
  | cons a rest ih =>
    simp only [collect, exceptBind_ok_iff, Pure.pure, Except.pure, Except.ok.injEq] at collected
    obtain ⟨part, here, others, later, rfl⟩ := collected
    exact (single a part here).append (ih later)

/-- The entries that fit a pattern are entries of the directory, in their order. -/
theorem matchingEntries_sublist {disk : Disk} {l : Location} {pattern : String} {more : Bool}
    {found : List Location} (listed : matchingEntries disk l pattern more = .ok found) :
    ∃ entries, disk.entriesOf l = .ok entries ∧
      found.Sublist (entries.map fun entry => l.child entry.1) := by
  unfold matchingEntries at listed
  split at listed
  · simp at listed
  · rename_i entries located
    refine ⟨entries, located, collect_sublist ?_ listed⟩
    rintro ⟨name, node⟩ part here
    -- An entry is either kept or passed over, after it has been asked whether it may be entered.
    cases more <;>
      simp only [Bool.false_eq_true, if_false, if_true, exceptBind_ok_iff, Pure.pure,
        Except.pure, Except.ok.injEq] at here
    all_goals
      obtain ⟨kept, _, same⟩ := here
      split at same <;> subst same <;> simp

/-- One name in every directory that fits a pattern selects at most one location for each entry. -/
theorem select_matching_named {disk : Disk} {l : Location} {pattern name : String}
    {found : List Location}
    (selected : select disk [.matching pattern, .named name] l = .ok found) :
    ∃ entries, disk.entriesOf l = .ok entries ∧
      found.Sublist (entries.map fun entry => (l.child entry.1).child name) := by
  -- The first part selects entries, and the second adds a name to each of them.
  simp only [select, exceptBind_ok_iff] at selected
  obtain ⟨here, listed, collected⟩ := selected
  obtain ⟨entries, located, within⟩ := matchingEntries_sublist listed
  refine ⟨entries, located, ?_⟩
  have deeper : found.Sublist (here.map fun directory => directory.child name) := by
    refine collect_sublist ?_ collected
    intro directory part chosen
    simp only [List.isEmpty_nil, if_true, exceptBind_ok_iff, Pure.pure, Except.pure] at chosen
    obtain ⟨stands, _, chosen⟩ := chosen
    split at chosen <;> cases chosen <;> simp
  simpa [Function.comp_def] using deeper.trans (within.map fun directory => directory.child name)

end Glob

namespace Scan

/-- A search by path keeps the files of what its pattern selects, in the order of their paths. -/
theorem findByPath_perm {disk : Disk} {base : Location} {pattern : String} {parts : List GlobPart}
    (read : Glob.parts pattern = .ok parts) {found : List Location}
    (searched : findByPath disk base pattern = .ok found) :
    found = [] ∨ ∃ selected kept, Glob.select disk parts base = .ok selected ∧
      List.Sublist kept selected ∧ found.Perm kept := by
  simp only [findByPath, read, exceptBind_ok_iff, mapError_ok_iff, Pure.pure, Except.pure,
    Except.ok.injEq, exists_eq_left'] at searched
  obtain ⟨located, globbed, kept, files, rfl⟩ := searched
  -- Asking each location whether it is a file drops some and repeats none.
  have fewer : kept.Sublist located := by
    have sublist : kept.Sublist (located.map id) := by
      refine Glob.collect_sublist ?_ files
      intro l part asked
      rw [exceptBind_ok_iff] at asked
      obtain ⟨isFile, _, asked⟩ := asked
      cases isFile <;> cases asked <;> simp
    simpa using sublist
  simp only [Glob.find, exceptBind_ok_iff] at globbed
  obtain ⟨isDirectory, _, globbed⟩ := globbed
  cases isDirectory with
  | false =>
    cases globbed
    cases fewer
    exact Or.inl (by simp [sorted])
  | true => exact Or.inr ⟨located, kept, globbed, fewer, List.mergeSort_perm kept _⟩

/-- A search for one name in every directory finds at most one file for each entry. -/
theorem findFiles_anyDirectory {disk : Disk} {omissions : Omissions} {base : Location}
    {pattern name : String} (byPath : namePattern? pattern = none)
    (read : Glob.parts pattern = .ok [.matching "*", .named name]) {found : List Location}
    (searched : findFiles disk omissions base pattern = .ok found) :
    ∃ names : List String, found.Perm (names.map fun entry => (base.child entry).child name) ∧
      (disk.isWellNamed = true → names.Nodup ∧ ∀ entry ∈ names, isEntryName entry = true) := by
  simp only [findFiles, byPath, exceptBind_ok_iff, mapError_ok_iff] at searched
  obtain ⟨isDirectory, _, searched⟩ := searched
  cases isDirectory with
  | false =>
    cases searched
    exact ⟨[], by simp, by simp⟩
  | true =>
    rcases findByPath_perm read searched with rfl | ⟨selected, kept, globbed, fewer, same⟩
    · exact ⟨[], by simp, by simp⟩
    · obtain ⟨entries, located, within⟩ := Glob.select_matching_named globbed
      have all : kept.Sublist ((entries.map (·.1)).map fun entry => (base.child entry).child name) := by
        simpa [Function.comp_def] using fewer.trans within
      -- What is found comes from some of the entries, each taken once.
      obtain ⟨names, chosen, rfl⟩ := List.sublist_map_iff.mp all
      refine ⟨names, same, ?_⟩
      intro wellNamed
      obtain ⟨distinct, proper⟩ := Disk.entriesOf_names wellNamed located
      refine ⟨distinct.sublist chosen, ?_⟩
      intro entry member
      obtain ⟨listed, among, rfl⟩ := List.mem_map.mp (chosen.subset member)
      exact proper listed among

end Scan

end AutomationIndex
