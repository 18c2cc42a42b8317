import AutomationIndex.Proofs.Disk.Selection
import AutomationIndex.Proofs.Scan.Found

/-! What searches by path come to: files that they have looked at, or a path that is too long. -/

namespace AutomationIndex

/-- Whether a fault is about a path that is too long. -/
def DiskFault.IsTooLong (fault : DiskFault) : Prop :=
  fault.cause = .nameTooLong

/-- Whether a search fails at a path that is too long. -/
def SearchFault.IsTooLong : SearchFault → Prop
  | .disk fault => fault.IsTooLong
  | .pattern _ => False

namespace Disk

variable {disk : Disk} {l : Location}

/-- Asking where a location leads fails only if it is too long. -/
theorem leadsTo_failsOnly (disk : Disk) (l : Location) (kind : Node → Bool) :
    FailsOnly DiskFault.IsTooLong (disk.leadsTo l kind) := by
  intro fault failed
  unfold leadsTo at failed
  split at failed
  · cases failed
  · -- Every other cause only means that there is nothing.
    rename_i cause _
    cases cause <;> cases failed
    rfl

/-- Asking for a directory fails only if its location is too long. -/
theorem isDirectory_failsOnly (disk : Disk) (l : Location) :
    FailsOnly DiskFault.IsTooLong (disk.isDirectory l) :=
  leadsTo_failsOnly disk l _

/-- A directory can be listed. -/
theorem entriesOf_of_isDirectory (stands : disk.isDirectory l = .ok true) :
    ∃ entries, disk.entriesOf l = .ok entries := by
  unfold isDirectory leadsTo at stands
  unfold entriesOf
  cases located : disk.find l with
  -- Only what leads to a directory counts as one.
  | error cause => cases cause <;> simp [located, meansNothing] at stands
  | ok found =>
    obtain ⟨place, node⟩ := found
    cases node with
    | file bytes => simp [located] at stands
    | link target => simp [located] at stands
    | directory entries => exact ⟨_, rfl⟩

end Disk

namespace Glob

variable {disk : Disk} {l : Location}

/-- Collecting fails only where it does so for one of the elements. -/
theorem collect_failsOnly {α β : Type} {kind : DiskFault → Prop}
    {f : α → Except DiskFault (List β)} {elements : List α}
    (each : ∀ a ∈ elements, FailsOnly kind (f a)) : FailsOnly kind (collect f elements) := by
  induction elements with
  | nil => exact FailsOnly.of_ok rfl
  | cons a rest ih =>
    obtain ⟨here, later⟩ := List.forall_mem_cons.mp each
    unfold collect
    -- The first element may fail, and after it the rest may.
    apply here.bind
    intro found _
    apply (ih later).bind
    intro others _
    exact FailsOnly.of_ok rfl

/-- Everything that is collected comes from one of the elements. -/
theorem collect_mem {α β : Type} {f : α → Except DiskFault (List β)} {elements : List α}
    {found : List β} (collected : collect f elements = .ok found) {b : β} (member : b ∈ found) :
    ∃ a ∈ elements, ∃ part, f a = .ok part ∧ b ∈ part := by
  induction elements generalizing found with
  | nil =>
    cases collected
    simp at member
  | cons a rest ih =>
    simp only [collect, exceptBind_ok_iff, Pure.pure, Except.pure, Except.ok.injEq] at collected
    obtain ⟨part, here, others, later, rfl⟩ := collected
    -- An element of the result was collected first or by the rest.
    rcases List.mem_append.mp member with first | second
    · exact ⟨a, List.mem_cons_self, part, here, first⟩
    · obtain ⟨other, among, found⟩ := ih later second
      exact ⟨other, List.mem_cons_of_mem a among, found⟩

/-- The entries that match a pattern have names that fit it. -/
theorem matchingEntries_mem {pattern : String} {more : Bool} {found : List Location}
    (listed : matchingEntries disk l pattern more = .ok found) {here : Location}
    (member : here ∈ found) :
    ∃ name, here = l.child name ∧ Wildcard.fits name pattern = true := by
  unfold matchingEntries at listed
  split at listed
  · cases listed
  · obtain ⟨⟨name, node⟩, _, part, asked, among⟩ := collect_mem listed member
    -- An entry is either kept or passed over, after it has been asked whether it may be entered.
    cases more <;>
      simp only [Bool.false_eq_true, if_false, if_true, exceptBind_ok_iff, Pure.pure,
        Except.pure, Except.ok.injEq] at asked
    all_goals
      obtain ⟨kept, _, same⟩ := asked
      subst same
      split at among
      · rename_i fitting
        rw [List.mem_singleton.mp among]
        exact ⟨name, rfl, (Bool.and_eq_true_iff.mp fitting).2⟩
      · cases among

/-- Matching the entries of a directory fails only at a path that is too long. -/
theorem matchingEntries_failsOnly (stands : disk.isDirectory l = .ok true) (pattern : String)
    (more : Bool) : FailsOnly DiskFault.IsTooLong (matchingEntries disk l pattern more) := by
  obtain ⟨entries, listed⟩ := Disk.entriesOf_of_isDirectory stands
  unfold matchingEntries
  rw [listed]
  apply collect_failsOnly
  rintro ⟨name, node⟩ _
  -- Only a link has to be looked at before it may be entered.
  have entered : FailsOnly DiskFault.IsTooLong (enterable disk (l.child name) node) := by
    cases node with
    | file bytes => exact FailsOnly.of_ok rfl
    | link target => exact Disk.isDirectory_failsOnly disk _
    | directory entries => exact FailsOnly.of_ok rfl
  cases more with
  | false => exact FailsOnly.of_ok rfl
  | true => exact entered.bind fun kept _ => FailsOnly.of_ok rfl

/-- Going on with names from a directory fails only at a path that is too long. -/
theorem select_failsOnly (stands : disk.isDirectory l = .ok true) (pattern : String)
    (names : List String) : FailsOnly DiskFault.IsTooLong
      (select disk (.matching pattern :: names.map .named) l) := by
  -- After the pattern, each name is looked up in what was reached before.
  have named : ∀ here, FailsOnly DiskFault.IsTooLong (select disk (names.map .named) here) := by
    induction names with
    | nil => exact fun here => FailsOnly.of_ok rfl
    | cons name rest ih =>
      intro here
      have onward : ∀ found : Bool, FailsOnly DiskFault.IsTooLong
          (if found then select disk (rest.map .named) (here.child name) else pure []) := by
        intro found
        cases found with
        | false => exact FailsOnly.of_ok rfl
        | true => exact ih _
      simp only [List.map_cons, select]
      split
      · exact (Disk.leadsTo_failsOnly disk _ _).bind fun found _ => onward found
      · exact (Disk.isDirectory_failsOnly disk _).bind fun found _ => onward found
  unfold select
  apply (matchingEntries_failsOnly stands pattern _).bind
  intro here _
  exact collect_failsOnly fun directory _ => named directory

end Glob

namespace Scan

variable {disk : Disk} {omissions : Omissions} {base : Location} {written pattern : String}

/-- A search by path for names that match a pattern finds files with such names. -/
theorem findByPath_matching (read : Glob.parts written = .ok [.matching pattern])
    {found : List Location} (searched : findByPath disk base written = .ok found) :
    ∀ file ∈ found, disk.isFile file = .ok true ∧
      ∃ name, file = base.child name ∧ Wildcard.fits name pattern = true := by
  intro file member
  simp only [findByPath, read, Glob.find, exceptBind_ok_iff, mapError_ok_iff, Except.ok.injEq,
    exists_eq_left', Pure.pure, Except.pure] at searched
  obtain ⟨selected, ⟨stands, _, globbed⟩, files, kept, rfl⟩ := searched
  -- What is found has been selected, and was then found to be a file.
  obtain ⟨l, among, part, asked, here⟩ := Glob.collect_mem kept (mem_sorted.mp member)
  rw [exceptBind_ok_iff] at asked
  obtain ⟨isFile, answered, asked⟩ := asked
  cases isFile with
  | false =>
    cases asked
    cases here
  | true =>
    cases asked
    obtain rfl := List.mem_singleton.mp here
    refine ⟨answered, ?_⟩
    cases stands with
    | false =>
      cases globbed
      cases among
    | true =>
      -- Nothing follows the pattern, so what is selected is an entry that matches it.
      simp only [if_true, Glob.select, exceptBind_ok_iff] at globbed
      obtain ⟨entries, listed, collected⟩ := globbed
      obtain ⟨entry, inside, part, same, chosen⟩ := Glob.collect_mem collected among
      cases same
      obtain rfl := List.mem_singleton.mp chosen
      exact Glob.matchingEntries_mem listed inside

/-- A search for names that match a pattern finds files with such names in the directory. -/
theorem findFiles_matching (byPath : namePattern? written = none)
    (read : Glob.parts written = .ok [.matching pattern]) {found : List Location}
    (searched : findFiles disk omissions base written = .ok found) :
    ∀ file ∈ found, disk.isFile file = .ok true ∧
      ∃ name, file = base.child name ∧ Wildcard.fits name pattern = true := by
  simp only [findFiles, byPath, exceptBind_ok_iff, mapError_ok_iff] at searched
  obtain ⟨stands, _, searched⟩ := searched
  cases stands with
  | false =>
    -- Where there is no directory, nothing is found.
    cases searched
    simp
  | true => exact findByPath_matching read searched

/-- A search by path from a directory fails only at a path that is too long. -/
theorem findByPath_failsOnly {names : List String} (stands : disk.isDirectory base = .ok true)
    (read : Glob.parts written = .ok (.matching pattern :: names.map .named)) :
    FailsOnly SearchFault.IsTooLong (findByPath disk base written) := by
  have selecting : FailsOnly (fun fault => SearchFault.IsTooLong (.disk fault))
      (Glob.find disk (.matching pattern :: names.map .named) base) := by
    unfold Glob.find
    rw [stands]
    exact Glob.select_failsOnly stands pattern names
  have keeping : ∀ selected, FailsOnly (fun fault => SearchFault.IsTooLong (.disk fault))
      (Glob.collect (fun l => do return if ← disk.isFile l then [l] else []) selected) := by
    intro selected
    apply Glob.collect_failsOnly
    intro l _
    exact (Disk.leadsTo_failsOnly disk l _).bind fun isFile _ => FailsOnly.of_ok rfl
  -- The pattern is a proper one, so only the disk can be at fault.
  unfold findByPath
  rw [read]
  apply FailsOnly.bind
  · exact FailsOnly.of_ok rfl
  · intro parts same
    cases same
    apply selecting.mapError.bind
    intro selected _
    exact (keeping selected).mapError.bind fun files _ => FailsOnly.of_ok rfl

/-- A search for names in what matches a pattern fails only at a path that is too long. -/
theorem findFiles_failsOnly {names : List String} (byPath : namePattern? written = none)
    (read : Glob.parts written = .ok (.matching pattern :: names.map .named)) :
    FailsOnly SearchFault.IsTooLong (findFiles disk omissions base written) := by
  -- The directory is asked for first, and only a directory is searched.
  have asking : FailsOnly (fun fault => SearchFault.IsTooLong (.disk fault))
      (disk.isDirectory base) := Disk.isDirectory_failsOnly disk base
  unfold findFiles
  apply asking.mapError.bind
  intro stands asked
  rw [mapError_ok_iff] at asked
  cases stands with
  | false => exact FailsOnly.of_ok rfl
  | true =>
    simp only [if_true, byPath]
    exact findByPath_failsOnly asked read

end Scan

end AutomationIndex
