import AutomationIndex.Proofs.Scan.Exact

/-! Which scans come to an answer, whatever links they meet: only a path that is too long keeps one
from it. -/

namespace AutomationIndex.Scan

variable {disk : Disk} {search : Search} {root directory : Location} {names : List String}

/-- Joined scans fail only where one of them does. -/
theorem joinScans_failsOnly {kind : DiskFault → Prop}
    {scan : String → Except DiskFault (List Location)}
    (each : ∀ name ∈ names, FailsOnly kind (scan name)) : FailsOnly kind (joinScans scan names) := by
  induction names with
  | nil => exact FailsOnly.of_ok rfl
  | cons name rest ih =>
    obtain ⟨here, later⟩ := List.forall_mem_cons.mp each
    -- The join ends at the first scan that fails.
    apply here.bind
    intro found _
    apply (ih later).bind
    intro others _
    exact FailsOnly.of_ok rfl

/-- A directory that a scan is about to enter is one, unless its path is too long. -/
def Enters (disk : Disk) (directory : Location) : Prop :=
  disk.isDirectory directory = .ok true ∨ disk.Exceeds directory

/-- What counts as a directory among the entries of a directory can be entered. -/
theorem enters_child (wellNamed : disk.isWellNamed = true) {entries : List (String × Node)}
    (listed : disk.entriesOf directory = .ok entries) {name : String}
    (kept : name ∈ keptNames disk search directory names true entries) :
    Enters disk (directory.child name) := by
  simp only [keptNames, List.mem_map, List.mem_filter] at kept
  obtain ⟨⟨name, node⟩, ⟨member, counts⟩, rfl⟩ := kept
  cases node with
  | file bytes => simp [countsAsDirectory?] at counts
  | link target =>
    -- A link counts only if it has been followed to a directory.
    left
    rw [Disk.isDirectory_true_iff]
    simp only [countsAsDirectory?] at counts
    split at counts
    · next counted =>
      split at counted
      · exact ⟨_, _, ‹_›⟩
      · cases counted
        simp at counts
      · cases counted
        simp at counts
      · cases counted
    · cases counts
  | directory inner =>
    have holds : disk.Holds directory [name] (.directory inner) :=
      (Disk.mem_entriesOf_iff wellNamed listed).mp member
    rcases holds.found wellNamed (by simp) with ⟨place, found⟩ | exceeds
    · exact .inl (Disk.isDirectory_true_iff.mpr ⟨place, inner, found⟩)
    · exact .inr exceeds

/-- Scanning a directory that can be entered fails only at a path that is too long. -/
theorem scanDirectory_failsOnly (wellNamed : disk.isWellNamed = true) (depth : Nat)
    (enters : Enters disk directory) :
    FailsOnly DiskFault.IsTooLong (scanDirectory disk search depth directory names) := by
  -- What is kept from one level to the next is that the directory can be entered.
  induction depth generalizing directory names with
  | zero => exact FailsOnly.of_ok rfl
  | succ depth ih =>
    unfold scanDirectory
    rcases enters with stands | exceeds
    · obtain ⟨entries, listed⟩ := Disk.entriesOf_of_isDirectory stands
      simp only [listed]
      apply FailsOnly.bind
      · apply joinScans_failsOnly
        intro name member
        -- Pruning only takes names away.
        have kept : name ∈ keptNames disk search directory names true entries := by
          split at member
          · exact member
          · exact List.mem_of_mem_filter member
        exact ih (enters_child wellNamed listed kept)
      · intro below _
        exact FailsOnly.of_ok rfl
    · have failed : disk.find directory = .error .nameTooLong := exceeds
      simp only [Disk.entriesOf, failed]
      rintro _ ⟨rfl⟩
      rfl

/-- Reading the ignore file of a directory fails only at a path that is too long. -/
theorem gitignorePatterns_failsOnly (disk : Disk) (root : Location) :
    FailsOnly DiskFault.IsTooLong (gitignorePatterns disk root) := by
  unfold gitignorePatterns
  apply (Disk.leadsTo_failsOnly disk _ _).bind
  intro stands _
  -- An ignore file that cannot be read lists nothing.
  cases stands with
  | false => exact FailsOnly.of_ok rfl
  | true =>
    simp only [if_true]
    split <;> exact FailsOnly.of_ok rfl

/-- A search for names in a directory fails only at a path that is too long. -/
theorem findNamed_failsOnly (wellNamed : disk.isWellNamed = true)
    (stands : disk.isDirectory root = .ok true) {omissions : Omissions} {pattern : String} :
    FailsOnly DiskFault.IsTooLong (findNamed disk omissions root pattern) := by
  have scanning : ∀ listed, FailsOnly DiskFault.IsTooLong (do
      let found ← scan disk
        ⟨[pattern], omissions.ignorePatterns ++ listed, omissions.outputDirectories⟩ root
      return sorted found) := by
    intro listed
    apply (scanDirectory_failsOnly wellNamed _ (.inl stands)).bind
    intro found _
    exact FailsOnly.of_ok rfl
  -- The ignore file is read first, if it counts, and then the directory is scanned.
  unfold findNamed
  dsimp only
  split
  · exact (gitignorePatterns_failsOnly disk root).bind fun listed _ => scanning listed
  · exact scanning []

/-- A search for names at any depth fails only at a path that is too long. -/
theorem findFiles_anyDepth_failsOnly (wellNamed : disk.isWellNamed = true) {omissions : Omissions}
    {pattern : String} (isName : isNamePattern pattern = true) :
    FailsOnly SearchFault.IsTooLong (findFiles disk omissions root ("**/" ++ pattern)) := by
  -- The search asks for the directory and then scans it, and each of the two fails only so.
  have asking : FailsOnly (fun fault => SearchFault.IsTooLong (.disk fault))
      (disk.isDirectory root) := Disk.isDirectory_failsOnly disk root
  unfold findFiles
  apply asking.mapError.bind
  intro stands asked
  rw [mapError_ok_iff] at asked
  cases stands with
  | false => exact FailsOnly.of_ok rfl
  | true =>
    have naming : FailsOnly (fun fault => SearchFault.IsTooLong (.disk fault))
        (findNamed disk omissions root pattern) := findNamed_failsOnly wellNamed asked
    simp only [if_true, namePattern?_anyDepth isName]
    exact naming.mapError

end AutomationIndex.Scan
