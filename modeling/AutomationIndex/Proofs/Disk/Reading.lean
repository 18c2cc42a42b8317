import AutomationIndex.Disk.Read
import AutomationIndex.Proofs.Disk.Replacement

/-! Reading from a disk: which paths cannot be asked for, and what a replaced file changes. -/

namespace AutomationIndex.Disk

/-- Following names never finds fault with the way a path is written, if following links does not. -/
theorem followNames_written {root : Node} {lastLink : Bool}
    {onLink : Place → List String → Except DiskCause Found}
    (linked : ∀ here names, onLink here names ≠ .error .nullCharacter) (here : Place)
    (names : List String) : followNames root lastLink onLink here names ≠ .error .nullCharacter :=
  followNames_ne (by decide) (fun _ _ _ => linked) here names

/-- Following names through links never finds fault with the way a path is written. -/
theorem followLinks_written (root : Node) (lastLink : Bool) (links : Nat) (here : Place)
    (names : List String) : followLinks root lastLink links here names ≠ .error .nullCharacter := by
  induction links generalizing here names with
  | zero =>
    apply followNames_written
    simp
  | succ links ih => exact followNames_written ih here names

/-- No path is written with a NUL, and only such a path cannot be asked for at all. -/
theorem find_nullCharacter_iff (disk : Disk) (l : Location) (lastLink : Bool) :
    disk.find l lastLink = .error .nullCharacter ↔ Char.ofNat 0 ∈ l.text.toList := by
  have followed := followLinks_written disk.root lastLink linkLimit
    (if l.root == "" then disk.working else []) l.segments
  unfold find
  -- The way is only followed after its text has been checked.
  by_cases written : Char.ofNat 0 ∈ l.text.toList
  · simp [written]
  · by_cases long : l.text.utf8ByteSize > pathLimit
    · simp [written, long]
    · simpa [written, long] using followed

/-- The text of a file can always be asked for, unless its path is written with a NUL. -/
theorem readText_error_iff {disk : Disk} {l : Location} {fault : DiskFault} :
    disk.readText l = .error fault ↔
      Char.ofNat 0 ∈ l.text.toList ∧ fault = faultAt l .nullCharacter := by
  -- Every other cause is an answer of its own.
  rw [← find_nullCharacter_iff disk l true]
  unfold readText bytesOf
  cases located : disk.find l with
  | error cause => cases cause <;> simp [eq_comm]
  | ok found =>
    rcases found with ⟨at_place, node⟩
    cases node <;> simp

/-- The text of a location is that of the file which it leads to. -/
theorem readText_ok_iff {disk : Disk} {l : Location} {content : String} :
    disk.readText l = .ok (.ok content) ↔
      ∃ place bytes, disk.find l = .ok ⟨place, .file bytes⟩ ∧ markedText bytes = .ok content := by
  unfold readText bytesOf
  -- Only a file that was found is read, and then its bytes may still be no text.
  cases located : disk.find l with
  | error cause => cases cause <;> simp
  | ok found =>
    rcases found with ⟨place, node⟩
    cases node with
    | file bytes => cases told : markedText bytes <;> simp [Except.mapError, told]
    | link target => simp
    | directory entries => simp

namespace SameBut

variable {place : Place} {disk other : Disk}

/-- Whether a location leads to a node of a kind is the same on both disks, if the kind does not
depend on what files hold. -/
theorem leadsTo_eq (same : SameBut place disk other) (l : Location) {kind : Node → Bool}
    (blind : ∀ node again, Node.Alike True node again → kind again = kind node) :
    other.leadsTo l kind = disk.leadsTo l kind := by
  have alike := same.find_alike l true
  unfold leadsTo
  revert alike
  generalize disk.find l = first
  generalize other.find l = second
  -- Both ways end at the same fault, or at nodes that look the same.
  rintro (cause | alike)
  · rfl
  · simp only [blind _ _ (alike.weaken fun _ => trivial)]

/-- The same locations are directories. -/
theorem isDirectory_eq (same : SameBut place disk other) (l : Location) :
    other.isDirectory l = disk.isDirectory l := by
  apply same.leadsTo_eq l
  rintro node again (held | names) <;> rfl

/-- The same locations are files. -/
theorem isFile_eq (same : SameBut place disk other) (l : Location) :
    other.isFile l = disk.isFile l := by
  apply same.leadsTo_eq l
  rintro node again (held | names) <;> rfl

/-- The same locations lead anywhere. -/
theorem exists?_eq (same : SameBut place disk other) (l : Location) :
    other.exists? l = disk.exists? l :=
  same.leadsTo_eq l fun _ _ _ => rfl

/-- The same locations lead to a place. -/
theorem reaches_eq (same : SameBut place disk other) (target : Place) (l : Location) :
    other.reaches target l = disk.reaches target l := by
  -- The walks agree up to the bytes of one file, and reaching a place asks for the place alone.
  have alike := same.find_alike l true
  unfold reaches
  revert alike
  generalize disk.find l = first
  generalize other.find l = second
  rintro (cause | alike) <;> rfl

/-- What a location that does not lead to the file holds is the same. -/
theorem bytesOf_eq (same : SameBut place disk other) {l : Location}
    (passed : disk.reaches place l = false) : other.bytesOf l = disk.bytesOf l := by
  have alike := same.find_alike l true
  unfold bytesOf
  revert alike passed
  unfold reaches
  generalize disk.find l = first
  generalize other.find l = second
  rintro passed (cause | alike)
  · rfl
  · cases alike with
    -- Two files at one place differ only if it is the place of the file.
    | file held =>
      simp only [beq_eq_false_iff_ne, ne_eq] at passed
      rw [held.resolve_left passed]
    | directory names => rfl

/-- The text at a location that does not lead to the file is the same. -/
theorem readText_eq (same : SameBut place disk other) {l : Location}
    (passed : disk.reaches place l = false) : other.readText l = disk.readText l := by
  unfold readText
  rw [same.bytesOf_eq passed]

/-- Loading what does not lead to the file comes to the same. -/
theorem load_eq {α : Type} (same : SameBut place disk other) {file : Location}
    (passed : disk.reaches place file = false) (kind : String)
    (read : Location → Xml.Source → Except ContentFault α) :
    other.load kind file read = disk.load kind file read := by
  unfold load
  rw [same.readText_eq passed]

end SameBut

end AutomationIndex.Disk
