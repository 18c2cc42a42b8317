import AutomationIndex.Disk.Read
import AutomationIndex.Proofs.Disk.Replacement

/-! A file written anew: the locations that led to it still do, through whatever links. -/

namespace AutomationIndex

namespace Node

/-- Whether nodes are of one kind: files, directories, or links with the same path. -/
inductive SameKind : Node → Node → Prop where
  | file (bytes other : List UInt8) : SameKind (file bytes) (file other)
  | link (target : String) : SameKind (link target) (link target)
  | directory (entries others : List (String × Node)) :
      SameKind (directory entries) (directory others)

/-- A node is of its own kind. -/
theorem SameKind.refl (node : Node) : node.SameKind node := by
  cases node with
  | file bytes => exact file bytes bytes
  | link target => exact link target
  | directory entries => exact directory entries entries

variable {root node : Node} {place way : Place} {old : List UInt8}

/-- What is put at a place stands there. -/
theorem at?_put (new : Node) (place : Place) (root : Node) :
    (put new place root).at? place = some new := by
  induction place generalizing root with
  | nil => rfl
  | cons name rest ih => simp only [put, at?, child?_setEntry, if_true, Option.bind_some, ih]

/-- Writing a file anew leaves everything of its kind in its place. -/
theorem at?_rewritten (new : List UInt8) (held : root.at? place = some (file old))
    (stands : root.at? way = some node) :
    ∃ again, (put (file new) place root).at? way = some again ∧ node.SameKind again := by
  -- The induction follows the way to the file, which the other way leaves somewhere or shares.
  induction place generalizing root way with
  | nil =>
    cases held
    cases way with
    | nil =>
      cases stands
      exact ⟨file new, rfl, .file old new⟩
    | cons step way => cases stands
  | cons name rest ih =>
    simp only [at?, Option.bind_eq_some_iff] at held
    obtain ⟨child, here, held⟩ := held
    obtain ⟨inner, rfl⟩ := eq_directory_of_child? here
    cases way with
    | nil =>
      cases stands
      exact ⟨_, rfl, .directory _ _⟩
    | cons step way =>
      simp only [put, at?, child?_setEntry, here, Option.getD_some] at stands ⊢
      by_cases same : step = name
      · subst same
        simp only [here, Option.bind_some] at stands
        simpa only [if_true, Option.bind_some] using ih held stands
      · exact ⟨node, by simpa only [same, if_false, entries] using stands, .refl node⟩

end Node

namespace Disk

variable {disk : Disk} {root : Node} {place here : Place} {names : List String} {found : Found}
  {old : List UInt8} {onLink onOther : Place → List String → Except DiskCause Found} {links : Nat}
  {l : Location}

/-- Names that led to a file lead to it when it is written anew, if links do. -/
theorem followNames_rewritten (new : List UInt8) (held : root.at? place = some (.file old))
    (linked : ∀ here names found, onLink here names = .ok found → found.place = place →
      onOther here names = .ok ⟨place, .file new⟩)
    (followed : followNames root true onLink here names = .ok found) (ends : found.place = place) :
    followNames (Node.put (.file new) place root) true onOther here names =
      .ok ⟨place, .file new⟩ := by
  -- The induction follows the names that are left; both ways are at the same place all along.
  induction names generalizing here with
  | nil =>
    simp only [followNames] at followed ⊢
    split at followed
    · cases followed
      dsimp only at ends
      rw [ends, Node.at?_put]
    · cases followed
  | cons name names ih =>
    obtain ⟨entries, stands, onward⟩ := followNames_cons_ok_iff.mp followed
    obtain ⟨_, remains, _ | _ | ⟨_, others⟩⟩ := Node.at?_rewritten new held stands
    refine followNames_cons_ok_iff.mpr ⟨others, remains, ?_⟩
    obtain ⟨dot, followed⟩ | ⟨up, followed⟩ | ⟨noDots, short, onward⟩ := onward
    · exact .inl ⟨dot, ih followed⟩
    · exact .inr (.inl ⟨up, ih followed⟩)
    · refine .inr (.inr ⟨noDots, short, ?_⟩)
      -- The entry is of the same kind in both directories, so both ways go on alike.
      obtain ⟨target, entry, followed⟩ | ⟨node, entry, noLink, followed⟩ := onward
      · obtain ⟨_, remains, _ | _ | _⟩ := Node.at?_rewritten new held entry
        exact .inl ⟨target, remains, linked _ _ _ followed ends⟩
      · obtain ⟨other, remains, kind⟩ := Node.at?_rewritten new held entry
        refine .inr ⟨other, remains, ?_, ih followed⟩
        obtain _ | ⟨target⟩ | _ := kind
        · simp
        · exact (noLink target rfl).elim
        · simp

/-- A way that led to a file leads to it when it is written anew, with links of its own. -/
theorem followLinks_rewritten (new : List UInt8) (held : root.at? place = some (.file old))
    (followed : followLinks root true links here names = .ok found) (ends : found.place = place) :
    followLinks (Node.put (.file new) place root) true links here names =
      .ok ⟨place, .file new⟩ := by
  -- The induction is on the links left; the place written to is the end of the walk and no link.
  induction links generalizing here names found with
  | zero =>
    rw [followLinks] at followed ⊢
    exact followNames_rewritten new held (fun _ _ _ none => by cases none) followed ends
  | succ links ih =>
    rw [followLinks] at followed ⊢
    exact followNames_rewritten new held (fun _ _ _ onward there => ih onward there) followed ends

/-- A location that led to a file leads to it when it is written anew. -/
theorem find_rewritten (new : List UInt8) (located : disk.find l = .ok ⟨place, .file old⟩) :
    (disk.putAt place (.file new)).find l = .ok ⟨place, .file new⟩ := by
  have onward := followLinks_rewritten new (find_at located) (find_follows located) rfl
  -- The written form of the location counts as before.
  simp only [find] at located ⊢
  split at located
  · cases located
  · rename_i lacks
    split at located
    · cases located
    · rename_i short
      rw [if_neg lacks, if_neg short]
      exact onward

/-- A location that led to a file is read as what the file holds anew. -/
theorem bytesOf_rewritten (new : List UInt8) (located : disk.find l = .ok ⟨place, .file old⟩) :
    (disk.putAt place (.file new)).bytesOf l = .ok new := by
  rw [bytesOf, find_rewritten new located]

end Disk

end AutomationIndex
