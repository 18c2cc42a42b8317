import AutomationIndex.Disk.Change
import AutomationIndex.Proofs.Disk.Unlinked

/-! Disks that differ in what one file holds: every way on them leads to the same place. -/

namespace AutomationIndex

namespace Node

/-- Whether nodes look the same but for what a file holds that may differ. Links never do. -/
inductive Alike (differ : Prop) : Node → Node → Prop where
  | file {bytes other : List UInt8} (held : differ ∨ bytes = other) :
      Alike differ (file bytes) (file other)
  | directory {entries others : List (String × Node)}
      (names : (entries.map (·.1)).Perm (others.map (·.1))) :
      Alike differ (directory entries) (directory others)

namespace Alike

variable {differ : Prop} {node other : Node}

/-- Nodes look the same in both directions. -/
theorem symm (alike : node.Alike differ other) : other.Alike differ node := by
  cases alike with
  | file held => exact file (held.imp_right Eq.symm)
  | directory names => exact directory names.symm

/-- Nodes that look the same still do when more may differ. -/
theorem weaken {more : Prop} (implied : differ → more) (alike : node.Alike differ other) :
    node.Alike more other := by
  cases alike with
  | file held => exact file (held.imp_left implied)
  | directory names => exact directory names

/-- A node that is no link looks like itself. -/
theorem refl (unlinked : ∀ target, node ≠ link target) : node.Alike differ node := by
  cases node with
  | file bytes => exact file (Or.inr rfl)
  | link target => exact absurd rfl (unlinked target)
  | directory entries => exact directory (List.Perm.refl _)

/-- What optional nodes have in common does not depend on their order either. -/
theorem rel_symm {first second : Option Node} (alike : Option.Rel (Alike differ) first second) :
    Option.Rel (Alike differ) second first := by
  cases alike with
  | none => exact Option.Rel.none
  | some alike => exact Option.Rel.some alike.symm

/-- Nothing looks like a link. -/
theorem not_link {target : String} {second : Option Node} :
    ¬ Option.Rel (Alike differ) (some (link target)) second := by
  rintro (alike | _)
  cases alike

end Alike

/-- Setting an entry puts it under its name and leaves the other names alone. -/
theorem child?_setEntry (name : String) (node : Node) (entries : List (String × Node))
    (other : String) : (directory (setEntry name node entries)).child? other =
      if other = name then some node else (directory entries).child? other := by
  by_cases same : other = name
  · -- The entry that is set stands first.
    simp [child?, setEntry, Node.entries, same]
  · have passed : name ≠ other := fun equal => same equal.symm
    -- The entries that are taken out have another name than the one that is looked for.
    have kept : ∀ entry : String × Node,
        decide ((entry.1 != name) = true ∧ (entry.1 == other) = true) = (entry.1 == other) := by
      intro entry
      by_cases equal : entry.1 = other <;> simp [equal, same]
    have first : (name == other) = false := by simpa using passed
    simp only [child?, setEntry, Node.entries, List.find?_cons, first, List.find?_filter, kept,
      same, if_false]

/-- Entries are no deeper than a bound exactly if each of them is. -/
theorem depthOfEntries_le_iff {entries : List (String × Node)} {bound : Nat} :
    depthOfEntries entries ≤ bound ↔ ∀ entry ∈ entries, entry.2.depth ≤ bound := by
  induction entries with
  | nil => simp [depthOfEntries]
  | cons entry rest ih =>
    rcases entry with ⟨name, node⟩
    -- The depth of entries is the larger one of the first entry and the rest.
    rw [depthOfEntries, Nat.max_le, ih, List.forall_mem_cons]

/-- A tree without links looks like itself wherever one goes. -/
theorem at?_alike_refl {node : Node} (differ : Prop) (unlinked : node.targets = [])
    (place : Place) : Option.Rel (Alike differ) (node.at? place) (node.at? place) := by
  -- A tree without links has none at any place, so each node is alike itself.
  cases located : node.at? place with
  | none => exact Option.Rel.none
  | some found =>
    refine Option.Rel.some (Alike.refl ?_)
    rintro target rfl
    simpa [targets] using at?_targets unlinked located

/-- The names of a directory stay when the entry under one of them is set. -/
theorem setEntry_names {entries : List (String × Node)} {name : String} {node child : Node}
    (distinct : (entries.map (·.1)).Nodup) (member : (name, child) ∈ entries) :
    (entries.map (·.1)).Perm ((setEntry name node entries).map (·.1)) := by
  -- The name is taken out once and put first.
  have among : name ∈ entries.map (·.1) := List.mem_map.mpr ⟨_, member, rfl⟩
  have others : (entries.filter fun entry => entry.1 != name).map (·.1) =
      (entries.map (·.1)).erase name := by
    rw [distinct.erase_eq_filter, List.filter_map]
    rfl
  rw [setEntry, List.map_cons, others]
  exact List.perm_cons_erase among

/-- Setting an entry of a well-named directory, a new one or another, keeps it well named. -/
theorem setEntry_isWellNamed {entries : List (String × Node)} {name : String} {node : Node}
    (wellNamed : (directory entries).isWellNamed = true) (named : isEntryName name = true)
    (proper : node.isWellNamed = true) :
    (directory (setEntry name node entries)).isWellNamed = true := by
  obtain ⟨distinct, all⟩ := isWellNamed_directory_iff.mp wellNamed
  have others : ∀ entry ∈ entries.filter fun entry => entry.1 != name, entry.1 ≠ name :=
    fun entry kept => by simpa using (List.mem_filter.mp kept).2
  refine isWellNamed_directory_iff.mpr ⟨?_, ?_⟩
  · -- The name is taken out where it was and put first.
    rw [setEntry, List.map_cons, List.nodup_cons]
    refine ⟨fun again => ?_, distinct.sublist (List.filter_sublist.map _)⟩
    obtain ⟨entry, kept, same⟩ := List.mem_map.mp again
    exact others entry kept same
  · intro entry set
    rcases List.mem_cons.mp set with same | old
    · subst same
      exact ⟨named, proper⟩
    · exact all entry (List.mem_of_mem_filter old)

/-- Setting an entry to a node of the same depth keeps the depth. -/
theorem setEntry_depth {entries : List (String × Node)} {name : String} {node child : Node}
    (distinct : (entries.map (·.1)).Nodup) (member : (name, child) ∈ entries)
    (deep : node.depth = child.depth) :
    depthOfEntries (setEntry name node entries) = depthOfEntries entries := by
  -- The bounds of the new entries are those of the old ones.
  have bounds : ∀ bound, depthOfEntries (setEntry name node entries) ≤ bound ↔
      depthOfEntries entries ≤ bound := by
    intro bound
    rw [depthOfEntries_le_iff, depthOfEntries_le_iff]
    constructor
    · intro below entry old
      -- An old entry is either still there or has the name of the new one, which is as deep.
      by_cases same : entry.1 = name
      · have stands := child?_of_mem distinct (same ▸ old : (name, entry.2) ∈ entries)
        rw [child?_of_mem distinct member, Option.some.injEq] at stands
        rw [← stands, ← deep]
        exact below (name, node) List.mem_cons_self
      · exact below entry (List.mem_cons_of_mem _ (List.mem_filter.mpr ⟨old, by simpa using same⟩))
    · intro below entry set
      rcases List.mem_cons.mp set with same | old
      · subst same
        exact deep ▸ below _ member
      · exact below entry (List.mem_of_mem_filter old)
  exact Nat.le_antisymm ((bounds _).mpr (Nat.le_refl _)) ((bounds _).mp (Nat.le_refl _))

/-- What a replaced file leaves as it is: the names, the depth, and every node but that file. -/
structure Replaces (place : Place) (node other : Node) : Prop where
  wellNamed : other.isWellNamed = true
  depth_eq : other.depth = node.depth
  nodes_alike : ∀ way, Option.Rel (Alike (way = place)) (node.at? way) (other.at? way)

/-- Putting a file in the place of another one replaces it. -/
theorem put_replaces {node : Node} {place : Place} {old new : List UInt8}
    (wellNamed : node.isWellNamed = true) (unlinked : node.targets = [])
    (stands : node.at? place = some (file old)) :
    node.Replaces place (put (file new) place node) := by
  -- On the way to the file each directory has one entry set.
  induction place generalizing node with
  | nil =>
    cases stands
    refine ⟨rfl, rfl, ?_⟩
    intro way
    cases way with
    | nil => exact Option.Rel.some (Alike.file (Or.inl rfl))
    | cons name rest => exact Option.Rel.none
  | cons name rest ih =>
    simp only [at?, Option.bind_eq_some_iff] at stands
    obtain ⟨child, here, stands⟩ := stands
    obtain ⟨entries, rfl⟩ := eq_directory_of_child? here
    obtain ⟨distinct, all⟩ := isWellNamed_directory_iff.mp wellNamed
    have member : (name, child) ∈ entries := child?_mem here
    have inner := ih (all _ member).2 (child?_targets unlinked here) stands
    simp only [put, here, Option.getD_some]
    refine ⟨setEntry_isWellNamed wellNamed (all _ member).1 inner.wellNamed, ?_, ?_⟩
    · simp only [depth, Node.entries, setEntry_depth distinct member inner.depth_eq]
    · intro way
      cases way with
      | nil => exact Option.Rel.some (Alike.directory (setEntry_names distinct member))
      | cons step way =>
        simp only [at?, Node.entries, child?_setEntry]
        -- A way either goes on to the file or leaves the way to it here.
        by_cases same : step = name
        · subst same
          simpa [here] using inner.nodes_alike way
        · simp only [same, if_false, List.cons.injEq, false_and]
          exact at?_alike_refl False unlinked (step :: way)

end Node

namespace Disk

/-- Whether a location leads to a place. -/
def reaches (disk : Disk) (place : Place) (l : Location) : Bool :=
  match disk.find l with
  | .ok found => found.place == place
  | .error _ => false

/-- Whether disks without links differ at most in what the file at a place holds. -/
structure SameBut (place : Place) (disk other : Disk) : Prop where
  working_eq : other.working = disk.working
  depth_eq : other.root.depth = disk.root.depth
  wellNamed : disk.root.isWellNamed = true
  other_wellNamed : other.root.isWellNamed = true
  nodes_alike : ∀ way,
    Option.Rel (Node.Alike (way = place)) (disk.root.at? way) (other.root.at? way)

/-- A disk with a file replaced differs in what that file holds. -/
theorem putAt_sameBut {disk : Disk} {place : Place} {old : List UInt8} (new : List UInt8)
    (wellNamed : disk.isWellNamed = true) (unlinked : disk.root.targets = [])
    (stands : disk.root.at? place = some (.file old)) :
    SameBut place disk (disk.putAt place (.file new)) := by
  simp only [isWellNamed, Bool.and_eq_true] at wellNamed
  -- Only the tree changes, not the place to work from.
  have replaced : disk.root.Replaces place (Node.put (.file new) place disk.root) :=
    Node.put_replaces wellNamed.1 unlinked stands
  exact ⟨rfl, replaced.depth_eq, wellNamed.1, replaced.wellNamed, replaced.nodes_alike⟩

namespace SameBut

variable {place : Place} {disk other : Disk}

/-- Disks differ in one file in both directions. -/
theorem symm (same : SameBut place disk other) : SameBut place other disk := by
  refine ⟨same.working_eq.symm, same.depth_eq.symm, same.other_wellNamed, same.wellNamed, ?_⟩
  exact fun way => Node.Alike.rel_symm (same.nodes_alike way)

/-- Both disks are well named if one of them is. -/
theorem other_isWellNamed (same : SameBut place disk other) (wellNamed : disk.isWellNamed = true) :
    other.isWellNamed = true := by
  simp only [isWellNamed, Bool.and_eq_true] at wellNamed ⊢
  exact ⟨same.other_wellNamed, same.working_eq ▸ wellNamed.2⟩

/-- No way leads to a link. -/
theorem unlinked (same : SameBut place disk other) : disk.root.LacksLinks := by
  intro way target stands
  -- What stands there on the other disk would have to look like a link.
  have alike := same.nodes_alike way
  rw [stands] at alike
  exact Node.Alike.not_link alike

/-- Two directories at one place have entries that look the same under every name. -/
theorem child?_alike (same : SameBut place disk other) {here : Place} {node again : Node}
    (stands : disk.root.at? here = some node) (remains : other.root.at? here = some again)
    (name : String) : Option.Rel (Node.Alike (here ++ [name] = place)) (node.child? name)
      (again.child? name) := by
  have alike := same.nodes_alike (here ++ [name])
  simpa [Node.at?_append, stands, remains, Node.at?] using alike

/-- Where a way leads on two disks: to the same fault, or to nodes that look the same. -/
inductive LeadsAlike (place : Place) : Except DiskCause Found → Except DiskCause Found → Prop where
  | failed (cause : DiskCause) : LeadsAlike place (.error cause) (.error cause)
  | found {way : Place} {node again : Node} (alike : node.Alike (way = place) again) :
      LeadsAlike place (.ok ⟨way, node⟩) (.ok ⟨way, again⟩)

/-- Following names leads to the same place, whatever would become of links. -/
theorem followNames_alike (same : SameBut place disk other) (lastLink : Bool)
    (onLink onOther : Place → List String → Except DiskCause Found) (here : Place)
    (names : List String) :
    LeadsAlike place (followNames disk.root lastLink onLink here names)
      (followNames other.root lastLink onOther here names) := by
  -- The induction follows the names that are left; both ways are at the same place all along.
  induction names generalizing here with
  | nil =>
    have alike := same.nodes_alike here
    simp only [followNames]
    cases stands : disk.root.at? here <;> cases remains : other.root.at? here <;>
      rw [stands, remains] at alike <;> cases alike
    · exact LeadsAlike.failed _
    · exact LeadsAlike.found ‹_›
  | cons name names ih =>
    have alike := same.nodes_alike here
    simp only [followNames]
    cases stands : disk.root.at? here <;> cases remains : other.root.at? here <;>
      rw [stands, remains] at alike <;> cases alike
    · exact LeadsAlike.failed _
    · rename_i alike
      cases alike with
      | file held => exact LeadsAlike.failed _
      | directory names =>
        by_cases dot : name = "."
        · simpa only [dot, beq_self_eq_true, if_true] using ih here
        · by_cases up : name = ".."
          · simpa [up] using ih here.dropLast
          · have below := same.child?_alike stands remains name
            simp only [dot, up, beq_iff_eq, if_false]
            split
            · exact LeadsAlike.failed _
            · -- An entry on both disks is a file or a directory on both.
              cases first : Node.child? _ name <;> cases second : Node.child? _ name <;>
                rw [first, second] at below <;> cases below
              · exact LeadsAlike.failed _
              · rename_i alike
                cases alike with
                | file held => exact ih (here ++ [name])
                | directory names => exact ih (here ++ [name])

/-- A location leads to the same place on both disks. -/
theorem find_alike (same : SameBut place disk other) (l : Location) (lastLink : Bool) :
    LeadsAlike place (disk.find l lastLink) (other.find l lastLink) := by
  -- The limits on the text of a location are checked before either disk is looked at.
  simp only [find, same.working_eq]
  split
  · exact LeadsAlike.failed _
  · split
    · exact LeadsAlike.failed _
    · exact same.followNames_alike _ _ _ _ _

/-- A location leads to the same fault or to the same place, where nodes look the same. -/
theorem find_cases (same : SameBut place disk other) (l : Location) :
    (∃ cause, disk.find l = .error cause ∧ other.find l = .error cause) ∨
      ∃ way node again, disk.find l = .ok ⟨way, node⟩ ∧ other.find l = .ok ⟨way, again⟩ ∧
        node.Alike (way = place) again := by
  -- `LeadsAlike` has two cases, one for each part of the statement.
  have alike := same.find_alike l true
  revert alike
  generalize disk.find l = first
  generalize other.find l = second
  rintro (cause | alike)
  · exact Or.inl ⟨cause, rfl, rfl⟩
  · exact Or.inr ⟨_, _, _, rfl, rfl, alike⟩

/-- A location ends at a place of its last name, so it passes every place of another name. -/
theorem passes_of_name (same : SameBut place disk other) {l : Location} {name : String}
    (noDot : name ≠ ".") (noUp : name ≠ "..") (another : place.getLast? ≠ some name) :
    disk.reaches place (l.below [name]) = false := by
  unfold reaches
  split
  · rename_i found located
    have followed := find_follows located
    change followLinks disk.root true linkLimit _ (l.segments ++ [name]) = _ at followed
    rw [followLinks_append same.unlinked] at followed
    obtain ⟨between, _, followed⟩ := exceptBind_ok_iff.mp followed
    -- The last name is no dot, so the way ends in an entry of that name.
    have ends := followLinks_place same.unlinked (by simp [noDot, noUp]) followed
    rw [beq_eq_false_iff_ne, ends]
    rintro rfl
    simp at another
  · rfl

/-- A location without dots leads to the place of its names. -/
theorem reaches_locationOf (same : SameBut place disk other) {way : Place}
    (plain : ∀ name ∈ way, name ≠ "." ∧ name ≠ "..")
    (reached : disk.reaches place (locationOf way) = true) : way = place := by
  -- Without dots and links, the way ends at the place that the names spell.
  unfold reaches at reached
  split at reached
  · rename_i found located
    have ends := followLinks_place same.unlinked plain (find_follows located)
    rw [beq_iff_eq] at reached
    rw [← reached, ends]
    rfl
  · simp at reached

end SameBut

end Disk

end AutomationIndex
