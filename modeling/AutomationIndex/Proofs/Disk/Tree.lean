import AutomationIndex.Disk.Way
import Mathlib.Data.List.Nodup

/-! The trees of disks: the names that entries have, and the nodes that ways lead to. -/

namespace AutomationIndex

/-- Whether a text can name an entry: it is not empty and no dots, without slashes and NULs. -/
def isEntryName (name : String) : Bool :=
  name != "" && name != "." && name != ".." &&
    name.toList.all fun c => c != '/' && c != Char.ofNat 0

namespace Node

mutual

/-- Whether the entries of all directories at and below a node have names of their own. -/
def isWellNamed : Node → Bool
  | directory entries => decide (entries.map (·.1)).Nodup && areWellNamed entries
  | _ => true

/-- Whether entries can have their names, and what stands under them is well named too. -/
def areWellNamed : List (String × Node) → Bool
  | [] => true
  | (name, node) :: entries => isEntryName name && isWellNamed node && areWellNamed entries

end

/-- Entries are well named one by one. -/
theorem areWellNamed_iff {entries : List (String × Node)} :
    areWellNamed entries = true ↔
      ∀ entry ∈ entries, isEntryName entry.1 = true ∧ entry.2.isWellNamed = true := by
  induction entries with
  | nil => simp [areWellNamed]
  | cons entry rest ih =>
    rcases entry with ⟨name, node⟩
    simp [areWellNamed, ih]

/-- What a well-named directory says about its entries. -/
theorem isWellNamed_directory_iff {entries : List (String × Node)} :
    (directory entries).isWellNamed = true ↔ (entries.map (·.1)).Nodup ∧
      ∀ entry ∈ entries, isEntryName entry.1 = true ∧ entry.2.isWellNamed = true := by
  simp [isWellNamed, areWellNamed_iff]

/-- What a node has under a name is one of its entries. -/
theorem child?_mem {node child : Node} {name : String} (found : node.child? name = some child) :
    (name, child) ∈ node.entries := by
  obtain ⟨⟨found, stands⟩, located, same⟩ := Option.map_eq_some_iff.mp found
  have named : found = name := by simpa using List.find?_some located
  subst named same
  exact List.mem_of_find?_eq_some located

/-- A node that has something under a name is a directory. -/
theorem eq_directory_of_child? {node child : Node} {name : String}
    (stands : node.child? name = some child) : ∃ entries, node = directory entries := by
  cases node with
  | file bytes => simp [child?, entries] at stands
  | link target => simp [child?, entries] at stands
  | directory all => exact ⟨all, rfl⟩

/-- An entry is what its directory has under its name, if no other entry has that name. -/
theorem child?_of_mem {entries : List (String × Node)} (distinct : (entries.map (·.1)).Nodup)
    {name : String} {child : Node} (member : (name, child) ∈ entries) :
    (directory entries).child? name = some child := by
  -- Names tell entries apart, so the first entry with the name is this one.
  induction entries with
  | nil => simp at member
  | cons entry rest ih =>
    obtain ⟨fresh, others⟩ := List.nodup_cons.mp distinct
    rcases List.mem_cons.mp member with same | member
    · subst same
      simp [child?, entries]
    · have different : entry.1 ≠ name := by
        rintro rfl
        exact fresh (List.mem_map.mpr ⟨_, member, rfl⟩)
      simpa [child?, Node.entries, different] using ih others member

/-- The way to a place leads through every place before it. -/
theorem at?_append (node : Node) (first second : Place) :
    node.at? (first ++ second) = (node.at? first).bind fun child => child.at? second := by
  -- The induction is on the first way, which is gone before the second begins.
  induction first generalizing node with
  | nil => rfl
  | cons name rest ih =>
    simp only [List.cons_append, at?]
    cases node.child? name with
    | none => rfl
    | some child => exact ih child

/-- What stands under a name at a place stands at the place that the name adds. -/
theorem at?_snoc {root node : Node} {place : Place} (stands : root.at? place = some node)
    (name : String) : root.at? (place ++ [name]) = node.child? name := by
  rw [at?_append, stands]
  simp [at?]

/-- Every node of a well-named tree is well named. -/
theorem at?_isWellNamed {node found : Node} {place : Place} (wellNamed : node.isWellNamed = true)
    (located : node.at? place = some found) : found.isWellNamed = true := by
  -- Each step goes to an entry of a directory that is well named itself.
  induction place generalizing node with
  | nil =>
    cases located
    exact wellNamed
  | cons name rest ih =>
    simp only [at?, Option.bind_eq_some_iff] at located
    obtain ⟨child, stands, located⟩ := located
    cases node with
    | file bytes => simp [child?, entries] at stands
    | link target => simp [child?, entries] at stands
    | directory all =>
      -- A file and a link have no entries, so only a directory leads on.
      have entry := (isWellNamed_directory_iff.mp wellNamed).2 _ (child?_mem stands)
      exact ih entry.2 located

end Node

namespace Disk

/-- Whether the tree of a disk is well named, and so is the place to work from. -/
def isWellNamed (disk : Disk) : Bool :=
  disk.root.isWellNamed && disk.working.all isEntryName

/-- Following names finds a fault that no name has only where following a link finds it. -/
theorem followNames_ne {root : Node} {lastLink : Bool}
    {onLink : Place → List String → Except DiskCause Found} {cause : DiskCause}
    (foreign : cause ≠ .notFound ∧ cause ≠ .notDirectory ∧ cause ≠ .nameTooLong)
    (linked : ∀ place target, root.at? place = some (.link target) →
      ∀ here names, onLink here names ≠ .error cause)
    (here : Place) (names : List String) :
    followNames root lastLink onLink here names ≠ .error cause := by
  obtain ⟨found, directory, length⟩ := foreign
  -- Each name only finds fault with what stands there.
  induction names generalizing here with
  | nil =>
    simp only [followNames]
    split
    · simp
    · simpa using found.symm
  | cons name names ih =>
    simp only [followNames]
    split
    · simpa using found.symm
    · rename_i entries stands
      split
      · exact ih here
      · split
        · exact ih here.dropLast
        · split
          · simpa using length.symm
          · split
            · simpa using found.symm
            · rename_i target child
              split
              · simp
              · exact linked _ target ((Node.at?_snoc stands name).trans child) _ _
            · exact ih (here ++ [name])
    · simpa using directory.symm

/-- Following names ends at a node of the tree, if following links does. -/
theorem followNames_at {root : Node} {lastLink : Bool}
    {onLink : Place → List String → Except DiskCause Found}
    (linked : ∀ here names found, onLink here names = .ok found →
      root.at? found.place = some found.node)
    {here : Place} {names : List String} {found : Found}
    (followed : followNames root lastLink onLink here names = .ok found) :
    root.at? found.place = some found.node := by
  -- The induction follows the names that are left; each one moves the place or ends the way.
  induction names generalizing here with
  | nil =>
    simp only [followNames] at followed
    cases stands : root.at? here with
    | none => simp [stands] at followed
    | some node =>
      simp only [stands, Except.ok.injEq] at followed
      subst followed
      exact stands
  | cons name names ih =>
    simp only [followNames] at followed
    split at followed
    · simp at followed
    · rename_i entries stands
      split at followed
      · exact ih followed
      · split at followed
        · exact ih followed
        · split at followed
          · simp at followed
          · split at followed
            · simp at followed
            · rename_i target child
              split at followed
              · -- The link itself is what was asked for.
                cases followed
                simp [Node.at?_append, stands, Node.at?, child]
              · -- Following the link goes on with the names that are left.
                exact linked _ _ _ followed
            · exact ih followed
    · simp at followed

/-- What following one more name can come to: a dot stays, a double dot climbs, and any other name
leads to an entry of the directory, where a link leaves the names that are left to what follows it. -/
theorem followNames_cons_ok_iff {root : Node} {onLink : Place → List String → Except DiskCause Found}
    {here : Place} {name : String} {names : List String} {found : Found} :
    followNames root true onLink here (name :: names) = .ok found ↔
      ∃ entries, root.at? here = some (.directory entries) ∧
        (name = "." ∧ followNames root true onLink here names = .ok found ∨
          name = ".." ∧ followNames root true onLink here.dropLast names = .ok found ∨
          (name ≠ "." ∧ name ≠ "..") ∧ name.utf8ByteSize ≤ nameLimit ∧
            ((∃ target, root.at? (here ++ [name]) = some (.link target) ∧
                onLink (targetStart here target) (targetNames target ++ names) = .ok found) ∨
              ∃ node, root.at? (here ++ [name]) = some node ∧ (∀ target, node ≠ .link target) ∧
                followNames root true onLink (here ++ [name]) names = .ok found)) := by
  rw [followNames]
  cases stands : root.at? here with
  | none => simp
  | some node =>
    cases node with
    | file bytes => simp
    | link target => simp
    | directory entries =>
      have below := Node.at?_snoc stands name
      by_cases dot : name = "."
      · simp [dot]
      by_cases up : name = ".."
      · simp [up]
      by_cases long : name.utf8ByteSize > nameLimit
      · simp [dot, up, long, Nat.not_le.mpr long]
      have short : name.utf8ByteSize ≤ nameLimit := Nat.not_lt.mp long
      -- What the entry is decides who goes on.
      simp only [dot, up, long, beq_iff_eq, if_false, below]
      cases entry : (Node.directory entries).child? name with
      | none => simp
      | some child => cases child <;> simp [dot, up, short]

/-- Following names through any number of links ends at a node of the tree. -/
theorem followLinks_at {root : Node} {lastLink : Bool} {links : Nat} {here : Place}
    {names : List String} {found : Found}
    (followed : followLinks root lastLink links here names = .ok found) :
    root.at? found.place = some found.node := by
  -- Each level of links goes on at the level below it.
  induction links generalizing here names found with
  | zero =>
    apply followNames_at ?_ followed
    simp
  | succ links ih =>
    apply followNames_at ?_ followed
    intro here names found linked
    exact ih linked

/-- What a location leads to is found by following its names. -/
theorem find_follows {disk : Disk} {l : Location} {lastLink : Bool} {found : Found}
    (located : disk.find l lastLink = .ok found) : followLinks disk.root lastLink linkLimit
      (if l.root == "" then disk.working else []) l.segments = .ok found := by
  -- Both checks are of the location itself, so what is found is what following finds.
  simp only [find] at located
  split at located
  · simp at located
  · split at located
    · simp at located
    · exact located

/-- A location leads to a node of the tree. -/
theorem find_at {disk : Disk} {l : Location} {lastLink : Bool} {found : Found}
    (located : disk.find l lastLink = .ok found) :
    disk.root.at? found.place = some found.node :=
  followLinks_at (find_follows located)

/-- The entries of a directory are those of a node of the tree, in another order. -/
theorem entriesOf_perm {disk : Disk} {l : Location} {entries : List (String × Node)}
    (listed : disk.entriesOf l = .ok entries) :
    ∃ place all, disk.root.at? place = some (.directory all) ∧ entries.Perm all := by
  -- Only a directory has a listing, and the listing is sorted by name.
  unfold entriesOf at listed
  split at listed
  · simp at listed
  · rename_i place all located
    cases listed
    exact ⟨place, all, find_at located, List.mergeSort_perm all _⟩
  · simp at listed

/-- The entries of a directory of a well-named disk have proper names, no two the same. -/
theorem entriesOf_names {disk : Disk} (wellNamed : disk.isWellNamed = true) {l : Location}
    {entries : List (String × Node)} (listed : disk.entriesOf l = .ok entries) :
    (entries.map (·.1)).Nodup ∧ ∀ entry ∈ entries, isEntryName entry.1 = true := by
  -- Sorting keeps the entries of the directory, and each node of the tree is well named.
  obtain ⟨place, all, stands, same⟩ := entriesOf_perm listed
  simp only [isWellNamed, Bool.and_eq_true] at wellNamed
  have directory := Node.at?_isWellNamed wellNamed.1 stands
  obtain ⟨distinct, names⟩ := Node.isWellNamed_directory_iff.mp directory
  refine ⟨(same.map _).nodup_iff.mpr distinct, ?_⟩
  intro entry member
  exact (names entry (same.mem_iff.mp member)).1

end Disk

end AutomationIndex
