import AutomationIndex.Proofs.Disk.Resolved
import AutomationIndex.Proofs.Location.Characters

/-! Ways on a disk without links: each name goes one step, whatever comes after it, and locations are
resolved by their spelling alone. -/

namespace AutomationIndex

/-- A name of an entry is written without a NUL. -/
theorem lacksNul_of_isEntryName {name : String} (proper : isEntryName name = true) :
    LacksNul name := by
  intro written
  simp only [isEntryName, Bool.and_eq_true, List.all_eq_true] at proper
  simpa using proper.2 _ written

/-- A name of an entry is no dots. -/
theorem noDots_of_isEntryName {name : String} (proper : isEntryName name = true) :
    name ≠ "." ∧ name ≠ ".." := by
  simp only [isEntryName, Bool.and_eq_true, bne_iff_ne] at proper
  exact ⟨proper.1.1.2, proper.1.2⟩

/-- The name of an entry has no slash. -/
theorem noSlash_of_isEntryName {name : String} (proper : isEntryName name = true) :
    '/' ∉ name.toList := by
  intro inside
  simp only [isEntryName, Bool.and_eq_true, List.all_eq_true] at proper
  simpa using proper.2 _ inside

namespace Node

/-- Whether no place of a tree holds a link. -/
def LacksLinks (root : Node) : Prop :=
  ∀ place target, root.at? place ≠ some (.link target)

/-- The entries of a directory without links hold none. -/
theorem child?_targets {node child : Node} {name : String} (unlinked : node.targets = [])
    (stands : node.child? name = some child) : child.targets = [] := by
  cases node with
  | file bytes => simp [child?, entries] at stands
  | link target => simp [child?, entries] at stands
  | directory all =>
    have member := child?_mem stands
    simp only [entries, targets] at member unlinked
    clear stands
    -- The links of a directory are those of its entries, one after the other.
    induction all with
    | nil => simp at member
    | cons entry rest ih =>
      rcases entry with ⟨first, node⟩
      simp only [targetsOfEntries, List.append_eq_nil_iff] at unlinked
      rcases List.mem_cons.mp member with same | later
      · cases same
        exact unlinked.1
      · exact ih unlinked.2 later

/-- No way in a tree without links leads to one. -/
theorem at?_targets {node found : Node} {place : Place} (unlinked : node.targets = [])
    (located : node.at? place = some found) : found.targets = [] := by
  induction place generalizing node with
  | nil =>
    cases located
    exact unlinked
  | cons name rest ih =>
    simp only [at?, Option.bind_eq_some_iff] at located
    obtain ⟨child, stands, located⟩ := located
    -- Each step goes to an entry, and entries hold no links either.
    exact ih (child?_targets unlinked stands) located

/-- A tree without paths of links holds none. -/
theorem lacksLinks_of_targets {root : Node} (unlinked : root.targets = []) : root.LacksLinks := by
  intro place target stands
  simpa [targets] using at?_targets unlinked stands

end Node

namespace Disk

variable {root : Node} {lastLink : Bool} {onLink : Place → List String → Except DiskCause Found}
  {here : Place} {names : List String}

/-- Names of entries lead to what stands under them, unless one of them is too long. A link may not
come last, and there is nothing under one. -/
theorem followLinks_straight {links : Nat} {node child : Node}
    (plain : ∀ name ∈ names, name ≠ "." ∧ name ≠ "..") (stands : root.at? here = some node)
    (below : node.at? names = some child) (real : ∀ target, child ≠ .link target) :
    followLinks root lastLink links here names = .ok ⟨here ++ names, child⟩ ∨
      followLinks root lastLink links here names = .error .nameTooLong := by
  suffices general : ∀ onLink,
      followNames root lastLink onLink here names = .ok ⟨here ++ names, child⟩ ∨
        followNames root lastLink onLink here names = .error .nameTooLong by
    cases links <;> exact general _
  intro onLink
  induction names generalizing here node with
  | nil =>
    cases below
    left
    simp [followNames, stands]
  | cons name names ih =>
    obtain ⟨⟨noDot, noUp⟩, others⟩ := List.forall_mem_cons.mp plain
    simp only [Node.at?, Option.bind_eq_some_iff] at below
    obtain ⟨next, entry, below⟩ := below
    obtain ⟨entries, rfl⟩ := Node.eq_directory_of_child? entry
    have further := (Node.at?_snoc stands name).trans entry
    simp only [followNames, stands, beq_iff_eq, noDot, noUp, if_false, entry]
    split
    · exact .inr rfl
    · cases next with
      | link target =>
        -- The way cannot end here, and a link has no entries to go on with.
        cases names with
        | nil =>
          cases below
          exact absurd rfl (real target)
        | cons inner names => simp [Node.at?, Node.child?, Node.entries] at below
      | file bytes => simpa using ih others further below
      | directory more => simpa using ih others further below

section

variable (unlinked : root.LacksLinks)

include unlinked

/-- A longer way goes on where its beginning ends. -/
theorem followNames_append (here : Place) (first rest : List String) :
    followNames root lastLink onLink here (first ++ rest) =
      (followNames root lastLink onLink here first >>= fun found =>
        followNames root lastLink onLink found.place rest) := by
  -- Each name of the beginning ends the way or takes it one step further.
  induction first generalizing here with
  | nil =>
    simp only [List.nil_append, followNames]
    cases stands : root.at? here with
    | none => cases rest <;> simp [followNames, stands, Bind.bind, Except.bind]
    | some node => rfl
  | cons name names ih =>
    simp only [List.cons_append, followNames]
    split
    · rfl
    · rename_i entries stands
      split
      · exact ih here
      · split
        · exact ih here.dropLast
        · split
          · rfl
          · split
            · rfl
            · rename_i target child
              exact absurd ((Node.at?_snoc stands name).trans child) (unlinked _ target)
            · exact ih (here ++ [name])
    · rfl

/-- Names without dots lead straight down. -/
theorem followNames_place (plain : ∀ name ∈ names, name ≠ "." ∧ name ≠ "..") {found : Found}
    (followed : followNames root lastLink onLink here names = .ok found) :
    found.place = here ++ names := by
  -- No name goes back, and a tree without links never turns aside.
  induction names generalizing here with
  | nil =>
    simp only [followNames] at followed
    split at followed
    · cases followed
      simp
    · simp at followed
  | cons name names ih =>
    obtain ⟨⟨noDot, noUp⟩, others⟩ := List.forall_mem_cons.mp plain
    simp only [followNames, beq_iff_eq, noDot, noUp, if_false] at followed
    split at followed
    · simp at followed
    · rename_i entries stands
      split at followed
      · simp at followed
      · split at followed
        · simp at followed
        · rename_i target child
          exact absurd ((Node.at?_snoc stands name).trans child) (unlinked _ target)
        · simpa using ih others followed
    · simp at followed

/-- A longer way through links goes on where its beginning ends. -/
theorem followLinks_append (links : Nat) (here : Place) (first rest : List String) :
    followLinks root lastLink links here (first ++ rest) =
      (followLinks root lastLink links here first >>= fun found =>
        followLinks root lastLink links found.place rest) := by
  cases links <;> exact followNames_append unlinked here first rest

/-- Names without dots lead straight down, through links or not. -/
theorem followLinks_place {links : Nat} (plain : ∀ name ∈ names, name ≠ "." ∧ name ≠ "..")
    {found : Found} (followed : followLinks root lastLink links here names = .ok found) :
    found.place = here ++ names := by
  cases links <;> exact followNames_place unlinked plain followed

end

/-- Whether a location is too long to be asked for, by its text or by one of its names. -/
def Exceeds (disk : Disk) (l : Location) : Prop :=
  disk.find l = .error .nameTooLong

section

variable {disk : Disk} {l : Location} {found other : Found}
  (unlinked : disk.root.LacksLinks) (located : disk.find l = .ok found)
  (proper : ∀ name ∈ names, isEntryName name = true)

include unlinked located proper

/-- What lies below a location is looked for from the place of the location. -/
theorem find_below : disk.find (l.below names) =
    if (l.below names).text.utf8ByteSize > pathLimit then .error .nameTooLong
    else followLinks disk.root true linkLimit found.place names := by
  have followed := find_follows located
  -- The longer location lacks a NUL, as the shorter one does.
  have lacks : Char.ofNat 0 ∉ (l.below names).text.toList := by
    have outer : l.LacksNul := by
      rw [Location.lacksNul_iff]
      intro written
      simp [find, written] at located
    exact Location.lacksNul_iff.mp
      (outer.below fun name member => lacksNul_of_isEntryName (proper name member))
  have onward : followLinks disk.root true linkLimit
      (if (l.below names).root == "" then disk.working else []) (l.below names).segments =
      followLinks disk.root true linkLimit found.place names := by
    change followLinks disk.root true linkLimit (if l.root == "" then disk.working else [])
      (l.segments ++ names) = _
    rw [followLinks_append unlinked, followed]
    rfl
  simp only [find, List.contains_iff_mem, lacks, if_false, onward]

/-- What stands below a location can be found, unless its location is too long. -/
theorem find_below_of_at {child : Node} (stands : found.node.at? names = some child) :
    disk.find (l.below names) = .ok ⟨found.place ++ names, child⟩ ∨ disk.Exceeds (l.below names) := by
  -- Below a directory without links the walk is straight, unless the whole path is too long.
  rw [Exceeds, find_below unlinked located proper]
  split
  · exact Or.inr rfl
  · have below : disk.root.at? (found.place ++ names) = some child := by
      rw [Node.at?_append, find_at located]
      exact stands
    exact followLinks_straight (fun name member => noDots_of_isEntryName (proper name member))
      (find_at located) stands fun target same => unlinked _ target (same ▸ below)

/-- What is found below a location stands there. -/
theorem at_of_find_below (below : disk.find (l.below names) = .ok other) :
    found.node.at? names = some other.node := by
  have stands := find_at below
  rw [find_below unlinked located proper] at below
  split at below
  · cases below
  · -- The names add to the place, so the tree has the node under them.
    rw [followLinks_place unlinked
      (fun name member => noDots_of_isEntryName (proper name member)) below, Node.at?_append,
      find_at located] at stands
    exact stands

end

/-- Without links, only the dots on a way are resolved. -/
theorem resolveNames_unlinked (unlinked : root.LacksLinks) (openLinks : List Place)
    (next : List Place → Place → List String → Place × Bool) (here : Place) (names : List String) :
    resolveNames root openLinks next here names = (names.foldl plainNames.step here, true) := by
  -- Without links each name is kept, dropped or takes the last one back, as on plain names.
  induction names generalizing here with
  | nil => rfl
  | cons name names ih =>
    simp only [resolveNames, List.foldl_cons, plainNames.step]
    split
    · exact ih here
    · split
      · exact ih here.dropLast
      · split
        · rename_i target stands
          exact absurd stands (unlinked _ target)
        · exact ih (here ++ [name])

/-- Without links, only the dots on a way are resolved, however deep links may be nested. -/
theorem resolveLinks_unlinked (unlinked : root.LacksLinks) (depth : Nat) (openLinks : List Place)
    (here : Place) (names : List String) :
    resolveLinks root depth openLinks here names = (names.foldl plainNames.step here, true) := by
  cases depth <;> exact resolveNames_unlinked unlinked openLinks _ here names

/-- A way without dots is plain already. -/
theorem plainNames_eq_self {place : Place} (noDots : ∀ name ∈ place, name ≠ "." ∧ name ≠ "..") :
    plainNames place = place := by
  -- The invariant of the fold is that every name is added as it is.
  suffices general : ∀ before : Place, place.foldl plainNames.step before = before ++ place from
    general []
  induction place with
  | nil => simp
  | cons name rest ih =>
    obtain ⟨⟨noDot, noUp⟩, others⟩ := List.forall_mem_cons.mp noDots
    intro before
    have taken : plainNames.step before name = before ++ [name] := by
      simp [plainNames.step, noDot, noUp]
    rw [List.foldl_cons, taken, ih others, List.append_assoc, List.singleton_append]

/-- The place to work from has no dots. -/
theorem working_noDots {disk : Disk} (wellNamed : disk.isWellNamed = true) :
    ∀ name ∈ disk.working, name ≠ "." ∧ name ≠ ".." := by
  simp only [isWellNamed, Bool.and_eq_true, List.all_eq_true] at wellNamed
  exact fun name member => noDots_of_isEntryName (wellNamed.2 name member)

/-- Without links, no way leads through too many of them, and a directory on it is no fault. -/
theorem find_ne {disk : Disk} (unlinked : disk.root.LacksLinks) {cause : DiskCause}
    (foreign : cause = .tooManyLinks ∨ cause = .isDirectory) (l : Location) :
    disk.find l ≠ .error cause := by
  -- A walk over names fails for three causes only, and `cause` is none of them.
  have named : cause ≠ .notFound ∧ cause ≠ .notDirectory ∧ cause ≠ .nameTooLong := by
    rcases foreign with rfl | rfl <;> decide
  unfold find
  dsimp only
  split
  · rcases foreign with rfl | rfl <;> simp
  · split
    · simpa using named.2.2.symm
    · exact followNames_ne named (fun _ target stands => absurd stands (unlinked _ target)) _ _

/-- A relative location is resolved by its spelling, from the place to work from. -/
theorem resolve_relative {disk : Disk} (wellNamed : disk.isWellNamed = true)
    (unlinked : disk.root.LacksLinks) {l : Location} (relative : l.root = "") (lacks : l.LacksNul) :
    disk.resolve l = .ok (locationOf (plainNames (disk.working ++ l.segments))) := by
  have written : Char.ofNat 0 ∉ l.text.toList := Location.lacksNul_iff.mp lacks
  have place : disk.resolvePlace l = plainNames (disk.working ++ l.segments) := by
    have onward : l.segments.foldl plainNames.step disk.working =
        plainNames (disk.working ++ l.segments) := by
      have start := plainNames_eq_self (working_noDots wellNamed)
      unfold plainNames at start ⊢
      rw [List.foldl_append, start]
    simp only [resolvePlace, relative, resolveLinks_unlinked unlinked, beq_self_eq_true, if_true,
      onward]
    -- What has been made plain has no dots left.
    exact plainNames_eq_self (plainNames_noDots _)
  simp only [resolve, List.contains_iff_mem, written, if_false, place]
  split
  · rename_i looped
    exact absurd looped (find_ne unlinked (.inl rfl) _)
  · rfl

end Disk

end AutomationIndex
