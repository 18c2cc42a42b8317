import AutomationIndex.Proofs.Disk.Unlinked
import Mathlib.Data.List.Perm.Subperm

/-! Where a location leads is what it resolves to: following names, link by link, and replacing each
link by what it stands for end at one place. -/

namespace AutomationIndex

namespace Node

mutual

/-- The places of the links at and below a node. -/
def linkPlaces : Node → List Place
  | file _ => []
  | link _ => [[]]
  | directory entries => linkPlacesOfEntries entries

/-- The places of the links in entries. -/
def linkPlacesOfEntries : List (String × Node) → List Place
  | [] => []
  | (name, node) :: entries => (linkPlaces node).map (name :: ·) ++ linkPlacesOfEntries entries

end

mutual

/-- There are as many places of links as links. -/
theorem linkPlaces_length : ∀ node : Node, node.linkPlaces.length = node.targets.length
  | file _ => rfl
  | link _ => rfl
  | directory entries => linkPlacesOfEntries_length entries

/-- There are as many places of links in entries as links. -/
theorem linkPlacesOfEntries_length : ∀ entries : List (String × Node),
    (linkPlacesOfEntries entries).length = (targetsOfEntries entries).length
  | [] => rfl
  | (name, node) :: entries => by
    rw [linkPlacesOfEntries, targetsOfEntries, List.length_append, List.length_append,
      List.length_map, linkPlaces_length node, linkPlacesOfEntries_length entries]

end

/-- The links of an entry are links of its directory, below its name. -/
theorem mem_linkPlacesOfEntries {entries : List (String × Node)} {name : String} {node : Node}
    (member : (name, node) ∈ entries) {place : Place} (within : place ∈ node.linkPlaces) :
    name :: place ∈ linkPlacesOfEntries entries := by
  induction entries with
  | nil => cases member
  | cons entry rest ih =>
    rcases entry with ⟨first, other⟩
    rw [linkPlacesOfEntries, List.mem_append]
    rcases List.mem_cons.mp member with same | later
    · cases same
      exact .inl (List.mem_map_of_mem within)
    · exact .inr (ih later)

/-- Every link stands at one of the places of links. -/
theorem mem_linkPlaces {root : Node} {place : Place} {target : String}
    (stands : root.at? place = some (link target)) : place ∈ root.linkPlaces := by
  induction place generalizing root with
  | nil =>
    cases stands
    exact List.mem_singleton_self _
  | cons name rest ih =>
    -- A node with a child is a directory, and the link lies in that child.
    simp only [at?, Option.bind_eq_some_iff] at stands
    obtain ⟨child, here, stands⟩ := stands
    obtain ⟨entries, rfl⟩ := eq_directory_of_child? here
    exact mem_linkPlacesOfEntries (child?_mem here) (ih stands)

/-- The way to a node of a well-named tree has names of entries only. -/
theorem at?_names {root node : Node} {place : Place} (wellNamed : root.isWellNamed = true)
    (stands : root.at? place = some node) : ∀ name ∈ place, isEntryName name = true := by
  induction place generalizing root with
  | nil => simp
  -- Each name on the way is the name of an entry of a well-named directory.
  | cons name rest ih =>
    simp only [at?, Option.bind_eq_some_iff] at stands
    obtain ⟨child, here, stands⟩ := stands
    obtain ⟨entries, rfl⟩ := eq_directory_of_child? here
    have entry := (isWellNamed_directory_iff.mp wellNamed).2 _ (child?_mem here)
    exact List.forall_mem_cons.mpr ⟨entry.1, ih entry.2 stands⟩

/-- Different places of links are no more than there are links. -/
theorem length_le_links {root : Node} {places : List Place} (distinct : places.Nodup)
    (linked : ∀ place ∈ places, ∃ target, root.at? place = some (link target)) :
    places.length ≤ root.links := by
  -- Distinct links are a sublist of all the links of the tree, up to their order.
  have among : places ⊆ root.linkPlaces := by
    intro place member
    obtain ⟨target, stands⟩ := linked place member
    exact mem_linkPlaces stands
  rw [links, ← linkPlaces_length]
  exact (List.subperm_of_subset distinct among).length_le

end Node

namespace Disk

/-- Whether names lead from a place to a place, each link by the names that it stands for; and how
many names that takes in all. -/
inductive Leads (root : Node) : Nat → Place → List String → Place → Prop where
  | here (here : Place) : Leads root 0 here [] here
  | dot {count : Nat} {here place : Place} {name : String} {names : List String} (isDot : name = ".")
      (onward : Leads root count here names place) : Leads root (count + 1) here (name :: names) place
  | up {count : Nat} {here place : Place} {name : String} {names : List String} (isUp : name = "..")
      (onward : Leads root count here.dropLast names place) :
      Leads root (count + 1) here (name :: names) place
  | entry {count : Nat} {here place : Place} {name : String} {names : List String}
      (noDots : name ≠ "." ∧ name ≠ "..")
      (real : ∀ target, root.at? (here ++ [name]) ≠ some (.link target))
      (onward : Leads root count (here ++ [name]) names place) :
      Leads root (count + 1) here (name :: names) place
  | link {inner outer : Nat} {here between place : Place} {name target : String}
      {names : List String} (noDots : name ≠ "." ∧ name ≠ "..")
      (stands : root.at? (here ++ [name]) = some (.link target))
      (through : Leads root inner (targetStart here target) (targetNames target) between)
      (onward : Leads root outer between names place) :
      Leads root (inner + outer + 1) here (name :: names) place

namespace Leads

variable {root : Node} {count other : Nat} {here place another : Place} {names first rest : List String}

/-- Names lead to one place, and in one way. -/
theorem unique (leads : Leads root count here names place)
    (again : Leads root other here names another) : count = other ∧ place = another := by
  -- The first name decides how each of the two goes on.
  induction leads generalizing other another with
  | here here =>
    cases again
    exact ⟨rfl, rfl⟩
  | dot isDot onward ih =>
    cases again with
    | dot _ onward' =>
      obtain ⟨rfl, rfl⟩ := ih onward'
      exact ⟨rfl, rfl⟩
    | up isUp => exact absurd (isDot.symm.trans isUp) (by decide)
    | entry noDots => exact absurd isDot noDots.1
    | link noDots => exact absurd isDot noDots.1
  | up isUp onward ih =>
    cases again with
    | dot isDot => exact absurd (isDot.symm.trans isUp) (by decide)
    | up _ onward' =>
      obtain ⟨rfl, rfl⟩ := ih onward'
      exact ⟨rfl, rfl⟩
    | entry noDots => exact absurd isUp noDots.2
    | link noDots => exact absurd isUp noDots.2
  | entry noDots real onward ih =>
    cases again with
    | dot isDot => exact absurd isDot noDots.1
    | up isUp => exact absurd isUp noDots.2
    | entry _ _ onward' =>
      obtain ⟨rfl, rfl⟩ := ih onward'
      exact ⟨rfl, rfl⟩
    | link _ stands => exact absurd stands (real _)
  | link noDots stands through onward inner outer =>
    cases again with
    | dot isDot => exact absurd isDot noDots.1
    | up isUp => exact absurd isUp noDots.2
    | entry _ real => exact absurd stands (real _)
    | link _ stands' through' onward' =>
      -- The link stands for one path only.
      cases stands.symm.trans stands'
      obtain ⟨rfl, rfl⟩ := inner through'
      obtain ⟨rfl, rfl⟩ := outer onward'
      exact ⟨rfl, rfl⟩

/-- A longer way passes the place where its beginning leads. -/
theorem split (leads : Leads root count here (first ++ rest) place) :
    ∃ between inner outer, Leads root inner here first between ∧
      Leads root outer between rest place ∧ count = inner + outer := by
  -- The names of a link are followed to their end before those that come after it.
  induction first generalizing here count with
  | nil => exact ⟨here, 0, count, .here here, leads, by omega⟩
  | cons name names ih =>
    cases leads with
    | dot isDot onward =>
      obtain ⟨between, inner, outer, before, after, rfl⟩ := ih onward
      exact ⟨between, inner + 1, outer, .dot isDot before, after, by omega⟩
    | up isUp onward =>
      obtain ⟨between, inner, outer, before, after, rfl⟩ := ih onward
      exact ⟨between, inner + 1, outer, .up isUp before, after, by omega⟩
    | entry noDots real onward =>
      obtain ⟨between, inner, outer, before, after, rfl⟩ := ih onward
      exact ⟨between, inner + 1, outer, .entry noDots real before, after, by omega⟩
    | link noDots stands through onward =>
      obtain ⟨between, inner, outer, before, after, rfl⟩ := ih onward
      exact ⟨between, _, outer, .link noDots stands through before, after, by omega⟩

end Leads

variable {root : Node} {here : Place} {names : List String} {found : Found}
  {onLink : Place → List String → Except DiskCause Found} {links : Nat}

/-- Names that are followed lead where they end, if what follows a link does. -/
theorem leads_of_followNames
    (linked : ∀ here names found, onLink here names = .ok found →
      ∃ count, Leads root count here names found.place)
    (followed : followNames root true onLink here names = .ok found) :
    ∃ count, Leads root count here names found.place := by
  -- The induction follows the names that are left; only a link leaves them to what follows it.
  induction names generalizing here with
  | nil =>
    simp only [followNames] at followed
    split at followed
    · cases followed
      exact ⟨0, .here here⟩
    · cases followed
  | cons name names ih =>
    obtain ⟨entries, -, ⟨dot, followed⟩ | ⟨up, followed⟩ | ⟨noDots, -, onward⟩⟩ :=
      followNames_cons_ok_iff.mp followed
    · obtain ⟨count, onward⟩ := ih followed
      exact ⟨count + 1, .dot dot onward⟩
    · obtain ⟨count, onward⟩ := ih followed
      exact ⟨count + 1, .up up onward⟩
    · obtain ⟨target, stands, followed⟩ | ⟨node, stands, noLink, followed⟩ := onward
      · -- The names of the link come before those that are left.
        obtain ⟨count, whole⟩ := linked _ _ _ followed
        obtain ⟨between, inner, outer, through, onward, -⟩ := whole.split
        exact ⟨_, .link noDots stands through onward⟩
      · obtain ⟨count, onward⟩ := ih followed
        refine ⟨count + 1, .entry noDots (fun target link => ?_) onward⟩
        exact noLink target (Option.some.inj (stands.symm.trans link))

/-- A way that is followed leads where it ends. -/
theorem leads_of_followLinks (followed : followLinks root true links here names = .ok found) :
    ∃ count, Leads root count here names found.place := by
  -- The induction is on the links left, and a walk over names is the lemma for both levels.
  induction links generalizing here names found with
  | zero =>
    rw [followLinks] at followed
    exact leads_of_followNames (fun _ _ _ none => by cases none) followed
  | succ links ih =>
    rw [followLinks] at followed
    exact leads_of_followNames (fun _ _ _ onward => ih onward) followed

/-- Whether following any of some links takes at least so many names. -/
def TakesAtLeast (root : Node) (openLinks : List Place) (count : Nat) : Prop :=
  ∀ next ∈ openLinks, ∀ target, root.at? next = some (.link target) →
    ∀ inner place, Leads root inner (targetStart next.dropLast target) (targetNames target) place →
      count ≤ inner

/-- What takes at least so many names takes at least fewer. -/
theorem TakesAtLeast.mono {openLinks : List Place} {count fewer : Nat}
    (takes : TakesAtLeast root openLinks count) (less : fewer ≤ count) :
    TakesAtLeast root openLinks fewer :=
  fun next member target stands inner place leads =>
    Nat.le_trans less (takes next member target stands inner place leads)

variable {openLinks : List Place} {count : Nat} {place : Place}
  {onOpen : List Place → Place → List String → Place × Bool}

/-- Where names lead, replacing their links leads, while the links that stand open all take longer: a
link that led back to itself would take longer than itself. -/
theorem resolveNames_of_leads (leads : Leads root count here names place)
    (takes : TakesAtLeast root openLinks count)
    (opened : ∀ next target inner between, next ∉ openLinks →
      root.at? next = some (.link target) → TakesAtLeast root (next :: openLinks) inner →
        Leads root inner (targetStart next.dropLast target) (targetNames target) between →
          onOpen (next :: openLinks) (targetStart next.dropLast target) (targetNames target) =
            (between, true)) :
    resolveNames root openLinks onOpen here names = (place, true) := by
  induction leads with
  | here here => rfl
  | dot isDot onward ih =>
    subst isDot
    exact ih (takes.mono (Nat.le_succ _))
  | up isUp onward ih =>
    subst isUp
    exact ih (takes.mono (Nat.le_succ _))
  | @entry count here place name names noDots real onward ih =>
    have further := ih (takes.mono (Nat.le_succ _))
    simp only [resolveNames, beq_iff_eq, noDots.1, noDots.2, if_false]
    exact further
  | @link inner outer here between place name target names noDots stands through onward _ ih =>
    have further := ih (takes.mono (by omega))
    have before : (here ++ [name]).dropLast = here := List.dropLast_concat
    -- An open link takes at least as many names as are followed here, and this one takes fewer.
    have closed : here ++ [name] ∉ openLinks := by
      intro member
      have long := takes _ member target stands inner between (before.symm ▸ through)
      omega
    -- Inside, the link itself takes as many names as are followed, and the others took more before.
    have inside : TakesAtLeast root ((here ++ [name]) :: openLinks) inner := by
      intro next member other stands' size place' leads
      rcases List.mem_cons.mp member with rfl | member
      · cases stands.symm.trans stands'
        rw [before] at leads
        exact Nat.le_of_eq (through.unique leads).1
      · have long := takes next member other stands' size place' leads
        omega
    have entered := opened _ target inner between closed stands inside (before.symm ▸ through)
    rw [before] at entered
    simp only [resolveNames, beq_iff_eq, noDots.1, noDots.2, if_false, stands, entered,
      List.contains_iff_mem, closed, further]

/-- Where names lead, replacing their links leads, if links may be nested as deep as there are any. -/
theorem resolveLinks_of_leads {depth : Nat} (leads : Leads root count here names place)
    (takes : TakesAtLeast root openLinks count) (distinct : openLinks.Nodup)
    (linked : ∀ next ∈ openLinks, ∃ target, root.at? next = some (.link target))
    (enough : root.links < depth + openLinks.length) :
    resolveLinks root depth openLinks here names = (place, true) := by
  induction depth generalizing openLinks count here names place with
  | zero =>
    -- More links than there are cannot stand open.
    have bounded := Node.length_le_links distinct linked
    omega
  | succ depth ih =>
    rw [resolveLinks]
    refine resolveNames_of_leads leads takes fun next target inner between closed stands inside
      through => ih through inside (List.nodup_cons.mpr ⟨closed, distinct⟩) ?_ ?_
    · intro other member
      rcases List.mem_cons.mp member with rfl | member
      · exact ⟨target, stands⟩
      · exact linked other member
    · rw [List.length_cons]
      omega

variable {disk : Disk} {l : Location}

/-- The place where a location leads has names of entries only. -/
theorem find_names (wellNamed : disk.isWellNamed = true) (located : disk.find l = .ok found) :
    ∀ name ∈ found.place, isEntryName name = true := by
  simp only [isWellNamed, Bool.and_eq_true] at wellNamed
  exact Node.at?_names wellNamed.1 (find_at located)

/-- A location that leads somewhere stands for the place where it leads. -/
theorem resolvePlace_of_find (wellNamed : disk.isWellNamed = true)
    (located : disk.find l = .ok found) : disk.resolvePlace l = found.place := by
  obtain ⟨count, leads⟩ := leads_of_followLinks (find_follows located)
  -- No link stands open at the start.
  have resolved : resolveLinks disk.root (disk.root.links + 1) []
      (if l.root == "" then disk.working else []) l.segments = (found.place, true) :=
    resolveLinks_of_leads leads (fun _ none => by cases none) List.nodup_nil
      (fun _ none => by cases none) (by simp)
  rw [resolvePlace, resolved]
  exact plainNames_eq_self fun name member =>
    noDots_of_isEntryName (find_names wellNamed located name member)

/-- A location that leads to a directory resolves to the place of the directory. -/
theorem resolve_of_find (wellNamed : disk.isWellNamed = true) {entries : List (String × Node)}
    (located : disk.find l = .ok ⟨place, .directory entries⟩) :
    disk.resolve l = .ok (locationOf place) := by
  have lacks : ¬ l.text.toList.contains (Char.ofNat 0) = true := by
    intro written
    simp only [find, written, if_true, reduceCtorEq] at located
  have names := find_names wellNamed located
  -- The place itself is found without links, or is too long to be asked for.
  have straight : disk.find (locationOf place) ≠ .error .tooManyLinks := by
    have followed :
        followLinks disk.root true linkLimit [] place = .ok ⟨[] ++ place, .directory entries⟩ ∨
          followLinks disk.root true linkLimit [] place = .error .nameTooLong :=
      followLinks_straight (fun name member => noDots_of_isEntryName (names name member)) rfl
        (find_at located) (fun target same => by cases same)
    intro failed
    unfold find at failed
    dsimp only at failed
    split at failed
    · cases failed
    · split at failed
      · cases failed
      · change followLinks disk.root true linkLimit [] place = _ at failed
        rw [failed] at followed
        obtain same | same := followed <;> cases same
  rw [resolve, if_neg lacks, resolvePlace_of_find wellNamed located]
  dsimp only
  split
  · rename_i failed
    exact absurd failed straight
  · rfl

end Disk

end AutomationIndex
