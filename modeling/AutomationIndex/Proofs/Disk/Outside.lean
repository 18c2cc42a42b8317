import AutomationIndex.Proofs.Disk.Added
import AutomationIndex.Proofs.Disk.Reading
import AutomationIndex.Proofs.Disk.Rewritten
import AutomationIndex.Proofs.Project.Load
import AutomationIndex.Proofs.Scan.Complete

/-! Disks that differ in the files at some places: files that are added, taken away or written anew
there. A way that does not end at such a place comes to the same on both disks. -/

namespace AutomationIndex

namespace Node

/-- Whether nodes are the same to whoever does not list directories. -/
inductive Agrees : Node → Node → Prop where
  | file (bytes : List UInt8) : Agrees (file bytes) (file bytes)
  | directory (entries others : List (String × Node)) :
      Agrees (directory entries) (directory others)

/-- Nodes are the same in both directions. -/
theorem Agrees.symm {node other : Node} (agrees : node.Agrees other) : other.Agrees node := by
  cases agrees with
  | file bytes => exact file bytes
  | directory entries others => exact directory others entries

/-- What is there and no link is the same as itself. -/
theorem agrees_refl {stands : Option Node} (real : ∀ target, stands ≠ some (link target)) :
    Option.Rel Agrees stands stands := by
  -- Nodes that are no links agree with themselves, directories whatever they hold.
  cases stands with
  | none => exact .none
  | some node =>
    cases node with
    | file bytes => exact .some (.file bytes)
    | link target => exact absurd rfl (real target)
    | directory entries => exact .some (.directory entries entries)

/-- What is the same as a node is a node. -/
theorem exists_of_agrees {node : Node} {stands : Option Node}
    (agrees : Option.Rel Agrees (some node) stands) :
    ∃ again, stands = some again ∧ node.Agrees again := by
  cases agrees with
  | some agrees => exact ⟨_, rfl, agrees⟩

/-- Whether there is nothing but a file, if anything. -/
def IsFlat (stands : Option Node) : Prop :=
  ∀ node ∈ stands, ∃ bytes, node = file bytes

/-- Nothing is below a place with nothing but a file. -/
theorem IsFlat.at?_cons {stands : Option Node} (flat : IsFlat stands) (name : String) (place : Place) :
    (stands.bind fun node => node.at? (name :: place)) = none := by
  cases stands with
  | none => rfl
  | some node =>
    obtain ⟨bytes, rfl⟩ := flat node rfl
    rfl

/-- A way leads through what is put under its first name, and else past it. -/
theorem at?_put_cons (new root : Node) (name step : String) (place way : Place) :
    (put new (name :: place) root).at? (step :: way) =
      if step = name then (put new place ((root.child? name).getD (directory []))).at? way
      else root.at? (step :: way) := by
  have own : (directory root.entries).child? step = root.child? step := rfl
  -- Writing replaces one entry of the directory and keeps the others.
  simp only [put, at?, child?_setEntry]
  split
  · rfl
  · rw [own]

/-- Putting a file where nothing but a file is leaves the nodes at all other places the same. -/
theorem put_agrees {root : Node} (unlinked : root.LacksLinks) {before way : Place} {name : String}
    {entries : List (String × Node)} (stands : root.at? before = some (directory entries))
    (flat : IsFlat (root.at? (before ++ [name]))) (bytes : List UInt8)
    (other : way ≠ before ++ [name]) :
    Option.Rel Agrees (root.at? way) ((put (file bytes) (before ++ [name]) root).at? way) := by
  -- The induction follows the way to the file, which the other way leaves or goes beyond.
  induction before generalizing root way with
  | nil =>
    cases stands
    cases way with
    | nil => exact .some (.directory _ _)
    | cons step way =>
      rw [List.nil_append, at?_put_cons]
      split
      · rename_i same
        subst same
        cases way with
        | nil => exact absurd rfl other
        | cons next way =>
          -- Beyond a file there is nothing, before and after.
          have nothing := flat.at?_cons next way
          rw [← at?_append, List.nil_append, List.singleton_append] at nothing
          rw [nothing]
          exact .none
      · exact agrees_refl (unlinked _)
  | cons first rest ih =>
    simp only [at?, Option.bind_eq_some_iff] at stands
    obtain ⟨child, here, stands⟩ := stands
    obtain ⟨inner, rfl⟩ := eq_directory_of_child? here
    cases way with
    | nil => exact .some (.directory _ _)
    | cons step way =>
      rw [List.cons_append, at?_put_cons]
      split
      · rename_i same
        subst same
        have below (place : Place) : (directory inner).at? (step :: place) = child.at? place := by
          simp only [at?, here, Option.bind_some]
        rw [here, Option.getD_some, below]
        refine ih (fun place target => below place ▸ unlinked (step :: place) target) stands ?_ ?_
        · rwa [List.cons_append, below] at flat
        · rintro rfl
          exact other rfl
      · exact agrees_refl (unlinked _)

end Node

namespace Disk

/-- Whether disks without links differ at most in the files at some places. -/
structure SameOutside (spots : Place → Prop) (disk other : Disk) : Prop where
  working_eq : other.working = disk.working
  wellNamed : disk.isWellNamed = true
  other_wellNamed : other.isWellNamed = true
  nodes : ∀ place, Option.Rel Node.Agrees (disk.root.at? place) (other.root.at? place) ∨
    spots place ∧ Node.IsFlat (disk.root.at? place) ∧ Node.IsFlat (other.root.at? place)

/-- On a disk without links, a short name in a directory leads to the entry, be there one or not. -/
theorem followNames_entry {root : Node} (unlinked : root.LacksLinks) {lastLink : Bool}
    {onLink : Place → List String → Except DiskCause Found} {here : Place}
    {entries : List (String × Node)} (stands : root.at? here = some (.directory entries))
    {name : String} (noDot : name ≠ ".") (noUp : name ≠ "..")
    (short : ¬ name.utf8ByteSize > nameLimit) (names : List String) :
    followNames root lastLink onLink here (name :: names) =
      followNames root lastLink onLink (here ++ [name]) names := by
  have below := Node.at?_snoc stands name
  rw [followNames, stands]
  simp only [beq_iff_eq, noDot, noUp, short, if_false]
  cases entry : (Node.directory entries).child? name with
  | none =>
    -- Whatever names are left, the way ends where nothing stands.
    rw [entry] at below
    cases names <;> simp [followNames, below]
  | some child =>
    cases child with
    | file bytes => rfl
    | link target => exact absurd (below.trans entry) (unlinked _ target)
    | directory inner => rfl

/-- What a directory holds under a name has the name of an entry. -/
theorem Holds.name_mem {disk : Disk} {l : Location} {name : String} {node : Node}
    (holds : disk.Holds l [name] node) {place : Place} {entries : List (String × Node)}
    (located : disk.find l = .ok ⟨place, .directory entries⟩) : name ∈ entries.map (·.1) := by
  -- What holds the name was found in the listing of the directory.
  obtain ⟨found, again, stands⟩ := holds
  rw [located] at again
  cases again
  simp only [Node.at?, Option.bind_eq_some_iff] at stands
  obtain ⟨child, entry, -⟩ := stands
  exact List.mem_map.mpr ⟨_, Node.child?_mem entry, rfl⟩

namespace SameOutside

variable {spots more : Place → Prop} {disk other : Disk} {l : Location}

/-- Disks differ at places in both directions. -/
theorem symm (same : SameOutside spots disk other) : SameOutside spots other disk := by
  refine ⟨same.working_eq.symm, same.other_wellNamed, same.wellNamed, fun place => ?_⟩
  -- Agreement is turned round node by node, and a spot is flat on both disks.
  rcases same.nodes place with agrees | ⟨spot, flat, flatOther⟩
  · left
    revert agrees
    generalize disk.root.at? place = first
    generalize other.root.at? place = second
    rintro (agrees | _)
    · exact .some agrees.symm
    · exact .none
  · exact .inr ⟨spot, flatOther, flat⟩

/-- Disks that differ at some places only differ at no places but more. -/
theorem mono (same : SameOutside spots disk other) (among : ∀ place, spots place → more place) :
    SameOutside more disk other :=
  ⟨same.working_eq, same.wellNamed, same.other_wellNamed, fun place =>
    (same.nodes place).imp_right fun ⟨spot, flats⟩ => ⟨among place spot, flats⟩⟩

/-- Neither disk has a link. -/
theorem unlinked (same : SameOutside spots disk other) : disk.root.LacksLinks := by
  intro place target stands
  -- A link would agree with a link only, and at a spot there is at most a file.
  rcases same.nodes place with agrees | ⟨-, flat, -⟩
  · rw [stands] at agrees
    obtain ⟨again, -, agrees⟩ := Node.exists_of_agrees agrees
    cases agrees
  · obtain ⟨bytes, same⟩ := flat _ stands
    cases same

/-- Whether a way leads to nothing, or to a file at one of some places. -/
inductive EndsAside (spots : Place → Prop) : Except DiskCause Found → Prop where
  | failed {cause : DiskCause} (short : cause ≠ .nameTooLong) : EndsAside spots (.error cause)
  | file {place : Place} (spot : spots place) (bytes : List UInt8) :
      EndsAside spots (.ok ⟨place, .file bytes⟩)

/-- What a way comes to on two disks: to the same place, to a name that is too long, or aside. -/
inductive LeadsOutside (spots : Place → Prop) :
    Except DiskCause Found → Except DiskCause Found → Prop where
  | found {place : Place} {node again : Node} (agrees : node.Agrees again) :
      LeadsOutside spots (.ok ⟨place, node⟩) (.ok ⟨place, again⟩)
  | exceeds : LeadsOutside spots (.error .nameTooLong) (.error .nameTooLong)
  | aside {first second : Except DiskCause Found} (here : EndsAside spots first)
      (there : EndsAside spots second) : LeadsOutside spots first second

/-- Ways that fail for reasons other than length lead aside. -/
theorem LeadsOutside.failed {cause reason : DiskCause} (short : cause ≠ .nameTooLong)
    (brief : reason ≠ .nameTooLong) : LeadsOutside spots (.error cause) (.error reason) :=
  .aside (.failed short) (.failed brief)

/-- Names lead aside from a place with nothing but a file. -/
theorem endsAside_of_flat {root : Node} {lastLink : Bool}
    {onLink : Place → List String → Except DiskCause Found} {here : Place} (spot : spots here)
    (flat : Node.IsFlat (root.at? here)) (names : List String) :
    EndsAside spots (followNames root lastLink onLink here names) := by
  -- At a spot stands nothing or a file, and the walk ends there or fails to go on.
  cases stands : root.at? here with
  | none => cases names <;> simp only [followNames, stands] <;> exact .failed (by decide)
  | some node =>
    obtain ⟨bytes, rfl⟩ := flat node stands
    cases names with
    | nil =>
      simp only [followNames, stands]
      exact .file spot bytes
    | cons name names =>
      simp only [followNames, stands]
      exact .failed (by decide)

/-- Following names comes to the same place, or aside. -/
theorem followNames_outside (same : SameOutside spots disk other) (lastLink : Bool)
    (onLink onOther : Place → List String → Except DiskCause Found) (here : Place)
    (names : List String) :
    LeadsOutside spots (followNames disk.root lastLink onLink here names)
      (followNames other.root lastLink onOther here names) := by
  -- The induction follows the names; both ways stay at one place until they turn aside.
  induction names generalizing here with
  | nil =>
    rcases same.nodes here with agrees | ⟨spot, flat, flatOther⟩
    · simp only [followNames]
      cases stands : disk.root.at? here <;> cases remains : other.root.at? here <;>
        rw [stands, remains] at agrees <;> cases agrees
      · exact .failed (by decide) (by decide)
      · exact .found ‹_›
    · exact .aside (endsAside_of_flat spot flat _) (endsAside_of_flat spot flatOther _)
  | cons name names ih =>
    rcases same.nodes here with agrees | ⟨spot, flat, flatOther⟩
    · cases stands : disk.root.at? here <;> cases remains : other.root.at? here <;>
        rw [stands, remains] at agrees <;> cases agrees
      · simp only [followNames, stands, remains]
        exact .failed (by decide) (by decide)
      · rename_i agrees
        cases agrees with
        | file bytes =>
          simp only [followNames, stands, remains]
          exact .failed (by decide) (by decide)
        | directory entries others =>
          by_cases dot : name = "."
          · simpa only [followNames, stands, remains, dot, beq_self_eq_true, if_true] using ih here
          by_cases up : name = ".."
          · simpa [followNames, stands, remains, up] using ih here.dropLast
          by_cases long : name.utf8ByteSize > nameLimit
          · simpa [followNames, stands, remains, dot, up, long] using LeadsOutside.exceeds
          · rw [followNames_entry same.unlinked stands dot up long,
              followNames_entry same.symm.unlinked remains dot up long]
            exact ih (here ++ [name])
    · exact .aside (endsAside_of_flat spot flat _) (endsAside_of_flat spot flatOther _)

/-- A location comes to the same place, or aside. -/
theorem find_outside (same : SameOutside spots disk other) (l : Location) :
    LeadsOutside spots (disk.find l) (other.find l) := by
  simp only [find, same.working_eq]
  split
  -- A location that is refused for its text or length is refused on both disks.
  · exact .failed (by decide) (by decide)
  · split
    · exact .exceeds
    · exact same.followNames_outside _ _ _ _ _

/-- The same locations are too long. -/
theorem exceeds_iff (same : SameOutside spots disk other) : other.Exceeds l ↔ disk.Exceeds l := by
  have leads := same.find_outside l
  unfold Exceeds
  revert leads
  generalize disk.find l = first
  generalize other.find l = second
  rintro (agrees | _ | ⟨here, there⟩)
  · simp
  · simp
  · -- What leads aside is nowhere too long.
    cases here <;> cases there <;> simp_all

/-- A location that leads to none of the places leads to the same on the other disk. -/
theorem find_agrees (same : SameOutside spots disk other) {place : Place} {node : Node}
    (located : disk.find l = .ok ⟨place, node⟩) (outside : ¬ spots place) :
    ∃ again, other.find l = .ok ⟨place, again⟩ ∧ node.Agrees again := by
  have leads := same.find_outside l
  rw [located] at leads
  -- Outside the spots, of the three ways the walks compare only the agreeing one is left.
  revert leads
  generalize other.find l = second
  rintro (agrees | _ | ⟨here, -⟩)
  · exact ⟨_, rfl, agrees⟩
  · cases here with
    | file spot bytes => exact absurd spot outside

/-- A location that leads to a directory leads to one on the other disk, in the same place. -/
theorem find_directory (same : SameOutside spots disk other) {place : Place}
    {entries : List (String × Node)} (located : disk.find l = .ok ⟨place, .directory entries⟩) :
    ∃ others, other.find l = .ok ⟨place, .directory others⟩ := by
  have leads := same.find_outside l
  rw [located] at leads
  -- At a spot there would be no directory, so the walks agree here too.
  revert leads
  generalize other.find l = second
  rintro (agrees | _ | ⟨here, -⟩)
  · cases agrees with
    | directory _ others => exact ⟨others, rfl⟩
  · cases here

/-- A file that is found at none of the places is found on the other disk, with what it holds. -/
theorem find_file (same : SameOutside spots disk other) {place : Place} {bytes : List UInt8}
    (located : disk.find l = .ok ⟨place, .file bytes⟩) (outside : ¬ spots place) :
    other.find l = .ok ⟨place, .file bytes⟩ := by
  obtain ⟨again, relocated, agrees⟩ := same.find_agrees located outside
  cases agrees
  exact relocated

/-- What a directory holds under a name it holds on the other disk too, unless it is a file at one of
the places. -/
theorem holds_agrees (same : SameOutside spots disk other) {name : String} {node : Node}
    (holds : disk.Holds l [name] node)
    (outside : ∀ found, disk.find l = .ok found → spots (found.place ++ [name]) →
      ¬ Node.IsFlat (some node)) :
    ∃ again, other.Holds l [name] again ∧ node.Agrees again := by
  obtain ⟨⟨place, top⟩, located, entry⟩ := holds
  have single (top : Node) : top.at? [name] = top.child? name := by simp [Node.at?]
  rw [single] at entry
  obtain ⟨entries, rfl⟩ := Node.eq_directory_of_child? entry
  obtain ⟨others, relocated⟩ := same.find_directory located
  -- The entry has a place of its own, and the tree of the other disk tells what stands there.
  have stands := (Node.at?_snoc (find_at located) name).trans entry
  have remains := Node.at?_snoc (find_at relocated) name
  rcases same.nodes (place ++ [name]) with agrees | ⟨spot, flat, -⟩
  · rw [stands, remains] at agrees
    obtain ⟨again, entered, agrees⟩ := Node.exists_of_agrees agrees
    exact ⟨again, ⟨_, relocated, (single _).trans entered⟩, agrees⟩
  · rw [stands] at flat
    exact absurd flat (outside _ located spot)

/-- A directory in a directory is one on the other disk. -/
theorem holds_directory (same : SameOutside spots disk other) {name : String}
    {entries : List (String × Node)} (holds : disk.Holds l [name] (.directory entries)) :
    ∃ others, other.Holds l [name] (.directory others) := by
  -- A directory is not flat, so its place is no spot.
  have notFlat : ¬ Node.IsFlat (some (.directory entries)) := by
    intro flat
    obtain ⟨bytes, same⟩ := flat _ rfl
    cases same
  obtain ⟨again, reholds, agrees⟩ := same.holds_agrees holds fun _ _ _ => notFlat
  cases agrees with
  | directory _ others => exact ⟨others, reholds⟩

/-- What loads from a file at none of the places loads from the other disk. -/
theorem load_some (same : SameOutside spots disk other) {α : Type} {kind : String} {a : α}
    {read : Location → Xml.Source → Except ContentFault α}
    (passed : ∀ place, spots place → disk.reaches place l = false)
    (loaded : (disk.load kind l read).result = .ok (some a)) :
    (other.load kind l read).result = .ok (some a) := by
  -- A file is read by its bytes alone, so it is enough to find it again.
  obtain ⟨content, told, reading⟩ := load_some_iff.mp loaded
  obtain ⟨place, bytes, located, decoded⟩ := readText_ok_iff.mp told
  have outside : ¬ spots place := by
    intro spot
    simpa [reaches, located] using passed place spot
  have relocated := same.find_file located outside
  exact load_some_iff.mpr ⟨content, readText_ok_iff.mpr ⟨place, bytes, relocated, decoded⟩, reading⟩

end SameOutside

/-- Putting a file where nothing but a file is changes the disk at this place only. -/
theorem putAt_sameOutside {disk : Disk} (wellNamed : disk.isWellNamed = true)
    (unlinked : disk.root.LacksLinks) {before : Place} {name : String}
    (named : ∀ step ∈ before ++ [name], isEntryName step = true) {entries : List (String × Node)}
    (stands : disk.root.at? before = some (.directory entries))
    (flat : Node.IsFlat (disk.root.at? (before ++ [name]))) (bytes : List UInt8) :
    SameOutside (· = before ++ [name]) disk (disk.putAt (before ++ [name]) (.file bytes)) := by
  refine ⟨rfl, wellNamed, putAt_isWellNamed wellNamed named bytes, fun way => ?_⟩
  -- At the place itself there is a file afterwards, and everywhere else the same as before.
  by_cases spot : way = before ++ [name]
  · subst spot
    refine .inr ⟨rfl, flat, ?_⟩
    rintro node put
    cases (Node.at?_put _ _ _).symm.trans put
    exact ⟨bytes, rfl⟩
  · exact .inl (Node.put_agrees unlinked stands flat bytes spot)

end Disk

end AutomationIndex
