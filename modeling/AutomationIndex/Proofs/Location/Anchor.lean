import AutomationIndex.Proofs.Location.Joined
import AutomationIndex.Proofs.Text.Marks

/-! Windows anchors: which drives and roots are split off a path, and which of them are split off
again when they are written by themselves. -/

namespace AutomationIndex.Location

/-- The mark of an extended path. -/
def extendedMark : List Char :=
  ['\\', '\\', '?', '\\']

/-- The mark of an extended path to a machine. -/
def networkMark : List Char :=
  extendedMark ++ ['U', 'N', 'C']

/-- The name of a machine or of one of its shares, which may be missing. -/
def IsShareName (name : List Char) : Prop :=
  ∀ c ∈ name, c ≠ '/' ∧ c ≠ '\\'

/-- Drives and roots as they are split off a windows path. -/
inductive IsAnchor : List Char → List Char → Prop where
  /-- No drive, or an extended one without letter. -/
  | plain {mark root : List Char} (marked : mark = [] ∨ mark = extendedMark)
      (rooted : root = [] ∨ root = ['\\']) : IsAnchor mark root
  /-- A drive with a letter. -/
  | letter {mark root : List Char} {letter : Char} (marked : mark = [] ∨ mark = extendedMark)
      (alphabetic : letter.isAlpha = true) (rooted : root = [] ∨ root = ['\\']) :
      IsAnchor (mark ++ [letter, ':']) root
  /-- The mark of a machine that is not named. -/
  | network : IsAnchor networkMark ['\\']
  /-- A share of a machine. -/
  | share {opening machine name : List Char}
      (opens : opening = ['\\', '\\'] ∧ machine ≠ ['?'] ∨ opening = extendedMark ++ ['\\'] ∨
        opening = networkMark ++ ['\\'])
      (some : machine ≠ []) (apart : IsShareName machine) (shared : IsShareName name) :
      IsAnchor (opening ++ (machine ++ '\\' :: name)) ['\\']

/-- What comes before the next backslash is a name where there are no slashes. -/
theorem isShareName_takeWhile {chars : List Char} (noSlash : '/' ∉ chars) :
    IsShareName (chars.takeWhile (· != '\\')) := by
  intro c member
  refine ⟨?_, by simpa using List.mem_takeWhile_imp member⟩
  rintro rfl
  exact noSlash ((List.takeWhile_sublist _).subset member)

/-- What is split into a share and a rest names a machine and its share. -/
theorem splitShare_eq_some {part share rest : List Char} (noSlash : '/' ∉ part)
    (split : splitShare part = some (share, rest)) : ∃ machine name more,
    part = '\\' :: '\\' :: (machine ++ '\\' :: (name ++ more)) ∧
      share = '\\' :: '\\' :: (machine ++ '\\' :: name) ∧ rest ⊆ more ∧
        machine ≠ [] ∧ IsShareName machine ∧ IsShareName name := by
  have divided : ∀ chars : List Char, chars = chars.takeWhile (· != '\\') ++
      chars.drop (chars.takeWhile (· != '\\')).length :=
    fun chars => (List.prefix_iff_eq_append.mp (List.takeWhile_prefix _)).symm
  -- Of all the ways to split a text, only the last one finds a share.
  unfold splitShare at split
  split at split
  · next after =>
    split at split
    · cases split
    · next third =>
      dsimp only at split
      split at split
      · cases split
      · next c shared below =>
        split at split
        · cases split
        · obtain ⟨rfl, rfl⟩ := Prod.mk.inj (Option.some.inj split)
          have whole := divided after
          rw [below] at whole
          have within : shared ⊆ after := by
            rw [whole]
            exact List.subset_append_of_subset_right _ (List.subset_cons_self _ _)
          -- What follows the machine's name is the backslash that it ends before.
          have ended : c = '\\' := by
            have rest := List.append_cancel_left
              ((List.takeWhile_append_dropWhile (p := (· != '\\'))).trans whole)
            have stopped := List.head?_dropWhile_not (· != '\\') after
            rw [rest] at stopped
            simpa using stopped
          subst ended
          refine ⟨_, _, shared.drop (shared.takeWhile (· != '\\')).length, ?_, rfl, ?_, ?_,
            isShareName_takeWhile fun slash => noSlash ?_,
            isShareName_takeWhile fun slash => noSlash ?_⟩
          · rw [← divided shared, ← whole]
          · rw [List.drop_add_one_eq_tail_drop]
            exact (List.tail_sublist _).subset
          · intro missing
            rw [missing] at whole
            exact third (by simp [whole])
          · exact List.mem_cons_of_mem _ (List.mem_cons_of_mem _ slash)
          · exact List.mem_cons_of_mem _ (List.mem_cons_of_mem _ (within slash))
  · cases split

/-- Splits what follows a mark. -/
def splitMarked (mark part : List Char) : Anchored :=
  -- A share is the drive whole; after a mark its own two leading separators become one.
  match splitShare part with
  | some (share, rest) =>
    ⟨if mark.isEmpty then share else mark ++ share.drop 1, ['\\'], rest⟩
  | none =>
    -- Without a share there is at most a drive letter in front of the root.
    let (drive, part) :=
      match part with
      | letter :: ':' :: rest => if letter.isAlpha then ([letter, ':'], rest) else ([], part)
      | _ => ([], part)
    if part.head? == some '\\' then ⟨mark ++ drive, ['\\'], part.dropWhile (· == '\\')⟩
    else ⟨mark ++ drive, [], part⟩

/-- A windows path has no mark, or that of an extended path, or that of one to a machine. -/
theorem splitWindowsRoot_cases (part : List Char) :
    ¬ extendedMark <+: part ∧ splitWindowsRoot part = splitMarked [] part ∨
      (∃ rest, part = extendedMark ++ rest ∧ ¬ ['U', 'N', 'C', '\\'] <+: rest ∧
        splitWindowsRoot part = splitMarked extendedMark rest) ∨
      ∃ rest, part = networkMark ++ '\\' :: rest ∧
        splitWindowsRoot part = splitMarked networkMark ('\\' :: '\\' :: rest) := by
  -- The mark is split off first, and what follows it is split in one way for all marks.
  have taken : splitWindowsRoot part =
      splitMarked (if ['\\', '\\'].isPrefixOf part then splitExtendedMark part else ([], part)).1
        (if ['\\', '\\'].isPrefixOf part then splitExtendedMark part else ([], part)).2 := rfl
  by_cases extended : extendedMark <+: part
  · obtain ⟨rest, rfl⟩ := extended
    rw [taken]
    by_cases network : ['U', 'N', 'C', '\\'] <+: rest
    · obtain ⟨below, rfl⟩ := network
      exact .inr (.inr ⟨below, rfl, rfl⟩)
    · refine .inr (.inl ⟨rest, rfl, network, ?_⟩)
      have bare : ['U', 'N', 'C', '\\'].isPrefixOf rest = false := by
        rwa [← Bool.not_eq_true, List.isPrefixOf_iff_prefix]
      simp [extendedMark, splitExtendedMark, bare]
  · have bare : ['\\', '\\', '?', '\\'].isPrefixOf part = false := by
      rwa [← Bool.not_eq_true, List.isPrefixOf_iff_prefix]
    refine .inl ⟨extended, ?_⟩
    rw [taken, splitExtendedMark, bare]
    simp

/-- What follows a mark and names a share is that share, of which the mark takes one backslash. -/
theorem splitMarked_shared {part : List Char} (noSlash : '/' ∉ part)
    {found : List Char × List Char} (shared : splitShare part = some found) (mark : List Char) :
    ∃ machine name rest, splitMarked mark part =
        ⟨(if mark.isEmpty then ['\\', '\\'] else mark ++ ['\\']) ++ (machine ++ '\\' :: name),
          ['\\'], rest⟩ ∧
      machine ≠ [] ∧ IsShareName machine ∧ IsShareName name ∧
      '\\' :: '\\' :: (machine ++ ['\\']) <+: part ∧ rest ⊆ part := by
  obtain ⟨machine, name, more, rfl, share, within, some, apart, named⟩ :=
    splitShare_eq_some noSlash shared
  -- `splitShare` has found a machine and a name; the mark only changes what stands in front of
  -- them.
  refine ⟨machine, name, found.2, ?_, some, apart, named, ⟨name ++ more, by simp⟩, fun c member => ?_⟩
  · simp only [splitMarked, shared, share]
    split <;> simp
  · simp [within member]

/-- What follows a mark and names no share is a drive with a letter, or none, and what follows that
one is rooted or not. -/
theorem splitMarked_unshared {part : List Char} (unshared : splitShare part = none)
    (mark : List Char) : ∃ drive root rest, splitMarked mark part = ⟨mark ++ drive, root, rest⟩ ∧
      (drive = [] ∨ ∃ letter, letter.isAlpha = true ∧ drive = [letter, ':']) ∧
      (root = [] ∨ root = ['\\']) ∧ rest ⊆ part := by
  -- Whatever the drive, backslashes after it are its root.
  have rooted : ∀ drive below : List Char, ∃ root rest,
      (if below.head? == some '\\' then
        (⟨mark ++ drive, ['\\'], below.dropWhile (· == '\\')⟩ : Anchored)
      else ⟨mark ++ drive, [], below⟩) = ⟨mark ++ drive, root, rest⟩ ∧
        (root = [] ∨ root = ['\\']) ∧ rest ⊆ below := by
    intro drive below
    split
    · exact ⟨_, _, rfl, .inr rfl, (List.dropWhile_sublist _).subset⟩
    · exact ⟨_, _, rfl, .inl rfl, List.Subset.refl _⟩
  simp only [splitMarked, unshared]
  split
  · next letter below =>
    by_cases alphabetic : letter.isAlpha = true
    · obtain ⟨root, rest, split, root_cases, within⟩ := rooted [letter, ':'] below
      refine ⟨_, root, rest, by simpa [alphabetic] using split, .inr ⟨letter, alphabetic, rfl⟩,
        root_cases, fun c member => ?_⟩
      exact List.mem_cons_of_mem _ (List.mem_cons_of_mem _ (within member))
    · obtain ⟨root, rest, split, root_cases, within⟩ := rooted [] (letter :: ':' :: below)
      exact ⟨_, root, rest, by simpa [alphabetic] using split, .inl rfl, root_cases, within⟩
  · obtain ⟨root, rest, split, root_cases, within⟩ := rooted [] part
    exact ⟨_, root, rest, split, .inl rfl, root_cases, within⟩

/-- Where a backslash follows the mark and there is no share, the backslash is the root of the mark. -/
theorem splitMarked_backslash {below : List Char} (unshared : splitShare ('\\' :: below) = none)
    (mark : List Char) : (splitMarked mark ('\\' :: below)).drive = mark ∧
      (splitMarked mark ('\\' :: below)).root = ['\\'] := by
  -- A separator is no letter, so nothing in front of it is taken for a drive.
  have noLetter : Char.isAlpha '\\' = false := by decide
  simp only [splitMarked, unshared]
  split
  · next letter rest opened =>
    obtain ⟨rfl, _⟩ := List.cons.inj opened
    simp [noLetter]
  · simp

/-- Without a share there is at most a letter, also behind the mark of an extended path. -/
theorem splitMarked_isAnchor {mark part : List Char} (marked : mark = [] ∨ mark = extendedMark)
    (unshared : splitShare part = none) :
    IsAnchor (splitMarked mark part).drive (splitMarked mark part).root ∧
      (splitMarked mark part).rest ⊆ part := by
  obtain ⟨drive, root, rest, split, drives, rooted, within⟩ := splitMarked_unshared unshared mark
  rw [split]
  refine ⟨?_, within⟩
  -- Without a share the drive is the mark alone, or the mark and a letter.
  rcases drives with rfl | ⟨letter, alphabetic, rfl⟩
  · simpa using IsAnchor.plain marked rooted
  · exact .letter marked alphabetic rooted

/-- What is split off a windows path is a drive with its root, and the rest is a part of the path. -/
theorem splitWindowsRoot_isAnchor {part : List Char} (noSlash : '/' ∉ part) :
    IsAnchor (splitWindowsRoot part).drive (splitWindowsRoot part).root ∧
      (splitWindowsRoot part).rest ⊆ part := by
  rcases splitWindowsRoot_cases part with
    ⟨extended, split⟩ | ⟨below, rfl, _, split⟩ | ⟨below, rfl, split⟩ <;> rw [split]
  · cases shared : splitShare part with
    | none => exact splitMarked_isAnchor (.inl rfl) shared
    | some found =>
      obtain ⟨machine, name, rest, split, some, apart, named, begins, within⟩ :=
        splitMarked_shared noSlash shared []
      have other : machine ≠ ['?'] := by
        rintro rfl
        exact extended begins
      exact split ▸ ⟨.share (.inl ⟨rfl, other⟩) some apart named, within⟩
  · have below_noSlash : '/' ∉ below := fun member => noSlash (by simp [member])
    have part : below ⊆ extendedMark ++ below := List.subset_append_right _ _
    cases shared : splitShare below with
    | none =>
      obtain ⟨anchor, within⟩ := splitMarked_isAnchor (.inr rfl) shared
      exact ⟨anchor, List.Subset.trans within part⟩
    | some found =>
      obtain ⟨machine, name, rest, split, some, apart, named, -, within⟩ :=
        splitMarked_shared below_noSlash shared extendedMark
      exact split ▸ ⟨.share (.inr (.inl rfl)) some apart named, List.Subset.trans within part⟩
  · have part : '\\' :: '\\' :: below ⊆ networkMark ++ '\\' :: below :=
      List.cons_subset.mpr ⟨by simp [networkMark], List.subset_append_right _ _⟩
    have below_noSlash : '/' ∉ '\\' :: '\\' :: below := fun member => noSlash (part member)
    cases shared : splitShare ('\\' :: '\\' :: below) with
    | none =>
      -- What follows the mark begins with a backslash, which is the root.
      simp only [splitMarked, shared]
      refine ⟨.network, List.Subset.trans ?_ part⟩
      exact (List.dropWhile_sublist _).subset
    | some found =>
      obtain ⟨machine, name, rest, split, some, apart, named, -, within⟩ :=
        splitMarked_shared below_noSlash shared networkMark
      exact split ▸ ⟨.share (.inr (.inr rfl)) some apart named, List.Subset.trans within part⟩

/-- Whether a drive is split off again when it is written by itself: a share has a name, and nothing
but the name of a drive follows the mark of an extended path. -/
def ReadsBack (drive : List Char) : Prop :=
  ¬ extendedMark ++ ['\\'] <+: drive ∧ (drive.getLast? = some '\\' → drive = extendedMark)

instance (drive : List Char) : Decidable (ReadsBack drive) :=
  inferInstanceAs (Decidable (_ ∧ _))

/-- A share that is written with its root is split off if it has a name. -/
theorem splitShare_named {machine name : List Char} (some : machine ≠ [])
    (apart : IsShareName machine) (shared : IsShareName name) :
    splitShare ('\\' :: '\\' :: (machine ++ '\\' :: (name ++ ['\\']))) =
      if name = [] then none else Option.some ('\\' :: '\\' :: (machine ++ '\\' :: name), []) := by
  -- A name ends where the next backslash is.
  have whole : ∀ {chars : List Char}, IsShareName chars → ∀ more : List Char,
      (chars ++ '\\' :: more).takeWhile (· != '\\') = chars := by
    intro chars apart more
    rw [List.takeWhile_append_of_pos fun c member => by simpa using (apart c member).2]
    simp
  have head : (machine ++ '\\' :: (name ++ ['\\'])).head? ≠ Option.some '\\' := by
    obtain ⟨c, rest, rfl⟩ := List.exists_cons_of_ne_nil some
    simpa using (apart c (by simp)).2
  have first : ((name ++ ['\\']).head? == Option.some '\\') = decide (name = []) := by
    cases name with
    | nil => simp
    | cons c rest => simpa using (shared c (by simp)).2
  simp only [splitShare, beq_iff_eq, head, if_false, whole apart, List.drop_left, first,
    decide_eq_true_eq, whole shared []]
  by_cases missing : name = [] <;> simp [missing]

/-- A share begins like an extended path only if its machine is named like the mark. -/
theorem extendedMark_prefix_share {machine more : List Char} (some : machine ≠ [])
    (apart : IsShareName machine) (other : machine ≠ ['?']) :
    ¬ extendedMark <+: '\\' :: '\\' :: (machine ++ '\\' :: more) := by
  -- The mark would need `?` as the whole machine, which `other` leaves out.
  obtain ⟨c, rest, rfl⟩ := List.exists_cons_of_ne_nil some
  simp only [extendedMark, List.cons_append, List.cons_prefix_cons, true_and]
  rintro ⟨rfl, begins⟩
  cases rest with
  | nil => exact other rfl
  | cons d rest =>
    rw [List.cons_append, List.cons_prefix_cons] at begins
    exact (apart d (by simp)).2 begins.1.symm

/-- A share's drive ends with a backslash exactly if the share has no name. -/
theorem getLast?_share (opening : List Char) {name : List Char} (shared : IsShareName name) :
    (opening ++ '\\' :: name).getLast? = some '\\' ↔ name = [] := by
  -- The name holds no separator, so the text ends in one exactly when the name is missing.
  cases name with
  | nil => simp
  | cons c rest =>
    rw [List.getLast?_append_of_ne_nil _ (List.cons_ne_nil _ _), List.getLast?_cons_cons]
    exact iff_of_false (fun last => (shared _ (List.mem_of_getLast? last)).2 rfl)
      (List.cons_ne_nil _ _)

/-- Whether a drive with its root, written by itself, is split off as it is if it reads back, and a
shorter one that does is split off otherwise. -/
structure SplitsBack (drive root : List Char) : Prop where
  kept : ReadsBack drive → splitWindowsRoot (drive ++ root) = ⟨drive, root, []⟩
  rooted : ¬ ReadsBack drive → root = ['\\']
  lost : ¬ ReadsBack drive → (splitWindowsRoot (drive ++ root)).root = ['\\'] ∧
    ReadsBack (splitWindowsRoot (drive ++ root)).drive

section Shares

variable {machine name : List Char}

/-- A share behind a mark splits back if all that can be lost is its name. -/
theorem splitsBack_of_share {mark drive : List Char} (some : machine ≠ []) (apart : IsShareName machine)
    (shared : IsShareName name) (kept : ReadsBack mark) (reads : ReadsBack drive ↔ name ≠ [])
    (spelt : drive = (if mark.isEmpty then ['\\', '\\'] else mark ++ ['\\']) ++
      (machine ++ '\\' :: name))
    (taken : splitWindowsRoot (drive ++ ['\\']) =
      splitMarked mark ('\\' :: '\\' :: (machine ++ '\\' :: (name ++ ['\\'])))) :
    SplitsBack drive ['\\'] := by
  have unnamed := splitShare_named some apart shared
  -- The root behind a name ends the share; without a name, it leaves no share at all.
  refine ⟨fun named => ?_, fun _ => rfl, fun missing => ?_⟩
  · rw [if_neg (reads.mp named)] at unnamed
    rw [taken]
    simp only [splitMarked, unnamed, spelt]
    split <;> simp
  · obtain rfl := not_not.mp (mt reads.mpr missing)
    rw [if_pos rfl] at unnamed
    obtain ⟨marked, root⟩ := splitMarked_backslash unnamed mark
    exact ⟨taken ▸ root, by rwa [taken, marked]⟩

/-- A share without a mark is no share without its name. -/
theorem splitsBack_share (some : machine ≠ []) (apart : IsShareName machine)
    (shared : IsShareName name) (other : machine ≠ ['?']) :
    SplitsBack (['\\', '\\'] ++ (machine ++ '\\' :: name)) ['\\'] := by
  -- A machine other than `?` keeps the drive out of the extended form.
  have unextended : ∀ more, ¬ extendedMark <+: '\\' :: '\\' :: (machine ++ '\\' :: more) :=
    fun more => extendedMark_prefix_share some apart other
  have ends := getLast?_share (['\\', '\\'] ++ machine) shared
  rw [List.append_assoc] at ends
  -- So the drive is read back with its root exactly when a name follows the machine.
  have reads : ReadsBack (['\\', '\\'] ++ (machine ++ '\\' :: name)) ↔ name ≠ [] := by
    rw [ReadsBack, ends]
    refine ⟨fun ⟨_, last⟩ missing => ?_, fun named => ⟨fun begins => ?_, fun none => absurd none named⟩⟩
    · exact unextended name ⟨[], by simpa using (last missing).symm⟩
    · exact unextended name ((List.prefix_append _ _).trans begins)
  -- Of the three forms a root is split in, the unmarked one is left.
  have taken : splitWindowsRoot (['\\', '\\'] ++ (machine ++ '\\' :: name) ++ ['\\']) =
      splitMarked [] ('\\' :: '\\' :: (machine ++ '\\' :: (name ++ ['\\']))) := by
    have written : ['\\', '\\'] ++ (machine ++ '\\' :: name) ++ ['\\'] =
        '\\' :: '\\' :: (machine ++ '\\' :: (name ++ ['\\'])) := by simp
    rw [written]
    rcases splitWindowsRoot_cases ('\\' :: '\\' :: (machine ++ '\\' :: (name ++ ['\\']))) with
      ⟨_, split⟩ | ⟨below, marked, _⟩ | ⟨below, marked, _⟩
    · exact split
    · exact absurd ⟨below, marked.symm⟩ (unextended _)
    · exact absurd ⟨_, by rw [marked, networkMark, List.append_assoc]⟩ (unextended _)
  exact splitsBack_of_share some apart shared (by decide) reads rfl taken

/-- The mark of an extended path takes a backslash of the share behind it. -/
theorem splitsBack_extendedShare (some : machine ≠ []) (apart : IsShareName machine) :
    SplitsBack (extendedMark ++ ['\\'] ++ (machine ++ '\\' :: name)) ['\\'] := by
  -- Such a drive never reads back: one backslash before the machine is not enough for a share.
  have other : ¬ ReadsBack (extendedMark ++ ['\\'] ++ (machine ++ '\\' :: name)) :=
    fun reads => reads.1 (List.prefix_append _ _)
  refine ⟨fun reads => absurd reads other, fun _ => rfl, fun _ => ?_⟩
  have written : extendedMark ++ ['\\'] ++ (machine ++ '\\' :: name) ++ ['\\'] =
      extendedMark ++ '\\' :: (machine ++ '\\' :: (name ++ ['\\'])) := by simp
  have unshared : splitShare ('\\' :: (machine ++ '\\' :: (name ++ ['\\']))) = none := by
    obtain ⟨c, rest, rfl⟩ := List.exists_cons_of_ne_nil some
    unfold splitShare
    split
    · next opened =>
      exact absurd (List.cons.inj (List.cons.inj opened).2).1 (apart c (by simp)).2
    · rfl
  obtain ⟨drive, root⟩ := splitMarked_backslash unshared extendedMark
  rcases splitWindowsRoot_cases
      (extendedMark ++ '\\' :: (machine ++ '\\' :: (name ++ ['\\']))) with
    ⟨bare, _⟩ | ⟨below, whole, _, split⟩ | ⟨below, marked, _⟩
  · exact absurd (List.prefix_append _ _) bare
  · obtain rfl := List.append_cancel_left whole
    rw [written, split]
    exact ⟨root, by rw [drive]; decide⟩
  · rw [networkMark, List.append_assoc] at marked
    cases (List.cons.inj (List.append_cancel_left marked)).1

/-- Neither does the mark of a machine go with a share without its name. -/
theorem splitsBack_networkShare (some : machine ≠ []) (apart : IsShareName machine)
    (shared : IsShareName name) :
    SplitsBack (networkMark ++ ['\\'] ++ (machine ++ '\\' :: name)) ['\\'] := by
  -- After the network mark the text goes on with its `U`, where an extended drive has a separator.
  have unextended : ∀ more : List Char, ¬ extendedMark ++ ['\\'] <+: networkMark ++ more := by
    intro more begins
    rw [networkMark, List.append_assoc, List.prefix_append_right_inj] at begins
    cases (List.cons_prefix_cons.mp begins).1
  have ends := getLast?_share (networkMark ++ ['\\'] ++ machine) shared
  rw [List.append_assoc] at ends
  have reads : ReadsBack (networkMark ++ ['\\'] ++ (machine ++ '\\' :: name)) ↔ name ≠ [] := by
    rw [ReadsBack, ends, List.append_assoc]
    refine ⟨fun ⟨_, last⟩ missing => ?_, fun named => ⟨unextended _, fun none => absurd none named⟩⟩
    simpa [networkMark] using last missing
  -- Here the network form is left, since the mark stands in front.
  have taken : splitWindowsRoot (networkMark ++ ['\\'] ++ (machine ++ '\\' :: name) ++ ['\\']) =
      splitMarked networkMark ('\\' :: '\\' :: (machine ++ '\\' :: (name ++ ['\\']))) := by
    have written : networkMark ++ ['\\'] ++ (machine ++ '\\' :: name) ++ ['\\'] =
        networkMark ++ '\\' :: (machine ++ '\\' :: (name ++ ['\\'])) := by simp
    rw [written]
    rcases splitWindowsRoot_cases
        (networkMark ++ '\\' :: (machine ++ '\\' :: (name ++ ['\\']))) with
      ⟨bare, _⟩ | ⟨below, whole, bare, _⟩ | ⟨below, whole, split⟩
    · exact absurd ((List.prefix_append _ _).trans (List.prefix_append _ _)) bare
    · rw [networkMark, List.append_assoc] at whole
      exact absurd ⟨_, List.append_cancel_left whole⟩ bare
    · obtain rfl := (List.cons.inj (List.append_cancel_left whole)).2
      exact split
  exact splitsBack_of_share some apart shared (by decide) reads rfl taken

end Shares

namespace IsAnchor

variable {drive root : List Char}

/-- Every drive with its root splits back. -/
theorem splitsBack (anchor : IsAnchor drive root) : SplitsBack drive root := by
  -- All drives but shares read back.
  have kept : ReadsBack drive → splitWindowsRoot (drive ++ root) = ⟨drive, root, []⟩ →
      SplitsBack drive root := fun reads split =>
    ⟨fun _ => split, fun other => absurd reads other, fun other => absurd reads other⟩
  cases anchor with
  | plain marked rooted =>
    apply kept
    · rcases marked with rfl | rfl <;> decide
    · rcases marked with rfl | rfl <;> rcases rooted with rfl | rfl <;> rfl
  | @letter mark _ letter marked alphabetic rooted =>
    have noBackslash : letter ≠ '\\' := by
      rintro rfl
      exact absurd alphabetic (by decide)
    apply kept
    · rcases marked with rfl | rfl <;> simp [ReadsBack, extendedMark, noBackslash.symm]
    · rcases marked with rfl | rfl <;> rcases rooted with rfl | rfl <;>
        simp [splitWindowsRoot, splitExtendedMark, splitShare, extendedMark, alphabetic, noBackslash,
          List.isPrefixOf]
  | network => exact kept (by decide) rfl
  | share opens some apart shared =>
    rcases opens with ⟨rfl, other⟩ | rfl | rfl
    · exact splitsBack_share some apart shared other
    · exact splitsBack_extendedShare some apart
    · exact splitsBack_networkShare some apart shared

/-- A root is a backslash, or there is none. -/
theorem root_cases (anchor : IsAnchor drive root) : root = [] ∨ root = ['\\'] := by
  cases anchor with
  | plain _ rooted => exact rooted
  | letter _ _ rooted => exact rooted
  | network => exact .inr rfl
  | share => exact .inr rfl

/-- The root of a written anchor is a backslash, or there is none. -/
theorem rootText_cases {drive root : String} (anchor : IsAnchor drive.toList root.toList) :
    root = "" ∨ root = "\\" :=
  anchor.root_cases.imp (fun bare => String.toList_inj.mp bare) fun slash => String.toList_inj.mp slash

/-- Every drive can have a root. -/
theorem rooted (anchor : IsAnchor drive root) : IsAnchor drive ['\\'] := by
  cases anchor with
  | plain marked _ => exact .plain marked (.inr rfl)
  | letter marked alphabetic _ => exact .letter marked alphabetic (.inr rfl)
  | network => exact .network
  | share opens some apart shared => exact .share opens some apart shared

/-- A drive has a colon or a backslash in it, and no slash. -/
theorem drive_marked (anchor : IsAnchor drive root) :
    (drive = [] ∨ '\\' ∈ drive ∨ ':' ∈ drive) ∧ '/' ∉ drive := by
  have noSlash : ∀ {name : List Char}, IsShareName name → '/' ∉ name :=
    fun apart member => (apart _ member).1 rfl
  -- Every form but the bare one has a colon behind its letter or a separator at its front.
  cases anchor with
  | plain marked _ => rcases marked with rfl | rfl <;> decide
  | letter marked alphabetic _ =>
    have other : ∀ {letter : Char}, letter.isAlpha = true → '/' ≠ letter := by
      rintro _ alphabetic rfl
      exact absurd alphabetic (by decide)
    rcases marked with rfl | rfl <;> simp [extendedMark, other alphabetic]
  | network => decide
  | share opens _ apart shared =>
    have named : '/' ∉ '\\' :: _ := List.not_mem_cons_of_ne_of_not_mem (by decide) (noSlash shared)
    refine ⟨.inr (.inl (by simp)), List.not_mem_append ?_ (List.not_mem_append (noSlash apart) named)⟩
    rcases opens with ⟨rfl, _⟩ | rfl | rfl <;> decide

/-- A drive that ends with a backslash and has no root is the mark of an extended path. -/
theorem rootless_backslash (anchor : IsAnchor drive []) (last : drive.getLast? = some '\\') :
    drive = extendedMark := by
  -- A rootless anchor is a bare one or a drive letter, and the letter's ends in a colon.
  cases anchor with
  | plain marked _ =>
    rcases marked with rfl | rfl
    · cases last
    · rfl
  | letter => simp at last

/-- No drive is the mark of an extended path without its last backslash. -/
theorem ne_unfinished (anchor : IsAnchor drive root) : drive ≠ ['\\', '\\', '?'] := by
  cases anchor with
  | plain marked _ => rcases marked with rfl | rfl <;> decide
  | letter marked _ _ => rcases marked with rfl | rfl <;> simp [extendedMark]
  | network => decide
  | @share _ machine name opens some _ _ =>
    -- A share has a backslash more.
    intro same
    have counted := congrArg (List.count '\\') same
    rcases opens with ⟨rfl, _⟩ | rfl | rfl <;>
      simp [extendedMark, networkMark] at counted

end IsAnchor

section Folded

open Text (toSmall)

/-- Small letters leave it alone whether a drive reads back. -/
theorem readsBack_toSmall_iff (drive : String) :
    ReadsBack (toSmall drive).toList ↔ ReadsBack drive.toList := by
  -- Case folding moves no mark of an anchor, and those are all `ReadsBack` looks at.
  have marked : extendedMark ++ ['\\'] ⊆ Text.marks := by decide
  have whole : (toSmall drive).toList = extendedMark ↔ drive.toList = extendedMark := by
    have same : toSmall drive = String.ofList extendedMark ↔ drive = String.ofList extendedMark :=
      Text.toSmall_eq_iff (by decide) drive
    simpa [← String.toList_inj] using same
  rw [ReadsBack, ReadsBack, Text.prefix_toSmall_iff marked, Text.getLast?_toSmall_iff (by decide), whole]

/-- A drive and a root with one small form have the same root, and drives with one small form. -/
theorem IsAnchor.folded_inj {drive root otherDrive otherRoot : String}
    (anchor : IsAnchor drive.toList root.toList)
    (other : IsAnchor otherDrive.toList otherRoot.toList)
    (same : toSmall (drive ++ root) = toSmall (otherDrive ++ otherRoot)) :
    toSmall drive = toSmall otherDrive ∧ root = otherRoot := by
  -- With a root on one side only, the other side is the mark of an extended path.
  have apart : ∀ {drive otherDrive : String}, IsAnchor drive.toList [] →
      IsAnchor otherDrive.toList ['\\'] → toSmall drive ≠ toSmall otherDrive ++ "\\" := by
    intro drive otherDrive anchor other same
    have last : drive.toList.getLast? = some '\\' := by
      rw [← Text.getLast?_toSmall_iff (by decide), same]
      simp
    -- So the other drive would be that mark without its last backslash, which is no drive.
    have extended : drive = "\\\\?\\" := String.toList_inj.mp (anchor.rootless_backslash last)
    have small : toSmall drive = "\\\\?\\" := (Text.toSmall_eq_iff (by decide) drive).mpr extended
    have cut : toSmall otherDrive = "\\\\?" := by
      rw [small, ← String.toList_inj, String.toList_append] at same
      rw [← String.toList_inj]
      exact (List.append_cancel_right (same : ['\\', '\\', '?'] ++ ['\\'] = _)).symm
    rw [Text.toSmall_eq_iff (by decide)] at cut
    exact other.ne_unfinished (by rw [cut]; rfl)
  rcases anchor.rootText_cases with rfl | rfl <;> rcases other.rootText_cases with rfl | rfl
  · simpa using same
  · rw [String.append_empty, Text.toSmall_backslash] at same
    exact absurd same (apart anchor other)
  · rw [String.append_empty, Text.toSmall_backslash] at same
    exact absurd same.symm (apart other anchor)
  · rw [Text.toSmall_backslash, Text.toSmall_backslash, ← String.toList_inj, String.toList_append,
      String.toList_append] at same
    exact ⟨String.toList_inj.mp (List.append_cancel_right same), rfl⟩

end Folded

end AutomationIndex.Location
