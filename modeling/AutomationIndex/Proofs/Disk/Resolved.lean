import AutomationIndex.Disk.Resolve
import AutomationIndex.Proofs.Disk.Tree
import AutomationIndex.Proofs.Location.Spelling
import AutomationIndex.Proofs.Logged

/-! Resolved locations: the names on them are proper segments, whatever links stand for. -/

namespace AutomationIndex

/-- A name of an entry is a proper segment of a path. -/
theorem isSegment_of_isEntryName {name : String} (proper : isEntryName name = true) :
    isSegment name = true := by
  simp only [isEntryName, Bool.and_eq_true, List.all_eq_true] at proper
  obtain ⟨⟨⟨nonempty, noDot⟩, _⟩, plain⟩ := proper
  simp only [isSegment, Bool.and_eq_true, List.all_eq_true]
  exact ⟨⟨nonempty, noDot⟩, fun c member => (plain c member).1⟩

namespace Disk

/-- Whether a text can stand between slashes on the way that a link names: it is not empty and holds
no slash. Single dots are such steps, and no segments. -/
def isStep (name : String) : Bool :=
  name != "" && name.toList.all (· != '/')

/-- A step that is no dot is a segment. -/
theorem isSegment_of_isStep {name : String} (step : isStep name = true) (noDot : name ≠ ".") :
    isSegment name = true := by
  simp only [isStep, Bool.and_eq_true] at step
  simp [isSegment, step.1, step.2, noDot]

/-- A segment is a step. -/
theorem isStep_of_isSegment {name : String} (segment : isSegment name = true) :
    isStep name = true := by
  simp only [isSegment, Bool.and_eq_true] at segment
  simp [isStep, segment.1.1, segment.2]

/-- The names of the path that a link stands for are steps. -/
theorem targetNames_isStep (target : String) :
    ∀ name ∈ targetNames target, isStep name = true := by
  -- Fields between slashes hold none, and the empty ones are left out.
  intro name member
  rcases List.mem_append.mp member with field | dot
  · obtain ⟨among, nonempty⟩ := List.mem_filter.mp field
    obtain ⟨run, between, rfl⟩ := List.mem_map.mp among
    have apart := Text.runsBetween_apart between
    simp only [isStep, nonempty, Bool.true_and, List.all_eq_true, String.toList_ofList]
    intro c inside
    simpa using apart c inside
  · split at dot
    · rw [List.mem_singleton.mp dot]
      rfl
    · simp at dot

/-- What begins where the path of a link does has the names of the place of the link at most. -/
theorem targetStart_subset (here : Place) (target : String) : targetStart here target ⊆ here := by
  unfold targetStart
  split <;> simp

/-- Replacing links keeps to steps, if going on after a link does. -/
theorem resolveNames_isStep {root : Node} {openLinks : List Place}
    {onLink : List Place → Place → List String → Place × Bool}
    (linked : ∀ opened here names, (∀ name ∈ here, isStep name = true) →
      (∀ name ∈ names, isStep name = true) → ∀ name ∈ (onLink opened here names).1, isStep name = true)
    {here : Place} {names : List String} (start : ∀ name ∈ here, isStep name = true)
    (rest : ∀ name ∈ names, isStep name = true) :
    ∀ name ∈ (resolveNames root openLinks onLink here names).1, isStep name = true := by
  -- The induction follows the names that are left; each one changes the place by a step.
  induction names generalizing here with
  | nil => exact start
  | cons name names ih =>
    obtain ⟨first, rest⟩ := List.forall_mem_cons.mp rest
    have next : ∀ other ∈ here ++ [name], isStep other = true :=
      List.forall_mem_append.mpr ⟨start, by simpa using first⟩
    simp only [resolveNames]
    split
    · exact ih start rest
    · split
      · exact ih (fun other member => start other (List.dropLast_subset here member)) rest
      · split
        · rename_i target stands
          split
          · -- A link that stands open already is not followed again.
            exact List.forall_mem_append.mpr ⟨next, rest⟩
          · -- Where a link leads on, so do the names that are left.
            have followed := linked ((here ++ [name]) :: openLinks) (targetStart here target)
              (targetNames target) (fun other member =>
                start other (targetStart_subset here target member)) (targetNames_isStep target)
            split
            · rename_i place same
              rw [same] at followed
              exact ih followed rest
            · rename_i place same
              rw [same] at followed
              exact List.forall_mem_append.mpr ⟨followed, rest⟩
        · exact ih next rest

/-- Replacing links at any depth keeps to steps. -/
theorem resolveLinks_isStep {root : Node} {depth : Nat} {openLinks : List Place} {here : Place}
    {names : List String} (start : ∀ name ∈ here, isStep name = true)
    (rest : ∀ name ∈ names, isStep name = true) :
    ∀ name ∈ (resolveLinks root depth openLinks here names).1, isStep name = true := by
  -- Where the depth ends, the names that are left are steps of their own.
  induction depth generalizing openLinks here names with
  | zero =>
    apply resolveNames_isStep ?_ start rest
    intro opened here names start rest
    exact List.forall_mem_append.mpr ⟨start, rest⟩
  | succ depth ih =>
    apply resolveNames_isStep ?_ start rest
    intro opened here names start rest
    exact ih start rest

/-- A way of steps without dots is one of segments. -/
theorem plainNames_isSegment {names : List String} (steps : ∀ name ∈ names, isStep name = true) :
    ∀ name ∈ plainNames names, isSegment name = true := by
  -- The invariant of the fold is that the place so far has segments only.
  suffices general : ∀ place : Place, (∀ name ∈ place, isSegment name = true) →
      ∀ name ∈ names.foldl plainNames.step place, isSegment name = true from general [] (by simp)
  induction names with
  | nil => exact fun place ok => ok
  | cons first rest ih =>
    intro place ok
    obtain ⟨head, rest⟩ := List.forall_mem_cons.mp steps
    apply ih rest
    unfold plainNames.step
    split
    · exact ok
    · rename_i noDot
      split
      · exact fun name member => ok name (List.dropLast_subset place member)
      · intro name member
        rcases List.mem_append.mp member with old | new
        · exact ok name old
        · rw [List.mem_singleton.mp new]
          exact isSegment_of_isStep head (by simpa using noDot)

/-- A way without dots has none left. -/
theorem plainNames_noDots (names : List String) :
    ∀ name ∈ plainNames names, name ≠ "." ∧ name ≠ ".." := by
  -- The invariant of the fold is that the place so far has no dots.
  suffices general : ∀ place : Place, (∀ name ∈ place, name ≠ "." ∧ name ≠ "..") →
      ∀ name ∈ names.foldl plainNames.step place, name ≠ "." ∧ name ≠ ".." from
    general [] (by simp)
  induction names with
  | nil => exact fun place ok => ok
  | cons first rest ih =>
    intro place ok
    apply ih
    unfold plainNames.step
    split
    · exact ok
    · rename_i noDot
      split
      · exact fun name member => ok name (List.dropLast_subset place member)
      · rename_i noUp
        rw [List.forall_mem_append, List.forall_mem_singleton]
        exact ⟨ok, by simpa using noDot, by simpa using noUp⟩

/-- A directory that a user names stands for a place without dots. -/
theorem resolveNamed_place {disk : Disk} {l resolved : Location}
    (ran : disk.resolveNamed l = .ok resolved) :
    ∃ place, resolved = locationOf place ∧ ∀ name ∈ place, name ≠ "." ∧ name ≠ ".." := by
  -- The only way to a resolved location is the last one, through plain names.
  simp only [resolveNamed, exceptBind_ok_iff] at ran
  obtain ⟨expanded, _, ran⟩ := ran
  unfold resolve at ran
  split at ran
  · simp at ran
  · dsimp only at ran
    split at ran
    · simp at ran
    · cases ran
      exact ⟨disk.resolvePlace expanded, rfl, plainNames_noDots _⟩

/-- The place that a location stands for has segments only. -/
theorem resolvePlace_isSegment {disk : Disk} (wellNamed : disk.isWellNamed = true) {l : Location}
    (steps : ∀ name ∈ l.segments, isSegment name = true) :
    ∀ name ∈ disk.resolvePlace l, isSegment name = true := by
  -- The place to work from and the location itself have segments only.
  apply plainNames_isSegment
  apply resolveLinks_isStep
  · simp only [isWellNamed, Bool.and_eq_true, List.all_eq_true] at wellNamed
    split
    · exact fun name member =>
        isStep_of_isSegment (isSegment_of_isEntryName (wellNamed.2 name member))
    · simp
  · exact fun name member => isStep_of_isSegment (steps name member)

/-- The resolved location of a directory that a text names is a posix location. -/
theorem resolveNamed_isPosix {disk : Disk} (wellNamed : disk.isWellNamed = true) {l : Location}
    (plain : l.IsPosix) {resolved : Location} (ran : disk.resolveNamed l = .ok resolved) :
    resolved.IsPosix := by
  simp only [resolveNamed, exceptBind_ok_iff] at ran
  obtain ⟨expanded, home, ran⟩ := ran
  -- The home directory brings segments of its own, and the others are those of the location.
  have steps : ∀ name ∈ expanded.segments, isSegment name = true := by
    unfold expandHome at home
    -- A tilde stands for the home directory, and any other text for itself.
    split at home
    · rename_i segment segments _ written
      split at home
      · split at home
        · rename_i directory _
          cases home
          intro name member
          rcases List.mem_append.mp member with own | after
          · exact (Location.posix_isPosix directory).segments_ok name own
          · exact plain.segments_ok name (written ▸ List.mem_cons_of_mem segment after)
        · simp at home
      · cases home
        exact plain.segments_ok
    · cases home
      exact plain.segments_ok
  unfold resolve at ran
  split at ran
  · simp at ran
  · dsimp only at ran
    split at ran
    · simp at ran
    · cases ran
      exact ⟨rfl, rfl, by simp [locationOf], resolvePlace_isSegment wellNamed steps⟩

end Disk

end AutomationIndex
