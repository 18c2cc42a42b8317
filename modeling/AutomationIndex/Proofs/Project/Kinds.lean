import AutomationIndex.Proofs.Disk.Replacement
import AutomationIndex.Proofs.Wildcard
import AutomationIndex.Project.Basic

/-! The kinds of files that projects are loaded from, told apart by their names. -/

namespace AutomationIndex

/-- The kinds of files that projects are loaded from. -/
inductive FileKind where
  | project
  | physical
  | configuration
  | cpu
  | settings
  deriving DecidableEq, Repr

namespace FileKind

/-- Whether files of a kind have a name. -/
def names : FileKind → String → Bool
  | project, name => Wildcard.fits name "*.apj"
  | physical, name => name == Project.physicalPackageName
  | configuration, name => name == Configuration.packageName
  | cpu, name => name == Configuration.cpuPackageName
  | settings, name => Wildcard.fits name "*.set"

/-- Whether a place is one for a file of a kind. -/
def isAt (kind : FileKind) (place : Place) : Bool :=
  place.getLast?.any kind.names

/-- No name ends both as a project and as settings do. -/
theorem not_project_and_settings {name : String} (first : project.names name = true)
    (second : settings.names name = true) : False := by
  have project : ".apj".toList <:+ name.toList :=
    (Wildcard.fits_ending_iff (by decide +kernel)).mp first
  have settings : ".set".toList <:+ name.toList :=
    (Wildcard.fits_ending_iff (by decide +kernel)).mp second
  -- Endings of one length are the same ending.
  have same := List.IsSuffix.eq_of_length
    (List.suffix_of_suffix_length_le project settings (by decide)) (by decide)
  revert same
  decide

/-- A name is that of one kind at most. -/
theorem names_unique {kind other : FileKind} {name : String} (first : kind.names name = true)
    (second : other.names name = true) : kind = other := by
  -- A name that is written out is checked against every other kind.
  cases kind with
  | physical | configuration | cpu =>
    obtain rfl := beq_iff_eq.mp first
    clear first
    revert second
    cases other <;> decide +kernel
  | project =>
    cases other with
    | project => rfl
    | settings => exact (not_project_and_settings first second).elim
    | physical | configuration | cpu =>
      obtain rfl := beq_iff_eq.mp second
      revert first
      decide +kernel
  | settings =>
    cases other with
    | settings => rfl
    | project => exact (not_project_and_settings second first).elim
    | physical | configuration | cpu =>
      obtain rfl := beq_iff_eq.mp second
      revert first
      decide +kernel

/-- No file of a kind is an ignore file, and none has a name that leads elsewhere. -/
theorem names_proper {kind : FileKind} {name : String} (named : kind.names name = true) :
    name ≠ ".gitignore" ∧ name ≠ "." ∧ name ≠ ".." := by
  -- Each of the three names is checked against every kind.
  have refused : ∀ kind : FileKind, kind.names ".gitignore" = false ∧ kind.names "." = false ∧
      kind.names ".." = false := by
    intro kind
    cases kind <;> decide +kernel
  obtain ⟨ignore, dot, up⟩ := refused kind
  refine ⟨?_, ?_, ?_⟩ <;> rintro rfl
  · exact absurd named (by simp [ignore])
  · exact absurd named (by simp [dot])
  · exact absurd named (by simp [up])

variable {kind other : FileKind} {place : Place} {disk again : Disk} {name : String}

/-- The place of a file of a kind has a name of that kind. -/
theorem isAt_iff : kind.isAt place = true ↔
    ∃ name, place.getLast? = some name ∧ kind.names name = true := by
  simp [isAt, Option.any_eq_true]

/-- A place of a file of a kind is not one of an ignore file. -/
theorem not_ignoreFile (role : kind.isAt place = true) : place.getLast? ≠ some ".gitignore" := by
  obtain ⟨name, last, named⟩ := isAt_iff.mp role
  rw [last]
  rintro ⟨⟩
  exact (names_proper named).1 rfl

/-- A location with a name of another kind passes the place of a file. -/
theorem passes (same : Disk.SameBut place disk again) (role : kind.isAt place = true)
    (l : Location) (named : other.names name = true) (differ : kind ≠ other) :
    disk.reaches place (l.below [name]) = false := by
  obtain ⟨_, noDot, noUp⟩ := names_proper named
  apply same.passes_of_name noDot noUp
  intro last
  -- Otherwise the last name of the place would be one of both kinds.
  obtain ⟨held, ends, own⟩ := isAt_iff.mp role
  rw [last] at ends
  cases ends
  exact differ (names_unique own named)

end FileKind

end AutomationIndex
