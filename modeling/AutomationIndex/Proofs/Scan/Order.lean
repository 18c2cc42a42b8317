import AutomationIndex.Proofs.Scan.Found
import Mathlib.Data.List.Sort

/-! The order of a scan: which ways down a tree come before which, and that joined scans keep the
order. -/

namespace AutomationIndex.Scan

/-- Whether a way comes before another in a scan: the files of a directory are in the order of their
names, and come before what the directories in it hold, which are in the same order. -/
def ComesBefore : List String → List String → Prop
  | [first], [second] => first < second
  | [_], _ :: _ :: _ => True
  | first :: next :: rest, second :: other :: others =>
    first < second ∨ first = second ∧ ComesBefore (next :: rest) (other :: others)
  | _, _ => False

/-- No way comes before itself. -/
theorem ComesBefore.irrefl (way : List String) : ¬ ComesBefore way way := by
  -- A way comes before another at the first difference, and from itself it has none.
  induction way with
  | nil => exact id
  | cons name rest ih =>
    cases rest with
    | nil => exact String.lt_irrefl name
    | cons next rest =>
      rintro (before | ⟨-, before⟩)
      · exact String.lt_irrefl name before
      · exact ih before

/-- Of two ways, only one comes before the other. -/
theorem ComesBefore.asymm {first second : List String} (before : ComesBefore first second) :
    ¬ ComesBefore second first := by
  -- The induction follows the names that both ways begin with.
  induction first generalizing second with
  | nil => cases before
  | cons name rest ih =>
    match rest, second, before with
    | [], [other], before => exact String.lt_asymm before
    | [], _ :: _ :: _, _ => exact id
    | next :: rest, other :: following :: others, before =>
      rintro (after | ⟨same, after⟩)
      · rcases before with before | ⟨rfl, -⟩
        · exact String.lt_asymm before after
        · exact String.lt_irrefl _ after
      · subst same
        rcases before with before | ⟨-, before⟩
        · exact String.lt_irrefl _ before
        · exact ih before after

instance : Std.Irrefl ComesBefore := ⟨ComesBefore.irrefl⟩

instance : Std.Antisymm ComesBefore := ⟨fun _ _ before after => absurd after before.asymm⟩

/-- Ways into one directory are ordered by what is under it. -/
theorem ComesBefore.under {name : String} {first second : List String}
    (before : ComesBefore first second) : ComesBefore (name :: first) (name :: second) := by
  match first, second, before with
  | next :: rest, other :: others, before => exact .inr ⟨rfl, before⟩
  | [], _, before => cases before
  | [_], [], before => cases before
  | _ :: _ :: _, [], before => cases before

/-- Ways into two directories are ordered by the names of these. -/
theorem ComesBefore.apart {name other : String} {first second : List String} (less : name < other)
    (inner : first ≠ [] ∧ second ≠ []) : ComesBefore (name :: first) (other :: second) := by
  match first, second, inner with
  | _ :: _, _ :: _, _ => exact .inl less

/-- A file in a directory comes before everything in the directories there. -/
theorem ComesBefore.file {file name : String} {inner : List String} (down : inner ≠ []) :
    ComesBefore [file] (name :: inner) := by
  match inner, down with
  | _ :: _, _ => exact trivial

/-- Whether locations are those of the listed ways, each once, in the order of a scan. -/
def ListsInOrder (place : List String → Location) (listed : List String → Prop)
    (found : List Location) : Prop :=
  ∃ ways : List (List String), found = ways.map place ∧ ways.Pairwise ComesBefore ∧
    ∀ way, way ∈ ways ↔ listed way

namespace ListsInOrder

variable {place : List String → Location} {listed others : List String → Prop}
  {found more : List Location}

/-- What is listed may be told in other words. -/
theorem congr (list : ListsInOrder place listed found) (same : ∀ way, listed way ↔ others way) :
    ListsInOrder place others found := by
  obtain ⟨ways, located, ordered, members⟩ := list
  exact ⟨ways, located, ordered, fun way => (members way).trans (same way)⟩

/-- Lists are joined where everything in the one comes before everything in the other. -/
theorem append (first : ListsInOrder place listed found) (second : ListsInOrder place others more)
    (before : ∀ a b, listed a → others b → ComesBefore a b) :
    ListsInOrder place (fun way => listed way ∨ others way) (found ++ more) := by
  obtain ⟨ways, rfl, ordered, members⟩ := first
  obtain ⟨rest, rfl, after, among⟩ := second
  refine ⟨ways ++ rest, List.map_append.symm, List.pairwise_append.mpr ⟨ordered, after, ?_⟩, ?_⟩
  · exact fun a inFirst b inSecond => before a b ((members a).mp inFirst) ((among b).mp inSecond)
  · -- A way is in the joined list exactly if it is in one of the two.
    intro way
    rw [List.mem_append, members, among]

/-- What is listed under a name is listed with the name before it. -/
theorem under {name : String} (inner : ListsInOrder (fun way => place (name :: way)) listed found) :
    ListsInOrder place (fun way => ∃ below, way = name :: below ∧ listed below) found := by
  obtain ⟨ways, rfl, ordered, members⟩ := inner
  refine ⟨ways.map (name :: ·), by rw [List.map_map]; rfl,
    ordered.map _ fun _ _ before => before.under, fun way => ?_⟩
  simp only [List.mem_map, members, eq_comm, and_comm]

/-- Names in order are listed as ways of one name. -/
theorem names {names : List String} (ordered : names.Pairwise (· < ·)) :
    ListsInOrder place (fun way => ∃ name ∈ names, way = [name])
      (names.map fun name => place [name]) := by
  refine ⟨names.map fun name => [name], by rw [List.map_map]; rfl,
    ordered.map _ fun _ _ before => before, fun way => ?_⟩
  simp only [List.mem_map, eq_comm]

/-- There is only one list of the same ways. -/
theorem unique (list : ListsInOrder place listed found) (again : ListsInOrder place listed more) :
    found = more := by
  obtain ⟨ways, rfl, ordered, members⟩ := list
  obtain ⟨others, rfl, reordered, among⟩ := again
  -- Ways in order are determined by which ones they are.
  rw [ordered.eq_of_mem_iff reordered fun way => (members way).trans (among way).symm]

/-- What passes a test is listed in the order of all. -/
theorem filter (list : ListsInOrder place listed found) (keeps : List String → Bool) :
    ∃ ways : List (List String), found = ways.map place ∧
      ListsInOrder place (fun way => listed way ∧ keeps way = true)
        ((ways.filter keeps).map place) := by
  obtain ⟨ways, rfl, ordered, members⟩ := list
  exact ⟨ways, rfl, ways.filter keeps, rfl, ordered.filter _, fun way => by
    rw [List.mem_filter, members]⟩

/-- Locations that differ with their ways are listed once each. -/
theorem nodup (list : ListsInOrder place listed found) (injective : place.Injective) :
    found.Nodup := by
  obtain ⟨ways, rfl, ordered, -⟩ := list
  -- No way comes before itself, so none is listed twice.
  refine List.Nodup.map injective (ordered.imp ?_)
  rintro a _ before rfl
  exact ComesBefore.irrefl a before

end ListsInOrder

variable {scan : String → Except DiskFault (List Location)} {names : List String}

/-- Joined scans fail where one of them does. -/
theorem joinScans_error {fault : DiskFault} (failed : joinScans scan names = .error fault) :
    ∃ name ∈ names, scan name = .error fault := by
  induction names with
  | nil => cases failed
  | cons name rest ih =>
    unfold joinScans at failed
    cases scanned : scan name with
    | error cause =>
      rw [scanned] at failed
      cases failed
      exact ⟨name, List.mem_cons_self, scanned⟩
    | ok part =>
      -- The first scan has ended, so it is one of the others that failed.
      cases joined : joinScans scan rest with
      | ok others =>
        rw [scanned, joined] at failed
        cases failed
      | error cause =>
        rw [scanned, joined] at failed
        cases failed
        obtain ⟨other, among, failed⟩ := ih joined
        exact ⟨other, List.mem_cons_of_mem name among, failed⟩

/-- Joined scans end only if each of them does. -/
theorem joinScans_ok {found : List Location} (joined : joinScans scan names = .ok found) :
    ∀ name ∈ names, ∃ part, scan name = .ok part := by
  -- The scans run one after the other, and a failing one would have ended the list.
  induction names generalizing found with
  | nil => exact List.forall_mem_nil _
  | cons name rest ih =>
    simp only [joinScans, exceptBind_ok_iff] at joined
    obtain ⟨part, scanned, others, joined, -⟩ := joined
    exact List.forall_mem_cons.mpr ⟨⟨part, scanned⟩, ih joined⟩

/-- Scans for names in order, each of which lists what is under its name, are joined to a list of what
is under the names. -/
theorem joinScans_listsInOrder {place : List String → Location}
    {listed : String → List String → Prop} {found : List Location}
    (ordered : names.Pairwise (· < ·))
    (down : ∀ name ∈ names, ∀ way, listed name way → way ≠ [])
    (each : ∀ name ∈ names, ∀ part, scan name = .ok part →
      ListsInOrder (fun way => place (name :: way)) (listed name) part)
    (joined : joinScans scan names = .ok found) :
    ListsInOrder place (fun way => ∃ name ∈ names, ∃ below, way = name :: below ∧ listed name below)
      found := by
  induction names generalizing found with
  | nil =>
    cases joined
    exact ⟨[], rfl, .nil, by simp⟩
  | cons name rest ih =>
    obtain ⟨first, later⟩ := List.pairwise_cons.mp ordered
    obtain ⟨here, others⟩ := List.forall_mem_cons.mp each
    obtain ⟨downHere, downLater⟩ := List.forall_mem_cons.mp down
    simp only [joinScans, exceptBind_ok_iff, Pure.pure, Except.pure, Except.ok.injEq] at joined
    obtain ⟨part, scanned, remaining, joined, rfl⟩ := joined
    -- What is under the first name comes before what is under the others.
    refine ((here part scanned).under.append (ih later downLater others joined) ?_).congr fun way => ?_
    · rintro a b ⟨inner, rfl, inside⟩ ⟨other, among, below, rfl, deeper⟩
      exact .apart (first other among) ⟨downHere inner inside, downLater other among below deeper⟩
    · rw [List.exists_mem_cons_iff]

end AutomationIndex.Scan
