import AutomationIndex.Log
import Mathlib.Data.List.Basic

/-! Laws of computations that log: when sequences of them succeed, and what they record. -/

namespace AutomationIndex

/-- A sequence succeeds when its first part does and then the rest of it. -/
theorem exceptBind_ok_iff {ε α β : Type} {first : Except ε α} {next : α → Except ε β} {b : β} :
    (first >>= next) = .ok b ↔ ∃ a, first = .ok a ∧ next a = .ok b := by
  cases first with
  | error fault => simp [Bind.bind, Except.bind]
  | ok a => simp [Bind.bind, Except.bind]

/-- Seeing a fault as another one does not touch success. -/
theorem mapError_ok_iff {ε δ α : Type} {f : ε → δ} {result : Except ε α} {a : α} :
    result.mapError f = .ok a ↔ result = .ok a := by
  cases result <;> simp [Except.mapError]

/-- Making something else of a result does not touch success. -/
theorem exceptMap_ok_iff {ε α β : Type} {f : α → β} {result : Except ε α} {b : β} :
    result.map f = .ok b ↔ ∃ a, result = .ok a ∧ f a = b := by
  cases result <;> simp [Except.map]

/-- Whether a computation fails with faults of a kind only. -/
def FailsOnly {ε α : Type} (kind : ε → Prop) (result : Except ε α) : Prop :=
  ∀ fault, result = .error fault → kind fault

namespace FailsOnly

variable {ε δ α β : Type} {kind : ε → Prop}

/-- A computation that succeeds does not fail at all. -/
theorem of_ok {result : Except ε α} {a : α} (ran : result = .ok a) : FailsOnly kind result := by
  intro fault failed
  rw [ran] at failed
  cases failed

/-- A sequence fails only where one of its parts does. -/
theorem bind {first : Except ε α} {next : α → Except ε β} (head : FailsOnly kind first)
    (later : ∀ a, first = .ok a → FailsOnly kind (next a)) : FailsOnly kind (first >>= next) := by
  intro fault failed
  -- A failure comes from the head or, after its success, from what follows.
  cases ran : first with
  | error early =>
    rw [ran] at failed
    cases failed
    exact head fault ran
  | ok a =>
    rw [ran] at failed
    exact later a ran fault failed

/-- Faults that are seen as others are of a kind if the others are. -/
theorem mapError {f : ε → δ} {seen : δ → Prop} {result : Except ε α}
    (inner : FailsOnly (fun fault => seen (f fault)) result) :
    FailsOnly seen (result.mapError f) := by
  intro fault failed
  -- The mapped failure is the failure of the inner result.
  cases ran : result with
  | error early =>
    rw [ran] at failed
    cases failed
    exact inner early ran
  | ok a =>
    rw [ran] at failed
    cases failed

end FailsOnly

namespace Logged

variable {ε δ α β : Type}

/-- What a computation found, if it did not fail. -/
def found? (logged : Logged ε (Option α)) : Option α :=
  match logged.result with
  | .ok found => found
  | .error _ => none

@[simp] theorem pure_result (a : α) : (pure a : Logged ε α).result = .ok a := rfl

@[simp] theorem pure_records (a : α) : (pure a : Logged ε α).records = [] := rfl

@[simp] theorem fail_result (fault : ε) : (fail fault : Logged ε α).result = .error fault := rfl

@[simp] theorem fail_records (fault : ε) : (fail fault : Logged ε α).records = [] := rfl

@[simp] theorem ofExcept_result (result : Except ε α) : (ofExcept result).result = result := rfl

@[simp] theorem ofExcept_records (result : Except ε α) : (ofExcept result).records = [] := rfl

@[simp] theorem record_result (level : LogLevel) (speaker message : String) :
    (record level speaker message : Logged ε Unit).result = .ok () := rfl

@[simp] theorem record_records (level : LogLevel) (speaker message : String) :
    (record level speaker message : Logged ε Unit).records = [⟨level, speaker, message⟩] := rfl

@[simp] theorem mapFault_result (f : ε → δ) (logged : Logged ε α) :
    (logged.mapFault f).result = logged.result.mapError f := rfl

/-- Seeing a fault as another one does not touch success. -/
theorem mapFault_ok_iff {f : ε → δ} {logged : Logged ε α} {a : α} :
    (logged.mapFault f).result = .ok a ↔ logged.result = .ok a := by
  rw [mapFault_result, mapError_ok_iff]

@[simp] theorem mapFault_records (f : ε → δ) (logged : Logged ε α) :
    (logged.mapFault f).records = logged.records := rfl

/-- The result of a sequence is the sequence of the results. -/
theorem bind_result (first : Logged ε α) (next : α → Logged ε β) :
    (first >>= next).result = first.result >>= fun a => (next a).result := by
  -- Only the first result decides whether the second computation runs.
  change (andThen first next).result = _
  unfold andThen
  cases first.result <;> rfl

/-- A sequence succeeds when its first part does and then the rest of it. -/
theorem bind_ok_iff {first : Logged ε α} {next : α → Logged ε β} {b : β} :
    (first >>= next).result = .ok b ↔ ∃ a, first.result = .ok a ∧ (next a).result = .ok b := by
  rw [bind_result, exceptBind_ok_iff]

/-- The records of a sequence are those of both parts, where the first one succeeds. -/
theorem bind_records {first : Logged ε α} {next : α → Logged ε β} {a : α}
    (ran : first.result = .ok a) :
    (first >>= next).records = first.records ++ (next a).records := by
  change (andThen first next).records = _
  simp [andThen, ran]

/-- A sequence whose first part succeeds goes on with the second one. -/
theorem bind_of_ok {first : Logged ε α} {next : α → Logged ε β} {a : α}
    (ran : first.result = .ok a) :
    (first >>= next) = ⟨first.records ++ (next a).records, (next a).result⟩ := by
  change andThen first next = _
  simp [andThen, ran]

/-- A sequence whose first part fails ends there. -/
theorem bind_of_error {first : Logged ε α} {next : α → Logged ε β} {fault : ε}
    (failed : first.result = .error fault) : (first >>= next) = ⟨first.records, .error fault⟩ := by
  change andThen first next = _
  simp [andThen, failed]

/-- A sequence comes to the same if it goes on in the same way after a success. -/
theorem bind_congr {first : Logged ε α} {next other : α → Logged ε β}
    (same : ∀ a, first.result = .ok a → next a = other a) : (first >>= next) = first >>= other := by
  cases ran : first.result with
  | error fault => rw [bind_of_error ran, bind_of_error ran]
  | ok a => rw [bind_of_ok ran, bind_of_ok ran, same a ran]

/-- A computation is the one that is run after a first part that only succeeds. -/
theorem bind_eq {first : Logged ε α} {next : α → Logged ε β} {a : α}
    (silent : first.records = []) (ran : first.result = .ok a) : (first >>= next) = next a := by
  change andThen first next = _
  simp [andThen, ran, silent]

/-- A value is found where the computation succeeds with it. -/
theorem found?_eq_some_iff {logged : Logged ε (Option α)} {a : α} :
    logged.found? = some a ↔ logged.result = .ok (some a) := by
  unfold found?
  cases logged.result <;> simp

/-- What a successful computation found. -/
theorem found?_of_ok {logged : Logged ε (Option α)} {found : Option α}
    (ran : logged.result = .ok found) : logged.found? = found := by
  simp [found?, ran]

/-- Seeing a fault as another one does not touch what is found. -/
theorem found?_mapFault (f : ε → δ) (logged : Logged ε (Option α)) :
    (logged.mapFault f).found? = logged.found? := by
  unfold found?
  rw [mapFault_result]
  cases logged.result <;> rfl

/-- Collecting succeeds when every single computation does, with all that they find. -/
theorem collect_ok_iff {f : α → Logged ε (Option β)} {inputs : List α} {outputs : List β} :
    (collect f inputs).result = .ok outputs ↔
      (∀ a ∈ inputs, ∃ found, (f a).result = .ok found) ∧
        outputs = inputs.filterMap fun a => (f a).found? := by
  -- The first input contributes what it finds, and the rest follows by induction.
  induction inputs generalizing outputs with
  | nil => simp [collect, eq_comm]
  | cons a rest ih =>
    simp only [collect, bind_ok_iff, pure_result, Except.ok.injEq, ih]
    constructor
    · rintro ⟨found, ran, others, ⟨all, rfl⟩, rfl⟩
      refine ⟨by simpa using ⟨⟨found, ran⟩, all⟩, ?_⟩
      cases found <;> simp [found?_of_ok ran]
    · rintro ⟨all, rfl⟩
      obtain ⟨⟨found, ran⟩, rest⟩ := List.forall_mem_cons.mp all
      refine ⟨found, ran, _, ⟨rest, rfl⟩, ?_⟩
      cases found <;> simp [found?_of_ok ran]

/-- The records of a successful collection are those of the single computations, in order. -/
theorem collect_records {f : α → Logged ε (Option β)} {inputs : List α}
    (all : ∀ a ∈ inputs, ∃ found, (f a).result = .ok found) :
    (collect f inputs).records = inputs.flatMap fun a => (f a).records := by
  induction inputs with
  | nil => rfl
  | cons a rest ih =>
    obtain ⟨⟨found, ran⟩, others⟩ := List.forall_mem_cons.mp all
    have collected := collect_ok_iff.mpr ⟨others, rfl⟩
    -- Neither the first computation nor the rest of them fails, so both parts are recorded.
    rw [collect, bind_records ran, bind_records collected, ih others]
    simp

/-- Collecting comes to the same where the single computations do. -/
theorem collect_congr {f g : α → Logged ε (Option β)} {inputs : List α}
    (same : ∀ a ∈ inputs, f a = g a) : collect f inputs = collect g inputs := by
  induction inputs with
  | nil => rfl
  | cons a rest ih =>
    obtain ⟨here, later⟩ := List.forall_mem_cons.mp same
    simp only [collect, here, ih later]

/-- Collecting fails only where one of the single computations does. -/
theorem collect_failsOnly {kind : ε → Prop} {f : α → Logged ε (Option β)} {inputs : List α}
    (each : ∀ a ∈ inputs, FailsOnly kind (f a).result) :
    FailsOnly kind (collect f inputs).result := by
  induction inputs with
  | nil => exact FailsOnly.of_ok rfl
  | cons a rest ih =>
    obtain ⟨here, later⟩ := List.forall_mem_cons.mp each
    -- The collection ends at the first computation that fails.
    simp only [collect, bind_result]
    apply here.bind
    intro found _
    apply (ih later).bind
    intro others _
    exact FailsOnly.of_ok rfl

end Logged

end AutomationIndex
