import AutomationIndex.Proofs.Workspace.Discovery
import Mathlib.Data.List.Induction

/-! Sessions and their histories: an index answers as one would that was made and scanned afresh. -/

namespace AutomationIndex

namespace Index

/-- Adding the files below roots depends on the settings of an index alone. -/
theorem addRoots_settings {index other : Index} (same : index.settings = other.settings)
    (disk : Disk) (files roots : List Location) :
    index.addRoots disk files roots = other.addRoots disk files roots := by
  induction roots generalizing files with
  | nil => rfl
  | cons root rest ih => simp only [addRoots, filesBelow, same, ih]

/-- What a scan does depends on the roots and the settings of an index, and not on earlier scans. -/
theorem update_rescan {index other : Index} (roots : index.roots = other.roots)
    (settings : index.settings = other.settings) (disk : Disk) :
    index.update disk = other.update disk := by
  simp only [update, loadProjects, projectFiles, addRoots_settings settings, roots, settings]

/-- A scan that succeeds leaves the roots and the settings of an index, and a snapshot. -/
theorem update_keeps {index after : Index} {disk : Disk}
    (ran : (index.update disk).result = .ok after) :
    after.roots = index.roots ∧ after.settings = index.settings ∧ after.snapshot.isSome = true := by
  -- A scan only puts a snapshot into the index.
  rw [update_result] at ran
  cases loaded : (index.loadProjects disk).result with
  | error fault => simp [loaded, Except.mapError, Except.map] at ran
  | ok projects =>
    simp only [loaded, Except.mapError, Except.map, Except.ok.injEq] at ran
    subst ran
    exact ⟨rfl, rfl, rfl⟩

end Index

/-- How an index came about: its resolved roots, its settings, and the disk as it was at its last
completed scan, if there was one. -/
structure Life where
  roots : List Location
  settings : Settings
  scannedOn : Option Disk := none

namespace Life

/-- A fresh index with the same roots and settings. -/
def fresh (life : Life) : Index :=
  ⟨life.roots, life.settings, none⟩

/-- Whether an index is as its life makes it: fresh, or what a scan of the disk of its last completed
scan makes of a fresh one. -/
def Explains (life : Life) (index : Index) : Prop :=
  match life.scannedOn with
  | none => index = life.fresh
  | some disk => (life.fresh.update disk).result = .ok index

variable {life : Life} {index : Index}

/-- A scan of an index is one of a fresh index. -/
theorem Explains.update_eq (explains : life.Explains index) (disk : Disk) :
    index.update disk = life.fresh.update disk := by
  unfold Explains at explains
  split at explains
  · rw [explains]
  · -- A scan keeps what a later scan depends on.
    obtain ⟨roots, settings, _⟩ := Index.update_keeps explains
    exact Index.update_rescan roots settings disk

/-- An index has a snapshot exactly if it has completed a scan. -/
theorem Explains.isSome_eq (explains : life.Explains index) :
    index.snapshot.isSome = life.scannedOn.isSome := by
  unfold Explains at explains
  split at explains <;> rename_i scanned
  · -- A fresh index has no snapshot, and a scan always leaves one.
    rw [explains, scanned]
    rfl
  · rw [scanned, (Index.update_keeps explains).2.2]
    rfl

/-- A completed scan starts a new part of the life of an index. -/
theorem Explains.rescan (explains : life.Explains index) {disk : Disk} {after : Index}
    (ran : (index.update disk).result = .ok after) :
    { life with scannedOn := some disk }.Explains after := by
  -- The scan is the same as one of a fresh index.
  rw [explains.update_eq] at ran
  exact ran

end Life

/-- What has happened in a session: how its indexes came about, and which one was configured last. -/
structure History where
  lives : List Life := []
  configured : Option Nat := none

namespace History

/-- The history with an index that is made for some directories, where these can be resolved. -/
def begin (history : History) (disk : Disk) (roots : List Location) (settings : Settings) :
    History :=
  match Index.resolveRoots disk roots with
  | .ok resolved => { history with lives := history.lives ++ [⟨resolved, settings, none⟩] }
  | .error _ => history

/-- The history with a change of the last completed scan of an index. -/
def rescan (history : History) (position : Nat) (scan : Option Disk → Option Disk) : History :=
  { history with
    lives := history.lives.modify position fun life =>
      { life with scannedOn := scan life.scannedOn } }

/-- The history after an action on a disk that does not fail. A query completes a scan only where
there was none. -/
def record (history : History) (disk : Disk) : Action → History
  -- A new index begins a life of its own, without a scan so far.
  | .create roots settings => history.begin disk roots settings
  | .configure roots settings =>
    { history.begin disk roots settings with configured := some history.lives.length }
  -- A scan asked for shows the disk as it stands; a query scans only where none was made yet.
  | .update position => history.rescan position fun _ => some disk
  | .projects position => history.rescan position (·.or (some disk))
  | .projectFor position _ => history.rescan position (·.or (some disk))
  | .buildInfo position _ => history.rescan position (·.or (some disk))
  -- The rest changes the disk or reads without scanning.
  | .write _ _ => history
  | .delete _ => history
  | .workFrom _ => history
  | .workspace => history
  | .snapshot _ => history

end History

namespace Session

/-- The session after an action; one that fails leaves it as it is. -/
def next (session : Session) (action : Action) : Session :=
  match (session.act action).result with
  | .ok (after, _) => after
  | .error _ => session

/-- The history after an action; one that fails leaves it as it is. -/
def recorded (session : Session) (history : History) (action : Action) : History :=
  match (session.act action).result with
  | .ok _ => history.record session.disk action
  | .error _ => history

/-- The session and the history after some actions on a disk, with no index at first. -/
def run (disk : Disk) (actions : List Action) : Session × History :=
  actions.foldl (fun (session, history) action =>
    (session.next action, session.recorded history action)) ({ disk }, {})

/-- Whether the indexes of a session are as its history makes them. -/
structure Remembers (session : Session) (history : History) : Prop where
  length_eq : history.lives.length = session.indexes.length
  explained : ∀ (position : Nat) (life : Life) (index : Index),
    history.lives[position]? = some life → session.indexes[position]? = some index → life.Explains index
  configured_eq : session.configured = history.configured

variable {session : Session} {history : History}

/-- Asking an index succeeds where there is one and its use succeeds; only that index changes. -/
theorem ask_ok_iff {position : Nat} {use : Index → Logged IndexFault Index}
    {answer : Index → Answer} {after : Session} {answered : Answer} :
    (session.ask position use answer).result = .ok (after, answered) ↔
      ∃ index, session.indexes[position]? = some index ∧ ∃ used, (use index).result = .ok used ∧
        after = { session with indexes := session.indexes.set position used } ∧
        answered = answer used := by
  -- The one question is which index stands at the position and whether its use succeeds.
  unfold ask
  cases session.indexes[position]? with
  | none => simp
  | some index =>
    simp only [Logged.bind_ok_iff, Logged.mapFault_result, mapError_ok_iff, Logged.pure_result,
      Except.ok.injEq, Prod.mk.injEq, Option.some.injEq, exists_eq_left']
    constructor
    · rintro ⟨used, ran, rfl, rfl⟩
      exact ⟨used, ran, rfl, rfl⟩
    · rintro ⟨used, ran, rfl, rfl⟩
      exact ⟨used, ran, rfl, rfl⟩

/-- Asking about a location that can be resolved asks the index. -/
theorem askAbout_ok {position : Nat} {l : Location} {answer : Index → Location → Answer}
    {after : Session} {answered : Answer}
    (ran : (session.askAbout position l answer).result = .ok (after, answered)) :
    ∃ asked, (session.ask position (·.ensure session.disk) fun index =>
      answer index asked).result = .ok (after, answered) := by
  -- The location is read first, and a refused one ends the action there.
  unfold askAbout at ran
  split at ran
  · cases ran
  · rename_i asked _
    exact ⟨asked, ran⟩

/-- A change of the disk changes nothing else. -/
theorem change_ok {result : Except DiskFault Disk} {after : Session} {answered : Answer}
    (ran : (session.change result).result = .ok (after, answered)) :
    ∃ disk, after = { session with disk } := by
  unfold change at ran
  split at ran <;> cases ran
  exact ⟨_, rfl⟩

/-- Putting an index where it is changes nothing. -/
theorem set_held {position : Nat} {index : Index}
    (held : session.indexes[position]? = some index) :
    { session with indexes := session.indexes.set position index } = session := by
  obtain ⟨inside, same⟩ := List.getElem?_eq_some_iff.mp held
  rw [← same, List.set_getElem_self]

/-- Making an index adds it after the others. -/
theorem create_ok_iff {roots : List Location} {settings : Settings} {after : Session}
    {position : Nat} : session.create roots settings = .ok (after, position) ↔
      ∃ resolved, Index.resolveRoots session.disk roots = .ok resolved ∧
        after = { session with
          indexes := session.indexes ++ [⟨resolved, settings, none⟩] } ∧
        position = session.indexes.length := by
  unfold create Index.create
  -- Nothing but the resolution of the roots can fail.
  cases Index.resolveRoots session.disk roots with
  | error fault => simp [Bind.bind, Except.bind]
  | ok resolved => simp [Bind.bind, Except.bind, Pure.pure, Except.pure, eq_comm]

/-- A use of an index that its life explains keeps the session in step with its history. -/
theorem Remembers.ask (remembers : session.Remembers history) {position : Nat}
    {index used : Index} (held : session.indexes[position]? = some index)
    (scan : Option Disk → Option Disk)
    (explained : ∀ life : Life, life.Explains index →
      { life with scannedOn := scan life.scannedOn }.Explains used) :
    ({ session with indexes := session.indexes.set position used }).Remembers
      (history.rescan position scan) := by
  refine ⟨by simpa [History.rescan] using remembers.length_eq, ?_, remembers.configured_eq⟩
  intro other life changed lived here
  simp only [History.rescan, List.getElem?_modify, List.getElem?_set] at lived here
  by_cases same : position = other
  · -- The index that was asked has the life with the scan in it.
    subst same
    obtain ⟨inside, _⟩ := List.getElem?_eq_some_iff.mp held
    simp only [if_true, inside, Option.some.injEq] at lived here
    subst here
    obtain ⟨before, present, rfl⟩ := Option.map_eq_some_iff.mp lived
    exact explained before (remembers.explained position before index present held)
  · -- The other lives and the other indexes stay as they were.
    simp only [same, if_false, id_map'] at lived here
    exact remembers.explained other life changed lived here

/-- Making an index keeps the session in step with its history. -/
theorem Remembers.create (remembers : session.Remembers history) {roots : List Location}
    {settings : Settings} {after : Session} {position : Nat}
    (created : session.create roots settings = .ok (after, position)) :
    after.Remembers (history.begin session.disk roots settings) ∧
      position = history.lives.length := by
  -- The life and the index are both added at the end.
  obtain ⟨resolved, ran, rfl, rfl⟩ := create_ok_iff.mp created
  refine ⟨⟨?_, ?_, ?_⟩, remembers.length_eq.symm⟩
  · simp [History.begin, ran, remembers.length_eq]
  · intro position life index lived here
    simp only [History.begin, ran, List.getElem?_append, remembers.length_eq] at lived here
    split at lived <;> rename_i before
    · rw [if_pos before] at here
      exact remembers.explained position life index lived here
    · rw [if_neg before] at here
      -- The last index is fresh, and so is the last life.
      rw [List.getElem?_singleton] at lived here
      split at lived <;> rename_i last
      · rw [if_pos last] at here
        cases lived
        cases here
        rfl
      · simp at lived
  · simp [History.begin, ran, remembers.configured_eq]

/-- Scanning an index unless it was scanned gives it the life with a completed scan in it. -/
theorem ensure_explained {life : Life} {index used : Index} {disk : Disk}
    (explains : life.Explains index) (ran : (index.ensure disk).result = .ok used) :
    { life with scannedOn := life.scannedOn.or (some disk) }.Explains used := by
  have scanned := explains.isSome_eq
  unfold Index.ensure at ran
  split at ran <;> rename_i snapshot
  · -- The snapshot is that of an earlier scan, which is still the last one.
    cases ran
    rw [snapshot] at scanned
    obtain ⟨earlier, same⟩ := Option.isSome_iff_exists.mp scanned.symm
    rw [same, Option.some_or, ← same]
    exact explains
  · -- Without a snapshot there was no scan, so this is the first one.
    have none : life.scannedOn = none := by
      rw [snapshot] at scanned
      exact Option.isNone_iff_eq_none.mp (by simpa using scanned.symm)
    rw [none, Option.none_or]
    exact explains.rescan ran

/-- An action keeps the session in step with its history. -/
theorem Remembers.step (remembers : session.Remembers history) (action : Action) :
    (session.next action).Remembers (session.recorded history action) := by
  unfold next recorded
  cases ran : (session.act action).result with
  | error fault => exact remembers
  | ok answered =>
    obtain ⟨after, answer⟩ := answered
    -- Every kind of action either leaves the indexes alone, adds one, or uses one.
    cases action with
    | write l node =>
      obtain ⟨disk, rfl⟩ := change_ok ran
      exact ⟨remembers.length_eq, remembers.explained, remembers.configured_eq⟩
    | delete l =>
      obtain ⟨disk, rfl⟩ := change_ok ran
      exact ⟨remembers.length_eq, remembers.explained, remembers.configured_eq⟩
    | workFrom l =>
      obtain ⟨disk, rfl⟩ := change_ok ran
      exact ⟨remembers.length_eq, remembers.explained, remembers.configured_eq⟩
    | create roots settings =>
      simp only [act, Logged.bind_ok_iff, Logged.ofExcept_result] at ran
      obtain ⟨⟨made, position⟩, created, same⟩ := ran
      cases same
      exact (remembers.create created).1
    | configure roots settings =>
      simp only [act, Logged.bind_ok_iff, Logged.ofExcept_result] at ran
      obtain ⟨⟨made, position⟩, created, same⟩ := ran
      cases same
      -- Configuring makes an index and points to it.
      obtain ⟨kept, rfl⟩ := remembers.create created
      exact ⟨kept.length_eq, kept.explained, rfl⟩
    | workspace =>
      simp only [act] at ran
      split at ran <;> cases ran
      exact remembers
    | update position =>
      obtain ⟨index, held, used, scanned, rfl, rfl⟩ := ask_ok_iff.mp ran
      exact remembers.ask held (fun _ => some session.disk) fun _ explains =>
        explains.rescan scanned
    | projects position =>
      obtain ⟨index, held, used, scanned, rfl, rfl⟩ := ask_ok_iff.mp ran
      exact remembers.ask held (·.or (some session.disk)) fun _ explains =>
        ensure_explained explains scanned
    | snapshot position =>
      obtain ⟨index, held, used, scanned, rfl, rfl⟩ := ask_ok_iff.mp ran
      -- A snapshot is only looked at, and so nothing is scanned for it.
      split at scanned <;> cases scanned
      change Remembers { session with indexes := session.indexes.set position index } history
      rw [set_held held]
      exact remembers
    | projectFor position l =>
      obtain ⟨_, asked⟩ := askAbout_ok ran
      obtain ⟨index, held, used, scanned, rfl, rfl⟩ := ask_ok_iff.mp asked
      exact remembers.ask held (·.or (some session.disk)) fun _ explains =>
        ensure_explained explains scanned
    | buildInfo position l =>
      obtain ⟨_, asked⟩ := askAbout_ok ran
      obtain ⟨index, held, used, scanned, rfl, rfl⟩ := ask_ok_iff.mp asked
      exact remembers.ask held (·.or (some session.disk)) fun _ explains =>
        ensure_explained explains scanned

/-- At every point of a session, its indexes are as its history makes them. -/
theorem run_remembers (disk : Disk) (actions : List Action) :
    (run disk actions).1.Remembers (run disk actions).2 := by
  -- The induction goes over the beginnings of the session, each one action longer.
  induction actions using List.reverseRecOn with
  | nil =>
    refine ⟨rfl, ?_, rfl⟩
    intro position life index lived
    simp [run] at lived
  | append_singleton earlier action ih =>
    simp only [run, List.foldl_append, List.foldl_cons, List.foldl_nil] at ih ⊢
    exact ih.step action

end Session

/-- What an index can be asked. -/
inductive Query where
  | projects
  | snapshot
  | projectFor (l : Location)
  | buildInfo (l : Location)

namespace Query

/-- The action that asks the index at a position. -/
def about (position : Nat) : Query → Action
  | projects => .projects position
  | snapshot => .snapshot position
  | projectFor l => .projectFor position l
  | buildInfo l => .buildInfo position l

/-- Whether a query does not depend on a working directory. -/
def isAbsolute : Query → Bool
  | projects => true
  | snapshot => true
  | projectFor l => l.isAbsolute
  | buildInfo l => l.isAbsolute

/-- The answer of an index as it is. -/
def answer (index : Index) : Query → Answer
  | projects => .projects index.known
  | snapshot => .projects index.known
  | projectFor l => .project (index.owner? l)
  | buildInfo l => .buildInfo (index.buildInfo? l)

end Query

namespace Session

variable {session : Session} {history : History}

/-- A scanned index answers a query as it is, silently and without a change. -/
theorem act_scanned {position : Nat} {index : Index}
    (held : session.indexes[position]? = some index) (scanned : index.snapshot.isSome = true)
    (query : Query) (absolute : query.isAbsolute = true) :
    session.act (query.about position) = pure (session, query.answer index) := by
  -- There is a snapshot already, so the index is used as it is.
  have ensured : index.ensure session.disk = pure index := by
    obtain ⟨projects, same⟩ := Option.isSome_iff_exists.mp scanned
    simp [Index.ensure, same]
  have kept : ∀ answer : Index → Answer, (do
      let used ← (pure index : Logged IndexFault Index).mapFault .index
      return ({ session with indexes := session.indexes.set position used }, answer used) :
        Logged ActionFault (Session × Answer)) = pure (session, answer index) := by
    intro answer
    rw [Logged.bind_eq rfl rfl, set_held held]
  cases query with
  | projects => simpa only [Query.about, Query.answer, act, ask, held, ensured] using kept _
  | snapshot => simpa only [Query.about, Query.answer, act, ask, held, scanned, if_true] using kept _
  | projectFor l =>
    have queried : Index.queried session.disk l = .ok l := if_pos absolute
    simpa only [Query.about, Query.answer, act, askAbout, queried, ask, held, ensured] using kept _
  | buildInfo l =>
    have queried : Index.queried session.disk l = .ok l := if_pos absolute
    simpa only [Query.about, Query.answer, act, askAbout, queried, ask, held, ensured] using kept _

/-- Asking an index whose use succeeds records what the use does. -/
theorem ask_of_ok {position : Nat} {index used : Index} {use : Index → Logged IndexFault Index}
    (held : session.indexes[position]? = some index) (ran : (use index).result = .ok used)
    (answer : Index → Answer) :
    session.ask position use answer = ⟨(use index).records,
      .ok ({ session with indexes := session.indexes.set position used }, answer used)⟩ := by
  unfold ask
  -- The held index is used, and its success is the answer's.
  simp only [held]
  rw [Logged.bind_of_ok (mapError_ok_iff.mpr ran)]
  simp

/-- Asking an index whose use fails records what the use does. -/
theorem ask_of_error {position : Nat} {index : Index} {use : Index → Logged IndexFault Index}
    {fault : IndexFault} (held : session.indexes[position]? = some index)
    (failed : (use index).result = .error fault) (answer : Index → Answer) :
    session.ask position use answer = ⟨(use index).records, .error (.index fault)⟩ := by
  unfold ask
  -- A failing use loses the session's change with it.
  simp only [held]
  rw [Logged.bind_of_error (by rw [Logged.mapFault_result, failed]; rfl)]
  rfl

/-- An index that was never scanned is scanned for a query, once, and then answers it. -/
theorem act_unscanned {position : Nat} {index : Index}
    (held : session.indexes[position]? = some index) (fresh : index.snapshot = none)
    (query : Query) (scans : query ≠ .snapshot) (absolute : query.isAbsolute = true) :
    session.act (query.about position) =
        (session.act (.update position) >>= fun (scanned, _) =>
          scanned.act (query.about position)) ∧
      (session.act (query.about position)).records = (index.update session.disk).records := by
  -- There is no snapshot yet, so the index is scanned first.
  have ensured : index.ensure session.disk = index.update session.disk := by
    simp [Index.ensure, fresh]
  -- Every query but the one for the snapshot asks the index in this way.
  have asked : session.act (query.about position) =
      session.ask position (·.ensure session.disk) fun index => query.answer index := by
    cases query with
    | projects => rfl
    | snapshot => exact absurd rfl scans
    | projectFor l =>
      have queried : Index.queried session.disk l = .ok l := if_pos absolute
      simp only [Query.about, Query.answer, act, askAbout, queried]
    | buildInfo l =>
      have queried : Index.queried session.disk l = .ok l := if_pos absolute
      simp only [Query.about, Query.answer, act, askAbout, queried]
  rw [asked]
  -- A scan that fails leaves no answer, whether or not it was asked for.
  cases ran : (index.update session.disk).result with
  | error fault =>
    rw [ask_of_error held (ensured ▸ ran), ensured]
    refine ⟨?_, rfl⟩
    have updated : session.act (.update position) =
        ⟨(index.update session.disk).records, .error (.index fault)⟩ := ask_of_error held ran _
    rw [updated, Logged.bind_of_error rfl]
  | ok used =>
    rw [ask_of_ok held (ensured ▸ ran), ensured]
    refine ⟨?_, rfl⟩
    have updated : session.act (.update position) = ⟨(index.update session.disk).records,
        .ok ({ session with indexes := session.indexes.set position used },
          .count used.known.length)⟩ := ask_of_ok held ran _
    -- After the scan, the query finds a snapshot and does not scan again.
    obtain ⟨inside, _⟩ := List.getElem?_eq_some_iff.mp held
    have here : ({ session with indexes := session.indexes.set position used } :
        Session).indexes[position]? = some used := by
      simp [inside]
    have answered := act_scanned here (Index.update_keeps ran).2.2 query absolute
    rw [updated, Logged.bind_of_ok rfl]
    simp [answered]

end Session

/-- The index that an action asks. -/
def Action.asked? : Action → Option Nat
  | .update position => some position
  | .projects position => some position
  | .snapshot position => some position
  | .projectFor position _ => some position
  | .buildInfo position _ => some position
  | .write _ _ => none
  | .delete _ => none
  | .workFrom _ => none
  | .create _ _ => none
  | .configure _ _ => none
  | .workspace => none

namespace Session

variable {session : Session}

/-- Asking one index leaves the others as they are. -/
theorem ask_others {position other : Nat} {use : Index → Logged IndexFault Index}
    {answer : Index → Answer} {after : Session} {answered : Answer} (apart : position ≠ other)
    (ran : (session.ask position use answer).result = .ok (after, answered)) :
    after.indexes[other]? = session.indexes[other]? := by
  obtain ⟨index, _, used, _, rfl, _⟩ := ask_ok_iff.mp ran
  exact List.getElem?_set_ne apart

/-- An action changes no index but the one that it asks. -/
theorem next_others {action : Action} {position : Nat} {index : Index}
    (held : session.indexes[position]? = some index) (apart : action.asked? ≠ some position) :
    (session.next action).indexes[position]? = some index := by
  rw [← held]
  have other : ∀ asked, some asked ≠ some position → asked ≠ position := by
    rintro asked differ rfl
    exact differ rfl
  unfold next
  cases ran : (session.act action).result with
  | error fault => rfl
  | ok answered =>
    obtain ⟨after, answer⟩ := answered
    cases action with
    | write l node =>
      obtain ⟨disk, rfl⟩ := change_ok ran
      rfl
    | delete l =>
      obtain ⟨disk, rfl⟩ := change_ok ran
      rfl
    | workFrom l =>
      obtain ⟨disk, rfl⟩ := change_ok ran
      rfl
    | create roots settings =>
      simp only [act, Logged.bind_ok_iff, Logged.ofExcept_result] at ran
      obtain ⟨⟨made, position⟩, created, same⟩ := ran
      cases same
      obtain ⟨resolved, _, rfl, _⟩ := create_ok_iff.mp created
      -- A new index comes after all others.
      exact List.getElem?_append_left (List.getElem?_eq_some_iff.mp held).1
    | configure roots settings =>
      simp only [act, Logged.bind_ok_iff, Logged.ofExcept_result] at ran
      obtain ⟨⟨made, position⟩, created, same⟩ := ran
      cases same
      obtain ⟨resolved, _, rfl, _⟩ := create_ok_iff.mp created
      exact List.getElem?_append_left (List.getElem?_eq_some_iff.mp held).1
    | workspace =>
      simp only [act] at ran
      split at ran <;> cases ran
      rfl
    | update asked => exact ask_others (other asked apart) ran
    | projects asked => exact ask_others (other asked apart) ran
    | snapshot asked => exact ask_others (other asked apart) ran
    | projectFor asked l =>
      obtain ⟨_, ran⟩ := askAbout_ok ran
      exact ask_others (other asked apart) ran
    | buildInfo asked l =>
      obtain ⟨_, ran⟩ := askAbout_ok ran
      exact ask_others (other asked apart) ran

/-- At every point of every session, an index that has completed a scan answers as a fresh one with
the same roots and settings would after a scan of the disk as it was then; one that has not is
scanned once for the answer, or has none where only the snapshot is asked for. No action changes an
index that it does not ask, and the configured index is that of the last configuration that did not
fail. -/
theorem run_answers (disk : Disk) (actions : List Action) :
    let session := (run disk actions).1
    let history := (run disk actions).2
    history.lives.length = session.indexes.length ∧
    (∀ (position : Nat) (life : Life) (earlier : Disk), history.lives[position]? = some life →
      life.scannedOn = some earlier → ∀ query : Query, query.isAbsolute = true →
        ∃ answer scanned count, session.act (query.about position) = pure (session, answer) ∧
          (({ disk := earlier, indexes := [life.fresh] } : Session).act (.update 0)).result =
            .ok (scanned, count) ∧
          scanned.act (query.about 0) = pure (scanned, answer)) ∧
    (∀ (position : Nat) (life : Life), history.lives[position]? = some life →
      life.scannedOn = none →
        session.act (.snapshot position) = .fail (.index .notScanned) ∧
        session.next (.snapshot position) = session ∧
        ∀ query : Query, query ≠ .snapshot → query.isAbsolute = true →
          session.act (query.about position) =
              (session.act (.update position) >>= fun (scanned, _) =>
                scanned.act (query.about position)) ∧
            (session.act (query.about position)).records =
              (session.act (.update position)).records) ∧
    (∀ (action : Action) (position : Nat) (index : Index),
      session.indexes[position]? = some index → action.asked? ≠ some position →
        (session.next action).indexes[position]? = some index) ∧
    session.act .workspace =
      match history.configured with
      | some position => pure (session, .index position)
      | none => .fail (.index .notConfigured) := by
  intro session history
  have remembers : session.Remembers history := run_remembers disk actions
  -- Every life is that of an index, which it explains.
  have lived : ∀ (position : Nat) (life : Life), history.lives[position]? = some life →
      ∃ index, session.indexes[position]? = some index ∧ life.Explains index := by
    intro position life present
    have inside := (List.getElem?_eq_some_iff.mp present).1
    rw [remembers.length_eq] at inside
    have held := List.getElem?_eq_getElem inside
    exact ⟨_, held, remembers.explained position life _ present held⟩
  refine ⟨remembers.length_eq, ?_, ?_, fun _ _ _ held apart => next_others held apart, ?_⟩
  · intro position life earlier present scanned query absolute
    obtain ⟨index, held, explains⟩ := lived position life present
    -- The completed scan has left the snapshot that answers.
    have taken : index.snapshot.isSome = true := by rw [explains.isSome_eq, scanned]; rfl
    have ran : (life.fresh.update earlier).result = .ok index := by
      simpa [Life.Explains, scanned] using explains
    have updated : (({ disk := earlier, indexes := [life.fresh] } : Session).act
        (.update 0)).result =
          .ok (({ disk := earlier, indexes := [index] } : Session), .count index.known.length) := by
      rw [act, ask_of_ok rfl ran]
      rfl
    exact ⟨query.answer index, _, _, act_scanned held taken query absolute, updated,
      act_scanned rfl taken query absolute⟩
  · intro position life present fresh
    obtain ⟨index, held, explains⟩ := lived position life present
    have none : index.snapshot = none := by
      rw [← Option.isNone_iff_eq_none, ← Option.not_isSome, explains.isSome_eq, fresh]
      rfl
    -- No scan was completed, so there is no snapshot to tell.
    have failed : session.act (.snapshot position) = .fail (.index .notScanned) := by
      rw [act, ask_of_error held (by simp only [none]; rfl)]
      simp only [none]
      rfl
    refine ⟨failed, by rw [next, failed]; rfl, ?_⟩
    intro query scans absolute
    obtain ⟨same, recorded⟩ := act_unscanned held none query scans absolute
    refine ⟨same, recorded.trans ?_⟩
    cases ran : (index.update session.disk).result with
    | error fault => rw [act, ask_of_error held ran]
    | ok used => rw [act, ask_of_ok held ran]
  · -- The session points to the index that its history says.
    rw [← remembers.configured_eq]
    rfl

end Session

end AutomationIndex
