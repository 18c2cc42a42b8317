import AutomationIndex.Disk.Change
import AutomationIndex.Workspace.Index

/-! Sessions: a disk that changes, indexes that are made and asked, and the configured one. -/

namespace AutomationIndex

/-- A disk and the indexes that a program has made. -/
structure Session where
  disk : Disk
  indexes : List Index := []
  /-- The position of the index that has been configured for the whole program. -/
  configured : Option Nat := none

/-- What a program does. Indexes are named by their positions. -/
inductive Action where
  | write (l : Location) (node : Node)
  | delete (l : Location)
  | workFrom (l : Location)
  | create (roots : List Location) (settings : Settings)
  | configure (roots : List Location) (settings : Settings)
  | workspace
  | update (position : Nat)
  | projects (position : Nat)
  | snapshot (position : Nat)
  | projectFor (position : Nat) (l : Location)
  | buildInfo (position : Nat) (l : Location)

/-- What an action comes to. -/
inductive Answer where
  | done
  | index (position : Nat)
  | count (n : Nat)
  | projects (projects : List Project)
  | project (project : Option Project)
  | buildInfo (info : Option BuildInfo)

/-- Why an action fails. -/
inductive ActionFault where
  | disk (fault : DiskFault)
  | index (fault : IndexFault)
  | noIndex

namespace Session

/-- A change of the disk. -/
def change (session : Session) (result : Except DiskFault Disk) :
    Logged ActionFault (Session × Answer) :=
  match result with
  | .ok disk => pure ({ session with disk }, .done)
  | .error fault => .fail (.disk fault)

/-- Makes an index and names its position. -/
def create (session : Session) (roots : List Location) (settings : Settings) :
    Except ActionFault (Session × Nat) :=
  match Index.create session.disk roots settings with
  | .ok index =>
    -- The new index stands last, and its position is the answer.
    .ok ({ session with indexes := session.indexes ++ [index] }, session.indexes.length)
  | .error fault => .error (.index (.resolve fault))

/-- Asks an index, which may be scanned for that. -/
def ask (session : Session) (position : Nat) (use : Index → Logged IndexFault Index)
    (answer : Index → Answer) : Logged ActionFault (Session × Answer) :=
  match session.indexes[position]? with
  | none => .fail .noIndex
  | some index => do
    -- A fault leaves the session as it was: no index is replaced.
    let index ← (use index).mapFault .index
    return ({ session with indexes := session.indexes.set position index }, answer index)

/-- Asks an index about a location. -/
def askAbout (session : Session) (position : Nat) (l : Location)
    (answer : Index → Location → Answer) : Logged ActionFault (Session × Answer) :=
  match Index.queried session.disk l with
  -- The location is resolved first, so a query with an unresolved one starts no scan.
  | .error fault => .fail (.index (.resolve fault))
  | .ok l => session.ask position (·.ensure session.disk) fun index => answer index l

/-- The next state of a session and the answer to an action. A failed action changes nothing. -/
def act (session : Session) : Action → Logged ActionFault (Session × Answer)
  | .write l node => session.change (session.disk.write l node)
  | .delete l => session.change (session.disk.delete l)
  | .workFrom l => session.change (session.disk.workFrom l)
  | .create roots settings => do
    let (session, position) ← .ofExcept (session.create roots settings)
    return (session, .index position)
  | .configure roots settings => do
    -- Only this way of creating an index makes it the session's own.
    let (session, position) ← .ofExcept (session.create roots settings)
    return ({ session with configured := some position }, .index position)
  | .workspace =>
    match session.configured with
    | some position => pure (session, .index position)
    | none => .fail (.index .notConfigured)
  | .update position =>
    session.ask position (·.update session.disk) fun index => .count index.known.length
  | .projects position =>
    session.ask position (·.ensure session.disk) fun index => .projects index.known
  | .snapshot position =>
    session.ask position
      -- The snapshot is asked for as it is, without a scan.
      (fun index => if index.snapshot.isSome then pure index else .fail .notScanned)
      fun index => .projects index.known
  | .projectFor position l =>
    session.askAbout position l fun index l => .project (index.owner? l)
  | .buildInfo position l =>
    session.askAbout position l fun index l => .buildInfo (index.buildInfo? l)

end Session

end AutomationIndex
