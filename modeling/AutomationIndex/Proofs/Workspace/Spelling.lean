import AutomationIndex.Proofs.Disk.Unlinked
import AutomationIndex.Proofs.Workspace.Degradation
import AutomationIndex.Proofs.Workspace.History

/-! Relative and absolute spellings of the location in a query: a relative one is resolved from the
working directory, an absolute one is compared as it is written. -/

namespace AutomationIndex

/-- A beginning whose elements pass a test is one of what is taken while the test passes. -/
theorem prefix_takeWhile_iff {α : Type} {p : α → Bool} {start elements : List α}
    (all : ∀ a ∈ start, p a = true) :
    start <+: elements.takeWhile p ↔ start <+: elements := by
  constructor
  -- All of the start passes the test, so the prefix is not cut short.
  · exact fun begins => begins.trans (List.takeWhile_prefix p)
  · rintro ⟨rest, rfl⟩
    rw [List.takeWhile_append_of_pos all]
    exact List.prefix_append _ _

namespace Location

/-- A location up to the first double dot in it. -/
def beforeUps (l : Location) : Location :=
  { l with segments := l.segments.takeWhile (· != "..") }

variable {outer l : Location}

/-- A location without double dots encloses another one exactly if it encloses what comes before the
first double dot there. -/
theorem encloses_beforeUps_iff (noUps : ∀ name ∈ outer.segments, name ≠ "..") :
    outer.Encloses l.beforeUps ↔ outer.Encloses l := by
  -- A location without steps up encloses only names in front of the first one.
  have all : ∀ name ∈ outer.segments, (name != "..") = true := by simpa using noUps
  have begins : outer.segments <+: l.segments.takeWhile (· != "..") ↔
      outer.segments <+: l.segments := prefix_takeWhile_iff all
  exact ⟨fun encloses => ⟨encloses.style_eq, encloses.drive_eq, encloses.root_eq,
      begins.mp encloses.segments_begin⟩,
    fun encloses => ⟨encloses.style_eq, encloses.drive_eq, encloses.root_eq,
      begins.mpr encloses.segments_begin⟩⟩

/-- What comes before the first double dot of a posix location is one. -/
theorem IsPosix.beforeUps (plain : l.IsPosix) : l.beforeUps.IsPosix :=
  ⟨plain.style_eq, plain.drive_eq, plain.root_cases, fun segment member =>
    plain.segments_ok segment ((List.takeWhile_prefix _).subset member)⟩

/-- A location without double dots is all that comes before the first one. -/
theorem beforeUps_eq_self (noUps : ∀ name ∈ l.segments, name ≠ "..") : l.beforeUps = l := by
  have all : ∀ name ∈ l.segments, (name != "..") = true := by simpa using noUps
  have longer := ((prefix_takeWhile_iff all).mpr List.prefix_rfl).length_le
  have whole := (List.takeWhile_prefix (l := l.segments) (· != "..")).eq_of_length_le longer
  rw [beforeUps, whole]

/-- A relative path is appended to an absolute location segment by segment. -/
theorem join_relative {text : String} (relative : (posix text).root = "") (place : Place) :
    Disk.locationOf place / text = Disk.locationOf (place ++ (posix text).segments) := by
  have drive := (posix_isPosix text).drive_eq
  change (Disk.locationOf place).append (posix text) = _
  simp [append, relative, drive, Disk.locationOf]

end Location

/-- Whether no root of a project and no directory of a configuration is written with a double dot. -/
structure Index.LacksUps (index : Index) : Prop where
  roots : ∀ p ∈ index.known, ∀ name ∈ p.root.segments, name ≠ ".."
  configurations : ∀ p ∈ index.known, ∀ c ∈ p.configurations, ∀ name ∈ c.root.segments, name ≠ ".."

namespace Index

variable {index : Index} {l : Location}

/-- A scan of a well-named disk finds no root and no directory with a double dot. -/
theorem update_lacksUps {disk : Disk} (wellNamed : disk.isWellNamed = true) {before after : Index}
    (plain : ∀ root ∈ before.roots, root.IsPlain) (ran : (before.update disk).result = .ok after) :
    after.LacksUps := by
  obtain ⟨found, searched, _, rfl⟩ :=
    (update_ok_iff fun root member => (plain root member).isRooted).mp ran
  -- Every project lies in the directory of a file that was discovered, which has no dots.
  have origin : ∀ p ∈ (firstPerDirectory found).filterMap (fun file => (Project.load disk file).found?),
      ∃ file place, (Project.load disk file).result = .ok (some p) ∧ file = Disk.locationOf place ∧
        ∀ name ∈ place, name ≠ "." ∧ name ≠ ".." := by
    intro p member
    obtain ⟨file, first, loaded⟩ := mem_loaded.mp member
    obtain ⟨place, written, noDots⟩ :=
      discovered_isPlain wellNamed plain searched file (firstPerDirectory_subset first)
    exact ⟨file, place, loaded, written, noDots⟩
  have roots : ∀ p ∈ (firstPerDirectory found).filterMap (fun file => (Project.load disk file).found?),
      ∀ name ∈ p.root.segments, name ≠ ".." := by
    intro p member name among
    obtain ⟨file, place, loaded, rfl, noDots⟩ := origin p member
    rw [Project.load_root loaded] at among
    exact (noDots name (List.dropLast_subset _ among)).2
  refine ⟨roots, ?_⟩
  intro p member c configured name among
  obtain ⟨file, place, loaded, rfl, _⟩ := origin p member
  obtain ⟨placed, proper⟩ := Project.configuration_origin wellNamed rfl loaded c configured
  rw [placed] at among
  rcases List.mem_append.mp among with outer | inner
  · exact roots p member name outer
  · rcases List.mem_cons.mp inner with rfl | inner
    · decide
    · rw [List.mem_singleton.mp inner]
      exact (noDots_of_isEntryName proper).2

section

variable (laidOut : index.IsLaidOut) (lacksUps : index.LacksUps) (plain : l.IsPosix)

include laidOut lacksUps plain

/-- The owner of a location is the owner of what comes before its first double dot. -/
theorem owner?_beforeUps : index.owner? l.beforeUps = index.owner? l := by
  apply Option.ext
  intro p
  rw [laidOut.owner?_eq_some_iff plain, laidOut.owner?_eq_some_iff plain.beforeUps]
  -- The same roots enclose both locations.
  refine and_congr_right fun known => ?_
  rw [Location.encloses_beforeUps_iff (lacksUps.roots p known)]
  refine and_congr_right fun _ => forall₂_congr fun q member => ?_
  rw [Location.encloses_beforeUps_iff (lacksUps.roots q member)]

/-- What a compiler needs to know about a location is what it needs to know about what comes before
its first double dot. -/
theorem buildInfo?_beforeUps : index.buildInfo? l.beforeUps = index.buildInfo? l := by
  unfold buildInfo?
  rw [owner?_beforeUps laidOut lacksUps plain]
  cases owner : index.owner? l with
  | none => rfl
  | some p =>
    have known := ((laidOut.owner?_eq_some_iff plain).mp owner).1
    have project := laidOut.projects_laidOut p known
    -- The same configuration encloses both locations, and else the active one counts for both.
    have same : p.owner? l.beforeUps = p.owner? l := by
      apply Option.ext
      intro c
      rw [project.owner?_eq_some_iff plain, project.owner?_eq_some_iff plain.beforeUps]
      refine and_congr_right fun member => ?_
      rw [Location.encloses_beforeUps_iff (lacksUps.configurations p known c member)]
    rw [Option.bind_some, Option.bind_some, Project.configurationFor?, Project.configurationFor?,
      same]

end

/-- Whatever disk an index was made on and whenever it was scanned, it is laid out and has no double
dots in its directories. -/
theorem scanned_laidOut {start disk : Disk} (startNamed : start.isWellNamed = true)
    (wellNamed : disk.isWellNamed = true) {texts : List String} {settings : Settings} {made : Index}
    (created : create start (texts.map Location.posix) settings = .ok made)
    {earlier : Option (List Project)}
    (scanned : ({ made with snapshot := earlier }.update disk).result = .ok index) :
    index.IsLaidOut ∧ index.LacksUps := by
  have plain : ∀ root ∈ made.roots, root.IsPlain := create_isPlain created
  have posix : ∀ root ∈ made.roots, root.IsPosix := by
    refine create_isPosix startNamed ?_ created
    intro root member
    obtain ⟨text, _, rfl⟩ := List.mem_map.mp member
    exact Location.posix_isPosix text
  -- What an earlier scan has found does not matter.
  obtain ⟨again, same⟩ : ∃ again : Index, again = { made with snapshot := earlier } := ⟨_, rfl⟩
  have roots : again.roots = made.roots := by rw [same]
  rw [← same] at scanned
  rw [← roots] at plain posix
  exact ⟨update_isLaidOut wellNamed (fun root member => (plain root member).isRooted) posix scanned,
    update_lacksUps wellNamed plain scanned⟩

section

variable {disk : Disk} {text : String}

/-- A relative path below the working directory is written with plain names or dots only. -/
theorem spelled_isPosix (named : disk.isWellNamed = true)
    (relative : (Location.posix text).root = "") :
    (Disk.locationOf disk.working / text).IsPosix := by
  -- The working place holds names of entries, and the segments of a relative location are proper
  -- too.
  rw [Location.join_relative relative]
  simp only [Disk.isWellNamed, Bool.and_eq_true, List.all_eq_true] at named
  exact ⟨rfl, rfl, Or.inr (Or.inl rfl), List.forall_mem_append.mpr
    ⟨fun name member => isSegment_of_isEntryName (named.2 name member),
      (Location.posix_isPosix text).segments_ok⟩⟩

/-- A relative path below the working directory is queried as it is spelled. -/
theorem queried_spelled (relative : (Location.posix text).root = "") :
    queried disk (Disk.locationOf disk.working / text) =
      .ok (Disk.locationOf disk.working / text) := by
  rw [Location.join_relative relative]
  rfl

/-- A relative location is queried as the place that it resolves to. -/
theorem queried_relative (named : disk.isWellNamed = true) (unlinked : disk.root.LacksLinks)
    (relative : (Location.posix text).root = "") (lacks : (Location.posix text).LacksNul) :
    queried disk (Location.posix text) =
      .ok (Disk.locationOf (Disk.plainNames (disk.working ++ (Location.posix text).segments))) := by
  rw [queried, if_neg (by simp [Location.isAbsolute, relative])]
  exact Disk.resolve_relative named unlinked relative lacks

/-- A relative location with a NUL in it is refused. -/
theorem queried_nul (relative : (Location.posix text).root = "")
    (nul : ¬ (Location.posix text).LacksNul) :
    queried disk (Location.posix text) = .error .nullCharacter := by
  have inside : Char.ofNat 0 ∈ (Location.posix text).text.toList := by
    rwa [Location.lacksNul_iff, LacksNul, not_not] at nul
  rw [queried, if_neg (by simp [Location.isAbsolute, relative])]
  simp [Disk.resolve, inside]

/-- Without double dots, what a relative path is spelled as is what it resolves to. -/
theorem spelled_beforeUps (named : disk.isWellNamed = true)
    (relative : (Location.posix text).root = "")
    (noUps : ∀ name ∈ (Location.posix text).segments, name ≠ "..") :
    (Disk.locationOf disk.working / text).beforeUps =
      Disk.locationOf (Disk.plainNames (disk.working ++ (Location.posix text).segments)) := by
  -- Neither the working place nor the segments hold a dot or a step up, so nothing is dropped.
  have noDots : ∀ name ∈ disk.working ++ (Location.posix text).segments,
      name ≠ "." ∧ name ≠ ".." := by
    refine List.forall_mem_append.mpr ⟨Disk.working_noDots named, fun name member => ?_⟩
    have segment := (Location.posix_isPosix text).segments_ok name member
    simp only [isSegment, Bool.and_eq_true, bne_iff_ne] at segment
    exact ⟨segment.1.2, noUps name member⟩
  rw [Location.join_relative relative,
    Location.beforeUps_eq_self fun name member => (noDots name member).2]
  exact congrArg Disk.locationOf (Disk.plainNames_eq_self noDots).symm

end

end Index

namespace Session

variable {session : Session} {position : Nat} {stored index : Index} {l asked : Location}

/-- An index that can be used answers about a location as queries take it. -/
theorem askAbout_of_ok (held : session.indexes[position]? = some stored)
    (ensured : (stored.ensure session.disk).result = .ok index)
    (queried : Index.queried session.disk l = .ok asked) (answer : Index → Location → Answer) :
    (session.askAbout position l answer).result =
      .ok ({ session with indexes := session.indexes.set position index }, answer index asked) := by
  simp only [askAbout, queried]
  exact congrArg Logged.result (ask_of_ok held ensured _)

/-- How the answers to a query about a relative location and to the same query about that location
appended to the working directory compare. The first is about the resolved location, the second about
what comes before the first double dot: both queries agree exactly if the index says the same about
these two, which it does for every location without double dots. A NUL is only refused in a relative
location. -/
theorem spellings_compared {start disk : Disk} (startNamed : start.isWellNamed = true)
    (wellNamed : disk.isWellNamed = true) {texts : List String} {settings : Settings} {made : Index}
    (created : Index.create start (texts.map Location.posix) settings = .ok made)
    (earlier : Option (List Project))
    (scanned : ({ made with snapshot := earlier }.update disk).result = .ok index)
    (held : session.indexes[position]? = some stored)
    (ensured : (stored.ensure session.disk).result = .ok index)
    (askedNamed : session.disk.isWellNamed = true) (unlinked : session.disk.root.LacksLinks)
    (text : String) (relative : (Location.posix text).root = "") :
    let r := Location.posix text
    let spelled := Disk.locationOf session.disk.working / text
    let resolved := Disk.locationOf (Disk.plainNames (session.disk.working ++ r.segments))
    (r.LacksNul →
      ((session.act (.projectFor position r)).result =
        (session.act (.projectFor position spelled)).result ↔
          index.owner? resolved = index.owner? spelled.beforeUps) ∧
      ((session.act (.buildInfo position r)).result =
        (session.act (.buildInfo position spelled)).result ↔
          index.buildInfo? resolved = index.buildInfo? spelled.beforeUps) ∧
      ∃ after, (session.act (.projectFor position r)).result =
          .ok (after, .project (index.owner? resolved)) ∧
        (session.act (.buildInfo position r)).result =
          .ok (after, .buildInfo (index.buildInfo? resolved))) ∧
    ((∀ name ∈ r.segments, name ≠ "..") → spelled.beforeUps = resolved) ∧
    (¬ r.LacksNul → (session.act (.projectFor position r)).result =
      .error (.index (.resolve .nullCharacter))) := by
  intro r spelled resolved
  -- The scanned roots hold no step up, so the lookup of `spelled` sees what comes before its first
  -- one.
  obtain ⟨laidOut, lacksUps⟩ := Index.scanned_laidOut startNamed wellNamed created scanned
  have plain : spelled.IsPosix := Index.spelled_isPosix askedNamed relative
  have absolute : Index.queried session.disk spelled = .ok spelled := Index.queried_spelled relative
  refine ⟨fun lacks => ?_, Index.spelled_beforeUps askedNamed relative, fun nul => ?_⟩
  -- The relative location is resolved, the absolute one is taken as it is spelled.
  · have direct : Index.queried session.disk r = .ok resolved :=
      Index.queried_relative askedNamed unlinked relative lacks
    have project : ∀ l asked, Index.queried session.disk l = .ok asked →
        (session.act (.projectFor position l)).result = .ok ({ session with
          indexes := session.indexes.set position index }, .project (index.owner? asked)) :=
      fun l asked queried => askAbout_of_ok held ensured queried _
    have info : ∀ l asked, Index.queried session.disk l = .ok asked →
        (session.act (.buildInfo position l)).result = .ok ({ session with
          indexes := session.indexes.set position index }, .buildInfo (index.buildInfo? asked)) :=
      fun l asked queried => askAbout_of_ok held ensured queried _
    -- Both actions answer from the same index, so they agree where its two answers do.
    rw [project r resolved direct, project spelled spelled absolute, info r resolved direct,
      info spelled spelled absolute, Index.owner?_beforeUps laidOut lacksUps plain,
      Index.buildInfo?_beforeUps laidOut lacksUps plain]
    exact ⟨by simp, by simp, _, rfl, rfl⟩
  -- A null character is refused before any index is asked.
  · have refused : Index.queried session.disk r = .error .nullCharacter :=
      Index.queried_nul relative nul
    simp [act, askAbout, refused]

/-- Two projects side by side, looked at from within the first one. -/
def pairDisk : Disk where
  root := .directory [("A", .directory [("A.apj", .file "<Project/>".toUTF8.toList)]),
    ("B", .directory [("B.apj", .file "<Project/>".toUTF8.toList)])]
  working := ["A"]

/-- One of the two projects. -/
def pairProject (name : String) : Project :=
  ⟨Project.bareDescriptor [name, name ++ ".apj"], [], none⟩

/-- An index that has found both projects. -/
def pairIndex : Index :=
  Index.atPlaces [["A"], ["B"]] {} (some [pairProject "A", pairProject "B"])

/-- A scan publishes both projects. -/
theorem pairDisk_scanned :
    ((Index.atPlaces [["A"], ["B"]] {} none).update pairDisk).result = .ok pairIndex := by
  have first : (Project.load pairDisk (pairProject "A").descriptor.file).result =
      .ok (some (pairProject "A")) :=
    Project.load_bare (Project.bareDescriptor_loads rfl) rfl (by decide +kernel) (by decide +kernel)
  have second : (Project.load pairDisk (pairProject "B").descriptor.file).result =
      .ok (some (pairProject "B")) :=
    Project.load_bare (Project.bareDescriptor_loads rfl) rfl (by decide +kernel) (by decide +kernel)
  -- Both descriptors are found, each in a directory of its own.
  have searched : (Index.atPlaces [["A"], ["B"]] {} none).discovered pairDisk
      [Disk.locationOf ["A"], Disk.locationOf ["B"]] =
        .ok [(pairProject "A").descriptor.file, (pairProject "B").descriptor.file] := by
    decide +kernel
  exact Index.update_of_loaded (Index.atPlaces_rooted _ _ _) searched (by decide)
    (List.forall_mem_cons.mpr ⟨first, List.forall_mem_singleton.mpr second⟩)

/-- From within the first project, a relative path to the second one belongs to that one, and the
same path appended to the working directory belongs to the first. -/
theorem spellings_differ_pairDisk :
    let session : Session := { disk := pairDisk, indexes := [pairIndex] }
    let spelled := Disk.locationOf pairDisk.working / "../B/main.c"
    ((Index.atPlaces [["A"], ["B"]] {} none).update pairDisk).result = .ok pairIndex ∧
      (session.act (.projectFor 0 (Location.posix "../B/main.c"))).result =
        .ok (session, .project (some (pairProject "B"))) ∧
      (session.act (.projectFor 0 spelled)).result =
        .ok (session, .project (some (pairProject "A"))) :=
  ⟨pairDisk_scanned, rfl, rfl⟩

/-- A path that does not climb belongs to the first project in both spellings. -/
theorem spellings_compared_pairDisk :
    let session : Session := { disk := pairDisk, indexes := [pairIndex] }
    let spelled := Disk.locationOf pairDisk.working / "src/main.c"
    (session.act (.projectFor 0 (Location.posix "src/main.c"))).result =
      (session.act (.projectFor 0 spelled)).result := by
  intro session spelled
  -- The index of the pair is made at the two roots and scanned once.
  have created : Index.create pairDisk (["/A", "/B"].map Location.posix) {} =
      .ok (Index.atPlaces [["A"], ["B"]] {} none) := rfl
  have held : session.indexes[0]? = some pairIndex := rfl
  obtain ⟨agree, plain, _⟩ := spellings_compared (by decide) (by decide) created none
    pairDisk_scanned held rfl (by decide) (Node.lacksLinks_of_targets rfl) "src/main.c" (by decide)
  have lacks : (Location.posix "src/main.c").LacksNul := Location.lacksNul_iff.mpr (by decide)
  rw [(agree lacks).1, plain (by decide)]

end Session

end AutomationIndex
