import Mathlib
import Migration.Proofs.Build.Machine
import Migration.Proofs.Property.Plain

/-!
# Circular inclusions

Scripts that hold nothing but changesets and inclusions of files that they name without properties
form a graph of inclusions.  The main statement, `build_succeeds_iff_no_circle`, says that such a
script can be built if and only if no path through its graph comes back to a file, and that the
build reports such a path otherwise.
-/

namespace Migration.Changelog

/-! ## The graph of inclusions -/

/-- An `include` element of the script at a path that names a file by itself: whatever the
properties are, its attributes give the same file, as such or as seen from the script. -/
structure Names (host : Host) (path : String) (e : Element) (target : String) : Prop where
  isInclude : e.name = "include"
  noBlock : e.block = none
  file : ∃ file relative,
    target = (if relative then Path.relativeTo path file else Path.normalize file) ∧
    ∀ properties, ∃ given,
      Site.attributes { properties, path } (includeSchema host) (some "file") e = .ok given ∧
      given.text? "file" = some file ∧
      (given.flag? "relativeToChangelogFile").getD false = relative

/-- The script at a path includes the one at another. -/
def Includes (host : Host) (path other : String) : Prop :=
  ∃ script, readScript host path none = .ok script ∧ ∃ root ∈ script.elements, ∃ e,
    .element e ∈ root.items ∧ ∃ target, Names host path e target ∧ other = Path.normalize target

/-- The script at a path is reached from a root by inclusions, if by any. -/
abbrev IsReached (host : Host) (root path : String) : Prop :=
  Relation.ReflTransGen (Includes host) root path

/-- Some script that is reached from a root includes itself, by way of others or not. -/
def HasCircle (host : Host) (root : String) : Prop :=
  ∃ path, IsReached host root path ∧ Relation.TransGen (Includes host) path path

/-- A way along inclusions, from a root, that comes back to its last path, and to no other one. -/
structure IsCircle (host : Host) (root path : String) (chain : List String) : Prop where
  starts : chain.head? = some root
  linked : chain.IsChain (Includes host)
  ends : chain.getLast? = some path
  twice : chain.count path = 2
  once : ∀ other ∈ chain, other ≠ path → chain.count other = 1

/-! ## Scripts of changesets and inclusions -/

/-- A root element with arguments that are accepted, whose block has nothing but changesets and
inclusions of scripts that are named by themselves. -/
structure IsPlainRoot (host : Host) (path : String) (root : Element) : Prop where
  named : root.name = "databaseChangeLog"
  arguments : ∃ arguments,
    Site.namedArguments { properties := (startSession host).properties, path } root =
      .ok arguments ∧ ∀ log : Changelog, ∃ after, log.takeArguments arguments = .ok after
  items : ∀ item ∈ root.items, ∃ e, item = .element e ∧
    (e.name = "changeSet" ∨ ∃ target, Names host path e target ∧ Path.isScript target = true)

/-- A file that exists and can be parsed, with plain root elements only. -/
def IsPlainFile (host : Host) (path : String) : Prop :=
  ∃ script, readScript host path none = .ok script ∧ ∀ root ∈ script.elements,
    IsPlainRoot host path root

theorem has_of_text? {attributes : Attributes} {name text : String}
    (found : attributes.text? name = some text) : attributes.has name = true := by
  obtain ⟨value, present, isText⟩ := Option.bind_eq_some_iff.mp found
  cases value with
  | text s => simp [Attributes.has, Attributes.value?, present, Value.isNull]
  | null | bool | int | float | list => cases isText

/-- The only attribute that an inclusion has to have is its file. -/
theorem checkRequired_includeSchema (host : Host) {given : Attributes}
    (found : given.has "file" = true) :
    (includeSchema host).checkRequired "include" none given = .ok () := by
  have required : (includeSchema host).required =
      [{ name := "file", type := .text, required := true }] := by
    unfold includeSchema
    split <;> rfl
  simp [Schema.checkRequired, required, found]

theorem Names.includedFile_eq_ok {host : Host} {path target : String} {e : Element}
    (names : Names host path e target) (properties : PropertyTable) :
    ∃ inclusion, includedFile host { properties, path } e = .ok (target, inclusion) := by
  obtain ⟨file, relative, rfl, attributes⟩ := names.file
  obtain ⟨given, found, isFile, isRelative⟩ := attributes properties
  refine ⟨inclusionOf given, ?_⟩
  have noBlock : withoutBlock e = .ok () := by simp [withoutBlock, names.noBlock]
  have complete := checkRequired_includeSchema host (has_of_text? isFile)
  simp only [includedFile, noBlock, found, complete, isFile, isRelative, bind, Except.bind]
  rfl

theorem Names.unique {host : Host} {path target other : String} {e : Element}
    (names : Names host path e target) (others : Names host path e other) : target = other := by
  obtain ⟨_, found⟩ := names.includedFile_eq_ok {}
  obtain ⟨_, sameFound⟩ := others.includedFile_eq_ok {}
  rw [found] at sameFound
  cases sameFound
  rfl

/-- An element whose only argument is a text without dollar signs names the file of that text. -/
theorem names_of_text (host : Host) (path : String) {e : Element} {file : String}
    (isInclude : e.name = "include") (noBlock : e.block = none)
    (arguments : e.arguments = [⟨none, .str file⟩]) (plain : '$' ∉ file.toList) :
    Names host path e (Path.normalize file) := by
  refine ⟨isInclude, noBlock, file, false, rfl, fun properties => ?_⟩
  refine ⟨NameMap.empty.insert "file" (.text file), ?_, ?_, ?_⟩
  · have call : Site.call { properties, path } e = .ok (.positional [.text file]) := by
      simp [Site.call, arguments, Element.hasPositional, Element.hasNamed, Site.resolveAll,
        Site.resolve, Site.expand, PropertyTable.expand_of_not_mem _ plain, bind, Except.bind, pure,
        Except.pure, Except.map]
    have checked : (includeSchema host).check e.name none [("file", .text file)] =
        .ok (NameMap.empty.insert "file" (.text file)) := rfl
    simp only [Site.attributes, call]
    exact checked
  · rfl
  · rfl

theorem names_of_relative (host : Host) (path : String) {e : Element} {file : String}
    {relative : Bool} (isInclude : e.name = "include") (noBlock : e.block = none)
    (arguments : e.arguments =
      [⟨some "file", .str file⟩, ⟨some "relativeToChangelogFile", .bool relative⟩])
    (plain : '$' ∉ file.toList) :
    Names host path e (if relative then Path.relativeTo path file else Path.normalize file) := by
  refine ⟨isInclude, noBlock, file, relative, rfl, fun properties => ?_⟩
  refine ⟨(NameMap.empty.insert "file" (.text file)).insert "relativeToChangelogFile"
    (.bool relative), ?_, ?_, ?_⟩
  · have call : Site.call { properties, path } e = .ok (.named [("file", .text file),
        ("relativeToChangelogFile", .bool relative)]) := by
      simp [Site.call, arguments, Element.hasPositional, Element.hasNamed, Site.resolveNamed,
        Site.resolve, Site.expand, PropertyTable.expand_of_not_mem _ plain, bind, Except.bind, pure,
        Except.pure, Except.map]
    have checked : (includeSchema host).check e.name none [("file", .text file),
        ("relativeToChangelogFile", .bool relative)] =
        .ok ((NameMap.empty.insert "file" (.text file)).insert "relativeToChangelogFile"
          (.bool relative)) := rfl
    simp only [Site.attributes, call]
    exact checked
  · simp [Attributes.text?, Value.text?]
  · simp [Attributes.flag?, Value.bool?]

/-! ## Ways along inclusions -/

variable {host : Host} {root path : String}

theorem IsReached.isNormalized (normalized : IsNormalized root)
    (reached : IsReached host root path) : IsNormalized path := by
  cases reached with
  | refl => exact normalized
  | tail _ last =>
      obtain ⟨_, _, _, _, _, _, target, _, rfl⟩ := last
      exact ⟨target, rfl⟩

/-- What stands on a way from a root is reached from it. -/
theorem isReached_of_mem {chain : List String} (starts : chain.head? = some root)
    (linked : chain.IsChain (Includes host)) (member : path ∈ chain) :
    IsReached host root path := by
  induction chain generalizing root with
  | nil => cases member
  | cons first rest ih =>
      obtain rfl : first = root := by simpa using starts
      rcases List.mem_cons.mp member with rfl | later
      · exact .refl
      · cases rest with
        | nil => cases later
        | cons second rest =>
            obtain ⟨step, rest'⟩ := List.isChain_cons_cons.mp linked
            exact .head step (ih rfl rest' later)

/-- A way that comes back to its last path shows a circle. -/
theorem IsCircle.hasCircle {chain : List String} (circle : IsCircle host root path chain) :
    HasCircle host root := by
  obtain ⟨init, same⟩ : ∃ init, chain = init ++ [path] := by
    obtain ⟨init, same⟩ := List.getLast?_eq_some_iff.mp circle.ends
    exact ⟨init, same⟩
  subst same
  have inside : path ∈ init := by
    have twice := circle.twice
    simp only [List.count_append, List.count_singleton_self] at twice
    exact List.count_pos_iff.mp (by omega)
  refine ⟨path, isReached_of_mem circle.starts circle.linked (by simp), ?_⟩
  obtain ⟨front, back, rfl⟩ := List.append_of_mem inside
  have linked : (path :: (back ++ [path])).IsChain (Includes host) := by
    have whole := circle.linked
    rw [List.append_assoc] at whole
    exact whole.right_of_append
  cases back with
  | nil =>
      obtain ⟨step, -⟩ := List.isChain_cons_cons.mp linked
      exact .single step
  | cons next back =>
      obtain ⟨step, rest⟩ := List.isChain_cons_cons.mp linked
      refine Relation.TransGen.head' step ?_
      exact isReached_of_mem rfl rest (by simp)

/-- A way without repetitions that would come back shows a circle. -/
theorem isCircle_of_nodup {opened : List String} (distinct : opened.Nodup)
    (starts : opened.head? = some root) (inside : path ∈ opened)
    (linked : (opened ++ [path]).IsChain (Includes host)) :
    IsCircle host root path (opened ++ [path]) := by
  refine ⟨?_, linked, by simp, ?_, ?_⟩
  · cases opened with
    | nil => cases inside
    | cons first rest => simpa using starts
  · rw [List.count_append, List.count_singleton_self, List.count_eq_one_of_mem distinct inside]
  · intro other member different
    have before : other ∈ opened := by
      rcases List.mem_append.mp member with before | last
      · exact before
      · exact absurd (List.mem_singleton.mp last) different
    rw [List.count_append, List.count_eq_one_of_mem distinct before,
      List.count_eq_zero.mpr (by simpa using different)]

/-! ## The tasks of plain files -/

/-- A task that comes from the script at a path. -/
def Task.Belongs (host : Host) (path : String) : Task → Prop
  | .root e => ∃ script, readScript host path none = .ok script ∧ e ∈ script.elements
  | .item _ part => ∃ script, readScript host path none = .ok script ∧
      ∃ e ∈ script.elements, part ∈ e.items
  | .file target _ => Includes host path (Path.normalize target) ∧ Path.isScript target = true

theorem IsPlainFile.isPlainRoot {script : Script} {e : Element} (plain : IsPlainFile host path)
    (read : readScript host path none = .ok script) (member : e ∈ script.elements) :
    IsPlainRoot host path e := by
  obtain ⟨other, sameRead, roots⟩ := plain
  rw [read] at sameRead
  cases sameRead
  exact roots e member

/-- An item of a plain file is a changeset or an inclusion. -/
theorem IsPlainFile.item_spec {line : Nat} {item : Item Element} (plain : IsPlainFile host path)
    (belongs : Task.Belongs host path (.item line item)) :
    ∃ e, item = .element e ∧ (e.name = "changeSet" ∨ ∃ target, Names host path e target ∧
      Path.isScript target = true ∧ Includes host path (Path.normalize target)) := by
  obtain ⟨script, read, root, isRoot, member⟩ := belongs
  obtain ⟨e, rfl, isChangeset | ⟨target, names, isScript⟩⟩ :=
    (plain.isPlainRoot read isRoot).items item member
  · exact ⟨e, rfl, .inl isChangeset⟩
  · exact ⟨e, rfl, .inr ⟨target, names, isScript, script, read, root, isRoot, e, member, target,
      names, rfl⟩⟩

/-- The tasks that a task of a plain file stands for belong to the file, and no properties are
declared. -/
theorem Task.Advances.belongs {log after : Changelog} {session later : Session} {task : Task}
    {more : List Task} (step : Task.Advances host log session task after more later)
    (plain : IsPlainFile host log.physicalPath) (belongs : task.Belongs host log.physicalPath) :
    (∀ other ∈ more, other.Belongs host log.physicalPath) ∧
      later.properties = session.properties := by
  cases step with
  | @root e _ _ named given taken =>
      obtain ⟨script, read, member⟩ := belongs
      refine ⟨?_, rfl⟩
      intro other isItem
      obtain ⟨item, inside, rfl⟩ := List.mem_map.mp isItem
      exact ⟨script, read, e, member, inside⟩
  | changeset => exact ⟨by simp, rfl⟩
  | inclusion named found =>
      obtain ⟨e, same, isChangeset | ⟨target, names, isScript, includes⟩⟩ := plain.item_spec belongs
      · cases same
        rw [named] at isChangeset
        exact absurd isChangeset (by decide)
      · cases same
        obtain ⟨inclusion, sameFound⟩ := names.includedFile_eq_ok session.properties
        have both := found.symm.trans sameFound
        cases both
        exact ⟨by simpa [Task.Belongs] using ⟨includes, isScript⟩, rfl⟩
  | inclusions named | properties named | preconditions named =>
      obtain ⟨e, same, isChangeset | ⟨target, names, -⟩⟩ := plain.item_spec belongs
      · cases same
        rw [named] at isChangeset
        exact absurd isChangeset (by decide)
      · cases same
        have isInclude := names.isInclude
        rw [named] at isInclude
        exact absurd isInclude (by decide)

/-- A task of a plain file does not fail if its changeset, should it have one, can be built. -/
theorem Task.perform_ne_failure {log : Changelog} {session : Session} {task : Task}
    {error : BuildError} (plain : IsPlainFile host log.physicalPath)
    (belongs : task.Belongs host log.physicalPath)
    (properties : session.properties = (startSession host).properties)
    (builds : ∀ line e, task = .item line (.element e) → e.name = "changeSet" →
      ∃ built, Changeset.ofElement host session.properties log e = .ok built) :
    task.perform host log session ≠ .failure error := by
  intro step
  cases task with
  | root e =>
      obtain ⟨script, read, member⟩ := belongs
      obtain ⟨named, ⟨arguments, given, accepted⟩, -⟩ := plain.isPlainRoot read member
      obtain ⟨after, taken⟩ := accepted log
      rw [← properties] at given
      have known : (log.siteIn session).namedArguments e = .ok arguments := given
      simp [perform, named, known, taken, bind, Except.bind, Outcome.ofExcept] at step
  | item line item =>
      obtain ⟨e, rfl, isChangeset | ⟨target, names, -⟩⟩ := plain.item_spec belongs
      · obtain ⟨built, known⟩ := builds line e rfl isChangeset
        simp [perform, performElement, isChangeset, known, Outcome.ofExcept] at step
      · obtain ⟨inclusion, found⟩ := names.includedFile_eq_ok session.properties
        have known : includedFile host (log.siteIn session) e = .ok (target, inclusion) := found
        simp [perform, performElement, names.isInclude, known, Outcome.ofExcept] at step
  | file target inclusion =>
      obtain ⟨-, isScript⟩ := belongs
      simp [perform, isScript] at step

/-! ## The way of a build along the inclusions -/

namespace Machine

/-- The paths that a machine is in, and that of the script that it is about to enter. -/
def trail : Machine → List String
  | .working (.file path source arguments) frames session =>
      paths (.working (.file path source arguments) frames session) ++ [Path.normalize path]
  | machine => machine.paths

/-- What a machine is about to do in a graph of inclusions. -/
def IsPlain (host : Host) (root : String) : Machine → Prop
  | .working (.file _ source arguments) _ _ => source = none ∧ arguments = []
  | .working (.rest log tasks) _ _ => ∀ task ∈ tasks, task.Belongs host log.physicalPath
  | .returning result _ _ => ∀ error, result = .error error →
      ∃ path chain, error = .circularInclude path chain ∧ IsCircle host root path chain

/-- The invariant of a build in a graph of inclusions: the machine is on a way along inclusions from
the root, no properties are declared, and the only errors are circles. -/
structure OnTrail (host : Host) (root : String) (machine : Machine) : Prop where
  properties : machine.session.properties = (startSession host).properties
  starts : ∀ first, machine.trail.head? = some first → first = root
  linked : machine.trail.IsChain (Includes host)
  frames : ∀ frame ∈ machine.frames, ∀ task ∈ frame.tasks,
    task.Belongs host frame.log.physicalPath
  plain : machine.IsPlain host root

/-- Where a machine is can be reached. -/
theorem OnTrail.isReached {machine : Machine} (onTrail : machine.OnTrail host root)
    (member : path ∈ machine.trail) : IsReached host root path := by
  cases isTrail : machine.trail with
  | nil => simp [isTrail] at member
  | cons first rest =>
      obtain rfl := onTrail.starts first (by simp [isTrail])
      exact isReached_of_mem (by simp [isTrail]) onTrail.linked member

theorem onTrail_start (host : Host) (path : String) :
    (start host path none []).OnTrail host (Path.normalize path) := by
  refine ⟨rfl, ?_, ?_, ?_, rfl, rfl⟩
  · intro first same
    simpa [start, trail, paths, eq_comm] using same
  · simp [start, trail, paths]
  · simp [start, Machine.frames]

/-- Leaving a script leaves the rest of the way. -/
theorem onTrail_returning (log : Changelog) {frames : List Frame} {session : Session}
    {result : Except BuildError Changelog}
    (properties : session.properties = (startSession host).properties)
    (starts : ∀ first, ((frames.map (·.log.physicalPath)).reverse ++
      [log.physicalPath]).head? = some first → first = root)
    (linked : ((frames.map (·.log.physicalPath)).reverse ++
      [log.physicalPath]).IsChain (Includes host))
    (belong : ∀ frame ∈ frames, ∀ task ∈ frame.tasks, task.Belongs host frame.log.physicalPath)
    (plain : (returning result frames session.closed).IsPlain host root) :
    (returning result frames session.closed).OnTrail host root := by
  refine ⟨properties, ?_, linked.left_of_append, belong, plain⟩
  intro first same
  have before : (frames.map (·.log.physicalPath)).reverse.head? = some first := same
  exact starts first (by rw [List.head?_append, before]; rfl)

/-- Whether the changeset that a machine comes to next, if it is one, can be built there. -/
def ChangesetBuilds (host : Host) (machine : Machine) : Prop :=
  ∀ log line e tasks frames session,
    machine = .working (.rest log (.item line (.element e) :: tasks)) frames session →
    e.name = "changeSet" → ∃ built, Changeset.ofElement host session.properties log e = .ok built

variable {configuration : Configuration} {catalog : Catalog} {files : MemoryStore}
  {isPattern : String → Bool}

/-- A script that is open already closes a circle. -/
theorem OnTrail.isCircle {source : Option String} {arguments : List (String × Value)}
    {frames : List Frame} {session : Session} (normalized : IsNormalized root)
    (invariant : (working (.file path source arguments) frames session).Invariant files)
    (onTrail : (working (.file path source arguments) frames session).OnTrail
      (.ofMemory configuration catalog files isPattern) root)
    (isOpen : session.openFiles.any (Path.same · (Path.normalize path)) = true) :
    IsCircle (.ofMemory configuration catalog files isPattern) root (Path.normalize path)
      (session.openFiles ++ [Path.normalize path]) := by
  have openFiles := invariant.openFiles
  have distinct := invariant.areOpen.distinct
  simp only [Machine.session, paths] at openFiles distinct
  obtain ⟨other, inside, same⟩ := List.any_eq_true.mp isOpen
  rw [openFiles] at inside distinct ⊢
  have onWay : other ∈ (working (.file path source arguments) frames session).trail :=
    List.mem_append_left _ inside
  obtain ⟨raw, rfl⟩ := (onTrail.isReached onWay).isNormalized normalized
  rw [(Path.same_normalize raw path).mp same] at inside
  refine isCircle_of_nodup distinct ?_ inside onTrail.linked
  obtain ⟨first, isFirst⟩ :=
    Option.isSome_iff_exists.mp (List.isSome_head?.mpr (List.ne_nil_of_mem inside))
  rw [isFirst, onTrail.starts first (by rw [trail, paths, List.head?_append, isFirst]; rfl)]

/-- A script is entered, or closes a circle. -/
theorem onTrail_entering {source : Option String} {arguments : List (String × Value)}
    {frames : List Frame} {session : Session}
    (plain : ∀ path, IsReached (.ofMemory configuration catalog files isPattern) root path →
      IsPlainFile (.ofMemory configuration catalog files isPattern) path)
    (normalized : IsNormalized root)
    (invariant : (working (.file path source arguments) frames session).Invariant files)
    (onTrail : (working (.file path source arguments) frames session).OnTrail
      (.ofMemory configuration catalog files isPattern) root) :
    ((working (.file path source arguments) frames session).step
      (.ofMemory configuration catalog files isPattern)).OnTrail
        (.ofMemory configuration catalog files isPattern)
        root := by
  have closes := onTrail.isCircle normalized invariant
  have here : Path.normalize path ∈ (working (.file path source arguments) frames session).trail :=
    by simp [trail]
  obtain ⟨script, read, -⟩ := plain (Path.normalize path) (onTrail.isReached here)
  obtain ⟨properties, starts, linked, belong, rfl, rfl⟩ := onTrail
  rw [step]
  cases isOpen : session.openFiles.any (Path.same · (Path.normalize path)) with
  | true =>
      have entry : enter (.ofMemory configuration catalog files isPattern) path none [] session =
          .error (.circularInclude (Path.normalize path)
            (session.openFiles ++ [Path.normalize path])) := by simp [enter, isOpen]
      rw [entry]
      refine ⟨properties, ?_, linked.left_of_append, belong, ?_⟩
      · intro first isFirst
        replace isFirst : (frames.map (·.log.physicalPath)).reverse.head? = some first := isFirst
        exact starts first (by rw [trail, paths, List.head?_append, isFirst]; rfl)
      · rintro error ⟨⟩
        exact ⟨_, _, rfl, closes isOpen⟩
  | false =>
      have entry : enter (.ofMemory configuration catalog files isPattern) path none [] session =
          .ok ({ physicalPath := Path.normalize path }, script.elements.map .root) := by
        simp [enter, isOpen, read, takeArguments_nil, bind, Except.bind, pure, Except.pure]
      rw [entry]
      refine ⟨properties, starts, linked, belong, ?_⟩
      intro task member
      obtain ⟨e, isRoot, rfl⟩ := List.mem_map.mp member
      exact ⟨script, read, isRoot⟩

/-- A task is done, or leads to a file that the changelog includes. -/
theorem onTrail_performing {log : Changelog} {task : Task} {tasks : List Task}
    {frames : List Frame} {session : Session}
    (plain : ∀ path, IsReached (.ofMemory configuration catalog files isPattern) root path →
      IsPlainFile (.ofMemory configuration catalog files isPattern) path)
    (builds : (working (.rest log (task :: tasks)) frames session).ChangesetBuilds
      (.ofMemory configuration catalog files isPattern))
    (onTrail : (working (.rest log (task :: tasks)) frames session).OnTrail
      (.ofMemory configuration catalog files isPattern) root) :
    ((working (.rest log (task :: tasks)) frames session).step
      (.ofMemory configuration catalog files isPattern)).OnTrail
        (.ofMemory configuration catalog files isPattern)
        root := by
  have file := plain log.physicalPath (onTrail.isReached (by simp [trail, paths]))
  obtain ⟨properties, starts, linked, belong, isPlain⟩ := onTrail
  have first := isPlain task List.mem_cons_self
  have others : ∀ other ∈ tasks, other.Belongs (.ofMemory configuration catalog files isPattern)
      log.physicalPath := fun other member => isPlain other (List.mem_cons_of_mem task member)
  rw [step]
  cases outcome : task.perform (.ofMemory configuration catalog files isPattern) log session with
  | failure error =>
      refine absurd outcome (Task.perform_ne_failure file first properties ?_)
      rintro line e rfl isChangeset
      exact builds log line e tasks frames session rfl isChangeset
  | advance after more later =>
      have advances := Task.perform_advances outcome
      obtain ⟨new, sameProperties⟩ := advances.belongs file first
      refine ⟨sameProperties.trans properties, ?_, ?_, belong, ?_⟩
      · simpa [trail, paths, advances.physicalPath] using starts
      · simpa [trail, paths, advances.physicalPath] using linked
      · intro other member
        rw [advances.physicalPath]
        rcases List.mem_append.mp member with isNew | old
        · exact new other isNew
        · exact others other old
  | visit target inclusion =>
      obtain ⟨rfl, -⟩ := Task.perform_visits outcome
      refine ⟨properties, ?_, ?_, ?_, rfl, rfl⟩
      · intro first isFirst
        refine starts first ?_
        simpa [trail, paths, List.head?_append] using isFirst
      · have whole : (paths (.working (.rest log (.file target inclusion :: tasks)) frames
            session) ++ [Path.normalize target]).IsChain
              (Includes (.ofMemory configuration catalog files isPattern)) := by
          refine List.isChain_append.mpr ⟨linked, List.isChain_singleton _, ?_⟩
          intro last isLast next isNext
          obtain rfl : log.physicalPath = last := by simpa [paths] using isLast
          obtain rfl : Path.normalize target = next := by simpa using isNext
          exact first.1
        simpa [trail, paths] using whole
      · intro frame member
        rcases List.mem_cons.mp member with rfl | outer
        · exact others
        · exact belong frame outer

theorem onTrail_step {machine : Machine}
    (plain : ∀ path, IsReached (.ofMemory configuration catalog files isPattern) root path →
      IsPlainFile (.ofMemory configuration catalog files isPattern) path)
    (normalized : IsNormalized root) (invariant : machine.Invariant files)
    (builds : machine.ChangesetBuilds (.ofMemory configuration catalog files isPattern))
    (onTrail : machine.OnTrail (.ofMemory configuration catalog files isPattern) root) :
    (machine.step (.ofMemory configuration catalog files isPattern)).OnTrail
      (.ofMemory configuration catalog files isPattern) root := by
  match machine with
  | .working (.file path source arguments) frames session =>
      exact onTrail_entering plain normalized invariant onTrail
  | .working (.rest log (task :: tasks)) frames session =>
      exact onTrail_performing plain builds onTrail
  | .working (.rest log []) frames session =>
      obtain ⟨properties, starts, linked, belong, -⟩ := onTrail
      exact onTrail_returning _ properties starts linked belong (by simp [IsPlain])
  | .returning (.ok child) (frame :: frames) session =>
      obtain ⟨properties, starts, linked, belong, -⟩ := onTrail
      refine ⟨properties, ?_, ?_, ?_, ?_⟩
      · simpa [step, trail, paths, splice] using starts
      · simpa [step, trail, paths, splice] using linked
      · exact fun other member => belong other (List.mem_cons_of_mem frame member)
      · exact belong frame List.mem_cons_self
  | .returning (.error error) (frame :: frames) session =>
      obtain ⟨properties, starts, linked, belong, isPlain⟩ := onTrail
      refine onTrail_returning frame.log properties ?_ ?_ ?_ isPlain
      · simpa [trail, paths] using starts
      · simpa [trail, paths] using linked
      · exact fun other member => belong other (List.mem_cons_of_mem frame member)
  | .returning (.ok log) [] session | .returning (.error error) [] session => exact onTrail

theorem onTrail_run {path : String}
    (plain : ∀ file,
      IsReached (.ofMemory configuration catalog files isPattern) (Path.normalize path) file →
        IsPlainFile (.ofMemory configuration catalog files isPattern) file)
    (builds : ∀ steps,
      ((start (.ofMemory configuration catalog files isPattern) path none []).run
        (.ofMemory configuration catalog files isPattern) steps).OnTrail
          (.ofMemory configuration catalog files isPattern) (Path.normalize path) →
      ((start (.ofMemory configuration catalog files isPattern) path none []).run
        (.ofMemory configuration catalog files isPattern) steps).ChangesetBuilds
          (.ofMemory configuration catalog files isPattern)) (steps : Nat) :
    ((start (.ofMemory configuration catalog files isPattern) path none []).run
      (.ofMemory configuration catalog files isPattern) steps).OnTrail
        (.ofMemory configuration catalog files isPattern) (Path.normalize path) := by
  induction steps with
  | zero => exact onTrail_start _ path
  | succ steps ih =>
      have invariant : ((start (.ofMemory configuration catalog files isPattern) path none []).run
          (.ofMemory configuration catalog files isPattern) steps).Invariant files :=
        invariant_run (invariant_start _ path none []) steps
      rw [run_add]
      exact onTrail_step plain ⟨path, rfl⟩ invariant (builds steps ih) ih

end Machine

/-- Each changeset that the build of a root script comes to can be built there. -/
def ChangesetsBuild (host : Host) (path : String) : Prop :=
  ∀ steps, ((Machine.start host path none []).run host steps).ChangesetBuilds host

/-! ## Builds that succeed -/

/-- A run leaves the open files as they were. -/
theorem Runs.openFiles {job : Job} {session last : Session} {result : Except BuildError Changelog}
    (run : Runs host job session result last) : last.openFiles = session.openFiles := by
  induction run with
  | refused | finished | failed => rfl
  | entered entry _ ih => simp [ih]
  | advanced step _ ih => exact ih.trans (Task.perform_advances step).openFiles
  | broken step _ ih => exact ih
  | returned step _ _ ihCall ihRest => exact ihRest.trans ihCall

/-- A task that leads to a file which is named by itself. -/
def Task.LeadsTo (host : Host) (path target : String) : Task → Prop
  | .root e => ∃ child, .element child ∈ e.items ∧ Names host path child target
  | .item _ (.element e) => Names host path e target
  | .item _ (.text _) => False
  | .file other _ => other = target

/-- The tasks that a task stands for lead to the same files. -/
theorem Task.Advances.leadsTo {log after : Changelog} {session later : Session} {task : Task}
    {more : List Task} {target : String}
    (step : Task.Advances host log session task after more later)
    (leads : task.LeadsTo host log.physicalPath target) :
    ∃ other ∈ more, other.LeadsTo host log.physicalPath target := by
  cases step with
  | root named given taken =>
      obtain ⟨child, inside, names⟩ := leads
      exact ⟨_, List.mem_map.mpr ⟨_, inside, rfl⟩, names⟩
  | inclusion named found =>
      have names : Names host log.physicalPath _ target := leads
      obtain ⟨inclusion, sameFound⟩ := names.includedFile_eq_ok session.properties
      have both := found.symm.trans sameFound
      cases both
      exact ⟨_, List.mem_cons_self, rfl⟩
  | changeset named | inclusions named | properties named | preconditions named =>
      have names : Names host log.physicalPath _ target := leads
      have isInclude := names.isInclude
      rw [named] at isInclude
      exact absurd isInclude (by decide)

/-- A changelog that is built has read every file that its tasks lead to. -/
theorem Runs.visits {job : Job} {session last : Session} {result : Except BuildError Changelog}
    (run : Runs host job session result last) {final : Changelog} (succeeded : result = .ok final)
    {log : Changelog} {tasks : List Task} (isRest : job = .rest log tasks) {task : Task}
    (member : task ∈ tasks) {target : String} (leads : task.LeadsTo host log.physicalPath target) :
    ∃ before child after, Runs host (.file target none []) before (.ok child) after ∧
      before.openFiles = session.openFiles := by
  induction run generalizing log tasks task final with
  | refused | failed | broken => cases succeeded
  | entered => cases isRest
  | finished =>
      cases isRest
      cases member
  | @advanced _ _ first _ _ _ _ _ _ step _ ih =>
      cases isRest
      have advances := Task.perform_advances step
      rw [← advances.physicalPath] at leads
      rw [← advances.openFiles]
      rcases List.mem_cons.mp member with rfl | later
      · rw [advances.physicalPath] at leads
        obtain ⟨other, new, leads⟩ := advances.leadsTo leads
        rw [← advances.physicalPath] at leads
        exact ih succeeded rfl (List.mem_append_left _ new) leads
      · exact ih succeeded rfl (List.mem_append_right _ later) leads
  | returned step call _ _ ihRest =>
      cases isRest
      obtain ⟨rfl, -⟩ := Task.perform_visits step
      rcases List.mem_cons.mp member with rfl | later
      · obtain rfl := leads
        exact ⟨_, _, _, call, rfl⟩
      · obtain ⟨before, child, after, inner, same⟩ := ihRest succeeded rfl later leads
        exact ⟨before, child, after, inner, same.trans call.openFiles⟩

/-- A file that is read and built while some others are open. -/
def IsBuilt (host : Host) (path : String) (opened : List String) : Prop :=
  ∃ target session child last, path = Path.normalize target ∧ session.openFiles = opened ∧
    Runs host (.file target none []) session (.ok child) last

/-- A file that is built is not open yet, and what it includes is built while it is open. -/
theorem IsBuilt.spec {opened : List String} (isBuilt : IsBuilt host path opened) :
    path ∉ opened ∧ ∀ other, Includes host path other → IsBuilt host other (opened ++ [path]) := by
  obtain ⟨target, session, child, last, rfl, rfl, run⟩ := isBuilt
  cases run with
  | entered entry inner =>
      obtain ⟨fresh, taken, script, read, rfl⟩ := enter_eq_ok entry
      refine ⟨not_mem_of_fresh fresh, ?_⟩
      rintro other ⟨same, sameRead, e, isRoot, child', inside, file, names, rfl⟩
      rw [read] at sameRead
      cases sameRead
      have leads : (Task.root e).LeadsTo host (Path.normalize target) file := by
        exact ⟨child', inside, names⟩
      rw [← enter_physicalPath entry] at leads
      obtain ⟨before, grandchild, after, built, sameOpen⟩ := inner.visits rfl rfl
        (List.mem_map.mpr ⟨e, isRoot, rfl⟩) leads
      exact ⟨file, before, grandchild, after, rfl, by simpa using sameOpen, built⟩

theorem IsBuilt.reached {opened : List String} (isBuilt : IsBuilt host root opened)
    (reached : IsReached host root path) : ∃ more, IsBuilt host path more := by
  induction reached with
  | refl => exact ⟨opened, isBuilt⟩
  | tail _ step ih =>
      obtain ⟨more, isBuilt⟩ := ih
      exact ⟨_, isBuilt.spec.2 _ step⟩

/-- A file stays open while what it includes is built. -/
theorem IsBuilt.below {other : String} {opened : List String} (isBuilt : IsBuilt host path opened)
    (below : Relation.TransGen (Includes host) path other) :
    ∃ more, path ∈ more ∧ IsBuilt host other more := by
  induction below with
  | single step => exact ⟨_, by simp, isBuilt.spec.2 _ step⟩
  | tail _ step ih =>
      obtain ⟨more, inside, isBuilt⟩ := ih
      exact ⟨_, List.mem_append_left _ inside, isBuilt.spec.2 _ step⟩

/-- From a file that is built no circle is reached. -/
theorem IsBuilt.not_hasCircle {opened : List String} (isBuilt : IsBuilt host root opened) :
    ¬ HasCircle host root := by
  rintro ⟨path, reached, circle⟩
  obtain ⟨more, isBuilt⟩ := isBuilt.reached reached
  obtain ⟨inner, inside, again⟩ := isBuilt.below circle
  exact again.spec.1 inside

/-- Scripts that hold nothing but changesets that can be built, and inclusions of scripts that exist
and are named by themselves, are built if and only if no circle of inclusions is reached from the
root.  Otherwise the error is a circle: a way along the inclusions, from the root, to a path that
has been on it once before, while all others are on it once. -/
theorem build_succeeds_iff_no_circle (configuration : Configuration) (catalog : Catalog)
    (files : MemoryStore) (isPattern : String → Bool) (path : String)
    (plain : ∀ file,
      IsReached (.ofMemory configuration catalog files isPattern) (Path.normalize path) file →
        IsPlainFile (.ofMemory configuration catalog files isPattern) file)
    (builds : ChangesetsBuild (.ofMemory configuration catalog files isPattern) path) :
    ((∃ log, build (.ofMemory configuration catalog files isPattern) path none [] = .ok log) ↔
      ¬ HasCircle (.ofMemory configuration catalog files isPattern) (Path.normalize path)) ∧
    (HasCircle (.ofMemory configuration catalog files isPattern) (Path.normalize path) →
      ∃ file chain, build (.ofMemory configuration catalog files isPattern) path none [] =
          .error (.circularInclude file chain) ∧
        IsCircle (.ofMemory configuration catalog files isPattern) (Path.normalize path) file
          chain) := by
  obtain ⟨result, last, run, built⟩ := build_runs configuration catalog files isPattern path none []
  rw [built]
  cases result with
  | ok final =>
      have isBuilt :
          IsBuilt (.ofMemory configuration catalog files isPattern) (Path.normalize path) [] :=
        ⟨path, _, final, last, rfl, rfl, run⟩
      exact ⟨⟨fun _ => isBuilt.not_hasCircle, fun _ => ⟨_, rfl⟩⟩,
        fun circle => absurd circle isBuilt.not_hasCircle⟩
  | error error =>
      obtain ⟨steps, halted⟩ := run.reaches []
      have onTrail := Machine.onTrail_run plain (fun steps _ => builds steps) steps
      rw [Machine.start, halted] at onTrail
      obtain ⟨file, chain, rfl, circle⟩ := onTrail.plain error rfl
      constructor
      · constructor
        · rintro ⟨log, impossible⟩
          cases impossible
        · exact fun acyclic => absurd circle.hasCircle acyclic
      · exact fun _ => ⟨file, chain, rfl, circle⟩

/-- Changesets that can be built wherever their script stands are built in particular where the
build comes to them. -/
theorem changesetsBuild_of_forall {configuration : Configuration} {catalog : Catalog}
    {files : MemoryStore} {isPattern : String → Bool} {path : String}
    (plain : ∀ file,
      IsReached (.ofMemory configuration catalog files isPattern) (Path.normalize path) file →
        IsPlainFile (.ofMemory configuration catalog files isPattern) file)
    (anywhere : ∀ log line e,
      IsReached (.ofMemory configuration catalog files isPattern) (Path.normalize path)
        log.physicalPath →
      Task.Belongs (.ofMemory configuration catalog files isPattern) log.physicalPath
        (.item line (.element e)) → e.name = "changeSet" →
      ∃ built, Changeset.ofElement (.ofMemory configuration catalog files isPattern)
        (startSession (.ofMemory configuration catalog files isPattern)).properties log e =
          .ok built) :
    ChangesetsBuild (.ofMemory configuration catalog files isPattern) path := by
  have builds (machine : Machine) (onTrail : machine.OnTrail
      (.ofMemory configuration catalog files isPattern) (Path.normalize path)) :
      machine.ChangesetBuilds (.ofMemory configuration catalog files isPattern) := by
    rintro log line e tasks frames session rfl isChangeset
    have properties : session.properties =
      (startSession (.ofMemory configuration catalog files isPattern)).properties :=
    onTrail.properties
    rw [properties]
    exact anywhere log line e (onTrail.isReached (by simp [Machine.trail, Machine.paths]))
      (onTrail.plain _ List.mem_cons_self) isChangeset
  exact fun steps => builds _
    (Machine.onTrail_run plain (fun steps onTrail => builds _ onTrail) steps)

/-! ## An example -/

/-- Two scripts that include each other by other spellings of their paths. -/
def circularFiles : MemoryStore :=
  .ofList [
    ("a.qcl",
      r"databaseChangeLog { include(file: 'x/../b.qcl', relativeToChangelogFile: true) }"),
    ("b.qcl", r"databaseChangeLog { changeSet(id: '1', author: 'm') include '.\\a.qcl' }")]

theorem readScript_circularFiles_a : readScript (.ofMemory {} {} circularFiles) "a.qcl" none =
    .ok ⟨[⟨"databaseChangeLog", [], some [
      .element ⟨"include", [⟨some "file", .str "x/../b.qcl"⟩,
        ⟨some "relativeToChangelogFile", .bool true⟩], none, 1⟩], 1⟩]⟩ := by
  have found : (Host.ofMemory {} {} circularFiles).store.text "a.qcl" = .ok
      r"databaseChangeLog { include(file: 'x/../b.qcl', relativeToChangelogFile: true) }" := rfl
  have parsed : Script.parse
      r"databaseChangeLog { include(file: 'x/../b.qcl', relativeToChangelogFile: true) }" =
      .ok ⟨[⟨"databaseChangeLog", [], some [
        .element ⟨"include", [⟨some "file", .str "x/../b.qcl"⟩,
          ⟨some "relativeToChangelogFile", .bool true⟩], none, 1⟩], 1⟩]⟩ := by cbv
  simp [readScript, found, parsed, bind, Except.bind, Except.mapError]

theorem readScript_circularFiles_b : readScript (.ofMemory {} {} circularFiles) "b.qcl" none =
    .ok ⟨[⟨"databaseChangeLog", [], some [
      .element ⟨"changeSet", [⟨some "id", .str "1"⟩, ⟨some "author", .str "m"⟩], none, 1⟩,
      .element ⟨"include", [⟨none, .str ".\\a.qcl"⟩], none, 1⟩], 1⟩]⟩ := by
  have found : (Host.ofMemory {} {} circularFiles).store.text "b.qcl" =
      .ok r"databaseChangeLog { changeSet(id: '1', author: 'm') include '.\\a.qcl' }" := rfl
  have parsed : Script.parse
      r"databaseChangeLog { changeSet(id: '1', author: 'm') include '.\\a.qcl' }" =
      .ok ⟨[⟨"databaseChangeLog", [], some [
        .element ⟨"changeSet", [⟨some "id", .str "1"⟩, ⟨some "author", .str "m"⟩], none, 1⟩,
        .element ⟨"include", [⟨none, .str ".\\a.qcl"⟩], none, 1⟩], 1⟩]⟩ := by cbv
  simp [readScript, found, parsed, bind, Except.bind, Except.mapError]

theorem names_circularFiles_a : Names (.ofMemory {} {} circularFiles) "a.qcl"
    ⟨"include", [⟨some "file", .str "x/../b.qcl"⟩,
      ⟨some "relativeToChangelogFile", .bool true⟩], none, 1⟩ "b.qcl" := by
  have same : (if true then Path.relativeTo "a.qcl" "x/../b.qcl" else
      Path.normalize "x/../b.qcl") = "b.qcl" := by decide
  rw [← same]
  exact names_of_relative _ "a.qcl" rfl rfl rfl (by decide)

theorem names_circularFiles_b : Names (.ofMemory {} {} circularFiles) "b.qcl"
    ⟨"include", [⟨none, .str ".\\a.qcl"⟩], none, 1⟩ "a.qcl" := by
  have same : Path.normalize ".\\a.qcl" = "a.qcl" := by decide
  rw [← same]
  exact names_of_text _ "b.qcl" rfl rfl rfl (by decide)

theorem includes_circularFiles_a {path : String} :
    Includes (.ofMemory {} {} circularFiles) "a.qcl" path ↔ path = "b.qcl" := by
  constructor
  · rintro ⟨script, read, root, isRoot, e, inside, target, names, rfl⟩
    rw [readScript_circularFiles_a] at read
    cases read
    obtain rfl := List.mem_singleton.mp isRoot
    obtain rfl : e = _ := by simpa [Element.items] using inside
    rw [names.unique (names_circularFiles_a)]
    decide
  · rintro rfl
    exact ⟨_, readScript_circularFiles_a, _, List.mem_singleton.mpr rfl, _,
      List.mem_singleton.mpr rfl, "b.qcl", names_circularFiles_a, by decide⟩

theorem includes_circularFiles_b {path : String} :
    Includes (.ofMemory {} {} circularFiles) "b.qcl" path ↔ path = "a.qcl" := by
  constructor
  · rintro ⟨script, read, root, isRoot, e, inside, target, names, rfl⟩
    rw [readScript_circularFiles_b] at read
    cases read
    obtain rfl := List.mem_singleton.mp isRoot
    rcases List.mem_cons.mp inside with same | inside
    · cases same
      exact absurd names.isInclude (by decide)
    · obtain rfl : e = _ := by simpa using inside
      rw [names.unique (names_circularFiles_b)]
      decide
  · rintro rfl
    exact ⟨_, readScript_circularFiles_b, _, List.mem_singleton.mpr rfl, _,
      List.mem_cons_of_mem _ List.mem_cons_self, "a.qcl", names_circularFiles_b, by decide⟩

theorem reached_circularFiles {path : String}
    (reached : IsReached (.ofMemory {} {} circularFiles) "a.qcl" path) :
    path = "a.qcl" ∨ path = "b.qcl" := by
  induction reached with
  | refl => exact .inl rfl
  | tail _ step ih =>
      rcases ih with rfl | rfl
      · exact .inr (includes_circularFiles_a.mp step)
      · exact .inl (includes_circularFiles_b.mp step)

theorem isPlainFile_circularFiles {path : String}
    (reached : IsReached (.ofMemory {} {} circularFiles) "a.qcl" path) :
    IsPlainFile (.ofMemory {} {} circularFiles) path := by
  have noArguments (log : Changelog) : ∃ after, log.takeArguments [] = .ok after :=
    ⟨log, takeArguments_nil log⟩
  rcases reached_circularFiles reached with rfl | rfl
  · refine ⟨_, readScript_circularFiles_a, fun root isRoot => ?_⟩
    obtain rfl := List.mem_singleton.mp isRoot
    refine ⟨rfl, ⟨[], rfl, noArguments⟩, fun item inside => ?_⟩
    obtain rfl := List.mem_singleton.mp inside
    exact ⟨_, rfl, .inr ⟨"b.qcl", names_circularFiles_a, by decide⟩⟩
  · refine ⟨_, readScript_circularFiles_b, fun root isRoot => ?_⟩
    obtain rfl := List.mem_singleton.mp isRoot
    refine ⟨rfl, ⟨[], rfl, noArguments⟩, fun item inside => ?_⟩
    rcases List.mem_cons.mp inside with rfl | inside
    · exact ⟨_, rfl, .inl rfl⟩
    · obtain rfl := List.mem_singleton.mp inside
      exact ⟨_, rfl, .inr ⟨"a.qcl", names_circularFiles_b, by decide⟩⟩

theorem changesetsBuild_circularFiles :
    ChangesetsBuild (.ofMemory {} {} circularFiles) "a.qcl" := by
  refine changesetsBuild_of_forall (fun _ => isPlainFile_circularFiles) ?_
  rintro log line e reached ⟨script, read, root, isRoot, inside⟩ isChangeset
  rcases reached_circularFiles reached with same | same
  · rw [same, readScript_circularFiles_a] at read
    cases read
    obtain rfl := List.mem_singleton.mp isRoot
    obtain rfl : e = _ := by simpa [Element.items] using inside
    exact absurd isChangeset (by decide)
  · rw [same, readScript_circularFiles_b] at read
    cases read
    obtain rfl := List.mem_singleton.mp isRoot
    rcases List.mem_cons.mp inside with same | inside
    · cases same
      have given : Site.namedArguments
          { properties := (startSession (.ofMemory {} {} circularFiles)).properties,
            path := log.physicalPath }
          ⟨"changeSet", [⟨some "id", .str "1"⟩, ⟨some "author", .str "m"⟩], none, 1⟩ =
          .ok [("id", .text "1"), ("author", .text "m")] := by
        have expand (text : String) (plain : '$' ∉ text.toList) (site : Site) :
            site.expand text = text := PropertyTable.expand_of_not_mem _ plain _
        simp [Site.namedArguments, Site.call, Element.hasPositional, Element.hasNamed,
          Site.resolveNamed, Site.resolve, expand, bind, Except.bind, pure, Except.pure, Except.map]
      simp only [Changeset.ofElement, given]
      exact ⟨_, rfl⟩
    · obtain rfl : e = _ := by simpa using inside
      exact absurd isChangeset (by decide)

/-- The circle is found although no path is spelled as the one before. -/
theorem build_of_circularFiles :
    ∃ file chain, build (.ofMemory {} {} circularFiles) "a.qcl" none [] =
        .error (.circularInclude file chain) ∧
      IsCircle (.ofMemory {} {} circularFiles) (Path.normalize "a.qcl") file chain := by
  refine (build_succeeds_iff_no_circle {} {} circularFiles Pattern.isWellFormed "a.qcl"
    (fun _ => isPlainFile_circularFiles) changesetsBuild_circularFiles).2 ?_
  refine ⟨"a.qcl", .refl, .tail (.single (includes_circularFiles_a.mpr rfl)) ?_⟩
  exact includes_circularFiles_b.mpr rfl

end Migration.Changelog
