import Migration.Changelog.Build
import Migration.Proofs.Failure

/-!
# Tasks of a build

What is left to do for a changelog is a list of tasks: root elements, the items of their blocks, and
files to include.  One task is done at a time.  A root element and an inclusion put the tasks that
they stand for in front of the others; a file is read before the next task is done.
-/

namespace Migration

namespace Session

/-- The session while one more changelog is being read. -/
def opened (session : Session) (path : String) : Session :=
  { session with openFiles := session.openFiles ++ [path] }

/-- The session after the innermost changelog has been read. -/
def closed (session : Session) : Session :=
  { session with openFiles := session.openFiles.dropLast }

@[simp]
theorem opened_openFiles (session : Session) (path : String) :
    (session.opened path).openFiles = session.openFiles ++ [path] := rfl

@[simp]
theorem closed_openFiles (session : Session) :
    session.closed.openFiles = session.openFiles.dropLast := rfl

@[simp]
theorem closed_opened (session : Session) (path : String) :
    (session.opened path).closed = session := by
  simp [opened, closed]

end Session

namespace Changelog

/-- One thing that is left to do for a changelog. -/
inductive Task where
  | root (e : Element)
  /-- An item of the block of a root element on a line. -/
  | item (line : Nat) (item : Item Element)
  | file (target : String) (inclusion : Inclusion)

/-- What comes of a task. -/
inductive Outcome where
  /-- The changelog goes on, with more tasks in front of the others. -/
  | advance (log : Changelog) (more : List Task) (session : Session)
  /-- A file has to be read first. -/
  | visit (target : String) (inclusion : Inclusion)
  | failure (error : BuildError)

/-- Goes on with a result, or fails with its error. -/
def Outcome.ofExcept {α : Type} (result : Except BuildError α) (next : α → Outcome) : Outcome :=
  match result with
  | .ok value => next value
  | .error error => .failure error

/-- Where the elements of a changelog stand in a session. -/
def siteIn (log : Changelog) (session : Session) : Site :=
  { properties := session.properties, path := log.physicalPath }

/-- Does the task of an element in the block of a root element. -/
def performElement (host : Host) (log : Changelog) (session : Session) (e : Element) : Outcome :=
  if e.name = "changeSet" then
    .ofExcept (Changeset.ofElement host session.properties log e) fun (changeset, warnings) =>
      .advance { log with changesets := log.changesets ++ [changeset] } []
        { session with warnings := session.warnings ++ warnings }
  else if e.name = "include" then
    .ofExcept (includedFile host (log.siteIn session) e) fun (target, inclusion) =>
      .advance log [.file target inclusion] session
  else if e.name = "includeAll" then
    .ofExcept (includedFiles host (log.siteIn session) e) fun (targets, inclusion) =>
      .advance log (targets.map fun target => .file target inclusion) session
  else if e.name = "property" then
    .ofExcept (declaredProperties host (log.siteIn session) e) fun properties =>
      .advance log []
        { session with properties :=
            { session.properties with entries := session.properties.entries ++ properties } }
  else if e.name = "preConditions" then
    .ofExcept (PreconditionContainer.ofElement host (log.siteIn session) e) fun container =>
      .advance (log.addPreconditions container) [] session
  else .failure (.unknownElement e.name "databaseChangeLog")

/-- Does a task of a changelog. -/
def Task.perform (host : Host) (log : Changelog) (session : Session) : Task → Outcome
  | .root e =>
      if e.name = "databaseChangeLog" then
        .ofExcept ((log.siteIn session).namedArguments e >>= log.takeArguments) fun log =>
          .advance log (e.items.map (.item e.line)) session
      else .failure (.unknownElement e.name "a changelog script")
  | .item line (.text _) => .failure (.violation (.textInLog line) none)
  | .item _ (.element e) => performElement host log session e
  | .file target inclusion =>
      if Path.isScript target then .visit target inclusion
      else .failure (.resource target .notScript)

/-- The changelog with which the reading of a script begins, and its tasks. -/
def enter (host : Host) (path : String) (source : Option String)
    (arguments : List (String × Value)) (session : Session) :
    Except BuildError (Changelog × List Task) :=
  let path := Path.normalize path
  if session.openFiles.any (Path.same · path) then
    .error (.circularInclude path (session.openFiles ++ [path]))
  else do
    let script ← readScript host path source
    let log ← takeArguments { physicalPath := path } arguments
    return (log, script.elements.map .root)

/-! ## What a task can do -/

/-- How a task goes on: everything that a task can do except to visit a file or to fail. -/
inductive Task.Advances (host : Host) (log : Changelog) (session : Session) :
    Task → Changelog → List Task → Session → Prop
  | root {e : Element} {arguments : List (String × Value)} {after : Changelog}
      (named : e.name = "databaseChangeLog")
      (given : (log.siteIn session).namedArguments e = .ok arguments)
      (taken : log.takeArguments arguments = .ok after) :
      Advances host log session (.root e) after (e.items.map (.item e.line)) session
  | changeset {line : Nat} {e : Element} {own : Changeset} {warnings : List Warning}
      (named : e.name = "changeSet")
      (built : Changeset.ofElement host session.properties log e = .ok (own, warnings)) :
      Advances host log session (.item line (.element e))
        { log with changesets := log.changesets ++ [own] } []
        { session with warnings := session.warnings ++ warnings }
  | inclusion {line : Nat} {e : Element} {target : String} {inclusion : Inclusion}
      (named : e.name = "include")
      (found : includedFile host (log.siteIn session) e = .ok (target, inclusion)) :
      Advances host log session (.item line (.element e)) log [.file target inclusion] session
  | inclusions {line : Nat} {e : Element} {targets : List String} {inclusion : Inclusion}
      (named : e.name = "includeAll")
      (found : includedFiles host (log.siteIn session) e = .ok (targets, inclusion)) :
      Advances host log session (.item line (.element e)) log
        (targets.map fun target => .file target inclusion) session
  | properties {line : Nat} {e : Element} {declared : List Property}
      (named : e.name = "property")
      (found : declaredProperties host (log.siteIn session) e = .ok declared) :
      Advances host log session (.item line (.element e)) log []
        { session with properties :=
            { session.properties with entries := session.properties.entries ++ declared } }
  | preconditions {line : Nat} {e : Element} {container : PreconditionContainer}
      (named : e.name = "preConditions")
      (found : PreconditionContainer.ofElement host (log.siteIn session) e = .ok container) :
      Advances host log session (.item line (.element e)) (log.addPreconditions container) []
        session

theorem Outcome.ofExcept_eq_advance {α : Type} {result : Except BuildError α}
    {next : α → Outcome} {log : Changelog} {more : List Task} {session : Session} :
    Outcome.ofExcept result next = .advance log more session ↔
      ∃ value, result = .ok value ∧ next value = .advance log more session := by
  cases result <;> simp [ofExcept]

theorem performElement_advances {host : Host} {log after : Changelog} {session later : Session}
    {line : Nat} {e : Element} {more : List Task}
    (step : performElement host log session e = .advance after more later) :
    Task.Advances host log session (.item line (.element e)) after more later := by
  unfold performElement at step
  split at step
  · rename_i named
    obtain ⟨⟨own, warnings⟩, built, same⟩ := Outcome.ofExcept_eq_advance.mp step
    cases same
    exact .changeset named built
  split at step
  · rename_i named
    obtain ⟨⟨target, inclusion⟩, found, same⟩ := Outcome.ofExcept_eq_advance.mp step
    cases same
    exact .inclusion named found
  split at step
  · rename_i named
    obtain ⟨⟨targets, inclusion⟩, found, same⟩ := Outcome.ofExcept_eq_advance.mp step
    cases same
    exact .inclusions named found
  split at step
  · rename_i named
    obtain ⟨declared, found, same⟩ := Outcome.ofExcept_eq_advance.mp step
    cases same
    exact .properties named found
  split at step
  · rename_i named
    obtain ⟨container, found, same⟩ := Outcome.ofExcept_eq_advance.mp step
    cases same
    exact .preconditions named found
  · cases step

theorem Task.perform_advances {host : Host} {log after : Changelog} {session later : Session}
    {task : Task} {more : List Task}
    (step : task.perform host log session = .advance after more later) :
    Task.Advances host log session task after more later := by
  cases task with
  | root e =>
      simp only [perform] at step
      split at step
      · rename_i named
        obtain ⟨changed, found, same⟩ := Outcome.ofExcept_eq_advance.mp step
        obtain ⟨arguments, given, taken⟩ := bind_eq_ok.mp found
        cases same
        exact .root named given taken
      · cases step
  | item line item =>
      cases item with
      | text s => cases step
      | element e => exact performElement_advances step
  | file target inclusion =>
      simp only [perform] at step
      split at step <;> cases step

/-- A task that can go on does so. -/
theorem Task.Advances.perform_eq {host : Host} {log after : Changelog} {session later : Session}
    {task : Task} {more : List Task}
    (step : Task.Advances host log session task after more later) :
    task.perform host log session = .advance after more later := by
  cases step with
  | root named given taken =>
      rw [perform, if_pos named, bind_eq_ok.mpr ⟨_, given, taken⟩]
      rfl
  | changeset named built | inclusion named built | inclusions named built
  | properties named built | preconditions named built =>
      simp [perform, performElement, named, built, Outcome.ofExcept]

theorem Outcome.ofExcept_ne_visit {α : Type} {result : Except BuildError α} {next : α → Outcome}
    {target : String} {inclusion : Inclusion}
    (never : ∀ value, next value ≠ .visit target inclusion) :
    Outcome.ofExcept result next ≠ .visit target inclusion := by
  cases result with
  | ok value => exact never value
  | error error =>
      intro step
      cases step

theorem performElement_ne_visit {host : Host} {log : Changelog} {session : Session} {e : Element}
    {target : String} {inclusion : Inclusion} :
    performElement host log session e ≠ .visit target inclusion := by
  unfold performElement
  repeat' split
  all_goals first
    | exact Outcome.ofExcept_ne_visit (by rintro value step; cases step)
    | (intro step; cases step)

/-- Only a file is visited, and only one that is a script. -/
theorem Task.perform_visits {host : Host} {log : Changelog} {session : Session} {task : Task}
    {target : String} {inclusion : Inclusion}
    (step : task.perform host log session = .visit target inclusion) :
    task = .file target inclusion ∧ Path.isScript target = true := by
  cases task with
  | root e =>
      simp only [perform] at step
      split at step
      · exact absurd step (Outcome.ofExcept_ne_visit (by rintro value same; cases same))
      · cases step
  | item line item =>
      cases item with
      | text s => cases step
      | element e => exact absurd step performElement_ne_visit
  | file path inclusion =>
      simp only [perform] at step
      split at step
      · rename_i script
        cases step
        exact ⟨rfl, script⟩
      · cases step

/-! ## What tasks keep -/

/-- A text that is the canonical form of a path. -/
def IsNormalized (path : String) : Prop :=
  ∃ raw, path = Path.normalize raw

/-- Every file that a task names is named by a canonical path. -/
def Task.IsNormalized : Task → Prop
  | .root _ => True
  | .item _ _ => True
  | .file target _ => Changelog.IsNormalized target

theorem takeArguments_eq_ok {log after : Changelog} {arguments : List (String × Value)}
    (taken : log.takeArguments arguments = .ok after) :
    ∃ logicalPath contexts quoting, after = { log with logicalPath, contexts, quoting } := by
  simp only [takeArguments] at taken
  obtain ⟨given, -, taken⟩ := bind_eq_ok.mp taken
  split at taken
  · obtain ⟨quoting, -, taken⟩ := bind_eq_ok.mp taken
    cases taken
    exact ⟨_, _, quoting, rfl⟩
  · cases taken
    exact ⟨_, _, log.quoting, rfl⟩

theorem takeArguments_nil (log : Changelog) : log.takeArguments [] = .ok log := rfl

theorem isNormalized_includedFile {host : Host} {site : Site} {e : Element} {target : String}
    {inclusion : Inclusion} (found : includedFile host site e = .ok (target, inclusion)) :
    IsNormalized target := by
  simp only [includedFile] at found
  obtain ⟨-, -, found⟩ := bind_eq_ok.mp found
  obtain ⟨given, -, found⟩ := bind_eq_ok.mp found
  obtain ⟨-, -, found⟩ := bind_eq_ok.mp found
  cases found
  split
  · exact ⟨_, rfl⟩
  · exact ⟨_, rfl⟩

theorem isNormalized_includedFiles {host : Host} {site : Site} {e : Element}
    {targets : List String} {inclusion : Inclusion}
    (found : includedFiles host site e = .ok (targets, inclusion)) :
    ∀ target ∈ targets, IsNormalized target := by
  simp only [includedFiles] at found
  obtain ⟨-, -, found⟩ := bind_eq_ok.mp found
  obtain ⟨arguments, -, found⟩ := bind_eq_ok.mp found
  split at found
  · cases found
  obtain ⟨given, -, found⟩ := bind_eq_ok.mp found
  obtain ⟨-, -, found⟩ := bind_eq_ok.mp found
  split at found
  · cases found
  obtain ⟨accepts, -, found⟩ := bind_eq_ok.mp found
  obtain ⟨compare, -, found⟩ := bind_eq_ok.mp found
  obtain ⟨files, -, found⟩ := bind_eq_ok.mp found
  cases found
  intro target member
  obtain ⟨file, -, rfl⟩ := List.mem_map.mp member
  exact ⟨file, rfl⟩

namespace Task.Advances

variable {host : Host} {log after : Changelog} {session later : Session} {task : Task}
  {more : List Task}

/-- A changelog stays at its path. -/
theorem physicalPath (step : Advances host log session task after more later) :
    after.physicalPath = log.physicalPath := by
  cases step with
  | root named given taken =>
      obtain ⟨_, _, _, rfl⟩ := takeArguments_eq_ok taken
      rfl
  | changeset | inclusion | inclusions | properties | preconditions => rfl

/-- No task but that of a file opens or closes one. -/
theorem openFiles (step : Advances host log session task after more later) :
    later.openFiles = session.openFiles := by
  cases step <;> rfl

theorem isNormalized (step : Advances host log session task after more later) :
    ∀ task ∈ more, task.IsNormalized := by
  intro task member
  cases step with
  | root =>
      obtain ⟨item, -, rfl⟩ := List.mem_map.mp member
      trivial
  | changeset | properties | preconditions => cases member
  | inclusion named found =>
      obtain rfl := List.mem_singleton.mp member
      exact isNormalized_includedFile found
  | inclusions named found =>
      obtain ⟨target, isTarget, rfl⟩ := List.mem_map.mp member
      exact isNormalized_includedFiles found target isTarget

end Task.Advances

/-- What is known of a script that is entered. -/
theorem enter_eq_ok {host : Host} {path : String} {source : Option String}
    {arguments : List (String × Value)} {session : Session} {log : Changelog} {tasks : List Task}
    (entered : enter host path source arguments session = .ok (log, tasks)) :
    session.openFiles.any (Path.same · (Path.normalize path)) = false ∧
      takeArguments { physicalPath := Path.normalize path } arguments = .ok log ∧
      ∃ script, readScript host (Path.normalize path) source = .ok script ∧
        tasks = script.elements.map .root := by
  simp only [enter] at entered
  split at entered
  · cases entered
  · rename_i fresh
    obtain ⟨script, read, entered⟩ := bind_eq_ok.mp entered
    obtain ⟨start, taken, entered⟩ := bind_eq_ok.mp entered
    cases entered
    exact ⟨by simpa using fresh, taken, script, read, rfl⟩

/-- A script that is not open is entered if it can be read. -/
theorem enter_of_readScript {host : Host} {path : String} {source : Option String}
    {arguments : List (String × Value)} {session : Session} {log : Changelog} {script : Script}
    (fresh : session.openFiles.any (Path.same · (Path.normalize path)) = false)
    (read : readScript host (Path.normalize path) source = .ok script)
    (taken : takeArguments { physicalPath := Path.normalize path } arguments = .ok log) :
    enter host path source arguments session = .ok (log, script.elements.map .root) := by
  simp [enter, fresh, read, taken, bind, Except.bind, pure, Except.pure]

theorem enter_physicalPath {host : Host} {path : String} {source : Option String}
    {arguments : List (String × Value)} {session : Session} {log : Changelog} {tasks : List Task}
    (entered : enter host path source arguments session = .ok (log, tasks)) :
    log.physicalPath = Path.normalize path := by
  obtain ⟨-, taken, -⟩ := enter_eq_ok entered
  obtain ⟨_, _, _, rfl⟩ := takeArguments_eq_ok taken
  rfl

end Changelog

end Migration
