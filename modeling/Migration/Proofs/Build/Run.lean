import Migration.Proofs.Build.Task

/-!
# Runs of a build

A run is a build told as a relation: which result a file or the rest of a changelog has, and the
session afterwards, with no bound on how deep files include one another.  The main statement,
`faithful_load`, says that reading a file is such a run unless the bound of the reader is reached.
-/

namespace Migration.Changelog

/-- A part of a build: a whole file, or the rest of a changelog. -/
inductive Job where
  | file (path : String) (source : Option String) (arguments : List (String × Value))
  | rest (log : Changelog) (tasks : List Task)

/-- The result of a part of a build, and the session after it. -/
inductive Runs (host : Host) : Job → Session → Except BuildError Changelog → Session → Prop
  | refused {path : String} {source : Option String} {arguments : List (String × Value)}
      {session : Session} {error : BuildError}
      (entry : enter host path source arguments session = .error error) :
      Runs host (.file path source arguments) session (.error error) session
  | entered {path : String} {source : Option String} {arguments : List (String × Value)}
      {session last : Session} {log : Changelog} {tasks : List Task}
      {result : Except BuildError Changelog}
      (entry : enter host path source arguments session = .ok (log, tasks))
      (run : Runs host (.rest log tasks) (session.opened (Path.normalize path)) result last) :
      Runs host (.file path source arguments) session result last.closed
  | finished {log : Changelog} {session : Session} :
      Runs host (.rest log []) session (.ok log) session
  | failed {log : Changelog} {task : Task} {tasks : List Task} {session : Session}
      {error : BuildError} (step : task.perform host log session = .failure error) :
      Runs host (.rest log (task :: tasks)) session (.error error) session
  | advanced {log after : Changelog} {task : Task} {tasks more : List Task}
      {session later last : Session} {result : Except BuildError Changelog}
      (step : task.perform host log session = .advance after more later)
      (run : Runs host (.rest after (more ++ tasks)) later result last) :
      Runs host (.rest log (task :: tasks)) session result last
  | broken {log : Changelog} {task : Task} {tasks : List Task} {session later : Session}
      {target : String} {inclusion : Inclusion} {error : BuildError}
      (step : task.perform host log session = .visit target inclusion)
      (call : Runs host (.file target none []) session (.error error) later) :
      Runs host (.rest log (task :: tasks)) session (.error error) later
  | returned {log child : Changelog} {task : Task} {tasks : List Task}
      {session later last : Session} {target : String} {inclusion : Inclusion}
      {result : Except BuildError Changelog}
      (step : task.perform host log session = .visit target inclusion)
      (call : Runs host (.file target none []) session (.ok child) later)
      (run : Runs host (.rest (log.splice { child with inclusion }) tasks) later result last) :
      Runs host (.rest log (task :: tasks)) session result last

/-! ## Steps of a build -/

section Steps

variable {α β : Type}

theorem bind_run_ok {first : Build α} {next : α → Build β} {session later : Session} {value : α}
    (ran : first session = (.ok value, later)) : (first >>= next) session = next value later := by
  change ExceptT.bindCont next (first session).1 (first session).2 = next value later
  rw [ran]
  rfl

theorem bind_run_error {first : Build α} {next : α → Build β} {session later : Session}
    {error : BuildError} (ran : first session = (.error error, later)) :
    (first >>= next) session = (.error error, later) := by
  change ExceptT.bindCont next (first session).1 (first session).2 = (.error error, later)
  rw [ran]
  rfl

theorem bind_run_ofExcept_ok {result : Except BuildError α} {next : α → Build β}
    {session : Session} {value : α} (known : result = .ok value) :
    (Build.ofExcept result >>= next) session = next value session :=
  bind_run_ok (by rw [known]; rfl)

theorem bind_run_ofExcept_error {result : Except BuildError α} {next : α → Build β}
    {session : Session} {error : BuildError} (known : result = .error error) :
    (Build.ofExcept result >>= next) session = (.error error, session) :=
  bind_run_error (by rw [known]; rfl)

theorem bind_run_site {log : Changelog} {next : Site → Build β} {session : Session} :
    (Build.site log >>= next) session = next (log.siteIn session) session :=
  bind_run_ok rfl

end Steps

theorem addProperties_run (properties : List Property) (session : Session) :
    Build.addProperties properties session =
      (.ok (), { session with properties :=
        { session.properties with entries := session.properties.entries ++ properties } }) := by
  induction properties generalizing session with
  | nil =>
      rw [List.append_nil]
      rfl
  | cons property properties ih =>
      have added : Build.addProperty property session =
          (.ok (), { session with properties := session.properties.add property }) := rfl
      rw [Build.addProperties, bind_run_ok added, ih]
      simp [PropertyTable.add]

/-! ## Tasks that are done -/

/-- An outcome of some tasks of a changelog, whatever tasks follow them, or of a reader that gave
up for a reason of its own.  The files that were open still are, and no other ones. -/
structure Done (host : Host) (lost : BuildError → Prop) (log : Changelog) (tasks : List Task)
    (session : Session) (outcome : Except BuildError Changelog × Session) : Prop where
  openFiles : outcome.2.openFiles = session.openFiles
  runs :
    match outcome.1 with
    | .ok after => ∀ others result last,
        Runs host (.rest after others) outcome.2 result last →
          Runs host (.rest log (tasks ++ others)) session result last
    | .error error => lost error ∨
        ∀ others, Runs host (.rest log (tasks ++ others)) session (.error error) outcome.2

namespace Done

variable {host : Host} {lost : BuildError → Prop} {log after : Changelog} {task : Task}
  {tasks more : List Task} {session later : Session} {error : BuildError}
  {outcome : Except BuildError Changelog × Session}

theorem nothing : Done host lost log [] session (.ok log, session) :=
  ⟨rfl, fun _ _ _ run => run⟩

theorem failure (step : task.perform host log session = .failure error) :
    Done host lost log [task] session (.error error, session) :=
  ⟨rfl, .inr fun _ => .failed step⟩

theorem advance (rest : Done host lost after (more ++ tasks) later outcome)
    (step : task.perform host log session = .advance after more later) :
    Done host lost log (task :: tasks) session outcome := by
  refine ⟨rest.openFiles.trans (Task.perform_advances step).openFiles, ?_⟩
  obtain ⟨result, last⟩ := outcome
  have runs := rest.runs
  cases result with
  | ok value =>
      intro others result last run
      refine .advanced step ?_
      simpa using runs others result last run
  | error error =>
      refine runs.imp id fun runs others => .advanced step ?_
      simpa using runs others

/-- Tasks that are done one after the other. -/
theorem andThen (first : Done host lost log tasks session (.ok after, later))
    (second : Done host lost after more later outcome) :
    Done host lost log (tasks ++ more) session outcome := by
  refine ⟨second.openFiles.trans first.openFiles, ?_⟩
  obtain ⟨result, last⟩ := outcome
  have firstRuns := first.runs
  have secondRuns := second.runs
  cases result with
  | ok value =>
      intro others result last run
      rw [List.append_assoc]
      exact firstRuns _ result last (secondRuns others result last run)
  | error error =>
      refine secondRuns.imp id fun runs others => ?_
      rw [List.append_assoc]
      exact firstRuns _ (.error error) last (runs others)

/-- What comes after tasks that fail does not matter. -/
theorem stop (first : Done host lost log tasks session (.error error, later)) :
    Done host lost log (tasks ++ more) session (.error error, later) := by
  refine ⟨first.openFiles, first.runs.imp id fun runs others => ?_⟩
  rw [List.append_assoc]
  exact runs (more ++ others)

/-- The outcome of a step of a build that goes on with another one. -/
theorem bind {first : Build Changelog} {next : Changelog → Build Changelog}
    (done : Done host lost log tasks session (first session))
    (continued : ∀ after later, later.openFiles = session.openFiles →
      Done host lost after more later (next after later)) :
    Done host lost log (tasks ++ more) session ((first >>= next) session) := by
  rcases ran : first session with ⟨result, later⟩
  rw [ran] at done
  cases result with
  | ok after =>
      rw [bind_run_ok ran]
      exact done.andThen (continued after later done.openFiles)
  | error error =>
      rw [bind_run_error ran]
      exact done.stop

/-- The outcome of a step that goes on with what a task finds. -/
theorem ofExcept {α : Type} {result : Except BuildError α} {then' : α → Outcome}
    {next : α → Build Changelog}
    (performed : task.perform host log session = .ofExcept result then')
    (continued : ∀ value, result = .ok value → ∃ after more later,
      then' value = .advance after more later ∧
        Done host lost after more later (next value session)) :
    Done host lost log [task] session ((Build.ofExcept result >>= next) session) := by
  cases result with
  | ok value =>
      obtain ⟨after, more, later, advances, rest⟩ := continued value rfl
      rw [bind_run_ofExcept_ok rfl]
      refine advance ?_ (performed.trans advances)
      simpa using rest
  | error error =>
      rw [bind_run_ofExcept_error rfl]
      exact .failure performed

end Done

/-- An outcome of the reading of a file, by a reader that may give up for a reason of its own. -/
structure Answers (host : Host) (lost : BuildError → Prop) (path : String)
    (source : Option String) (arguments : List (String × Value)) (session : Session)
    (outcome : Except BuildError Changelog × Session) : Prop where
  openFiles : outcome.2.openFiles = session.openFiles
  runs : Runs host (.file path source arguments) session outcome.1 outcome.2 ∨
    ∃ error, outcome.1 = .error error ∧ lost error

/-- A way to read included scripts that answers while some files are open. -/
def Faithful (host : Host) (lost : BuildError → Prop) (opened : List String)
    (load : String → Build Changelog) : Prop :=
  ∀ target session, IsNormalized target → session.openFiles = opened →
    Answers host lost target none [] session (load target session)

/-! ## The functions of a build -/

section Functions

variable {host : Host} {lost : BuildError → Prop} {opened : List String}
  {load : String → Build Changelog}

theorem done_includeFile (faithful : Faithful host lost opened load) (log : Changelog)
    {target : String} (inclusion : Inclusion) (normalized : IsNormalized target)
    {session : Session} (atStart : session.openFiles = opened) :
    Done host lost log [.file target inclusion] session
      (includeFile load log target inclusion session) := by
  unfold includeFile
  split
  · rename_i script
    have step : Task.perform host log session (.file target inclusion) =
        .visit target inclusion := by simp [Task.perform, script]
    obtain ⟨same, runs⟩ := faithful target session normalized atStart
    rcases ran : load target session with ⟨result, later⟩
    rw [ran] at same runs
    cases result with
    | ok child =>
        rw [bind_run_ok ran]
        refine ⟨same, ?_⟩
        intro others result last run
        rcases runs with call | ⟨_, impossible, -⟩
        · exact .returned step call run
        · cases impossible
    | error error =>
        rw [bind_run_error ran]
        refine ⟨same, ?_⟩
        rcases runs with call | ⟨_, same, isLost⟩
        · exact .inr fun _ => .broken step call
        · cases same
          exact .inl isLost
  · rename_i noScript
    exact .failure (by simp [Task.perform, noScript])

theorem done_includeFiles (faithful : Faithful host lost opened load) (inclusion : Inclusion)
    {targets : List String} (normalized : ∀ target ∈ targets, IsNormalized target)
    (log : Changelog) {session : Session} (atStart : session.openFiles = opened) :
    Done host lost log (targets.map fun target => .file target inclusion) session
      (includeFiles load inclusion log targets session) := by
  induction targets generalizing log session with
  | nil => exact .nothing
  | cons target targets ih =>
      refine Done.bind (done_includeFile faithful log inclusion
        (normalized target List.mem_cons_self) atStart) ?_
      intro after later same
      exact ih (fun other member => normalized other (List.mem_cons_of_mem target member)) after
        (same.trans atStart)

theorem done_takeElement (faithful : Faithful host lost opened load) (log : Changelog) (line : Nat)
    (e : Element) {session : Session} (atStart : session.openFiles = opened) :
    Done host lost log [.item line (.element e)] session
      (takeElement host load log e session) := by
  have performed : Task.perform host log session (.item line (.element e)) =
      performElement host log session e := rfl
  rw [takeElement, bind_run_site]
  unfold performElement at performed
  split
  · rw [if_pos (by assumption)] at performed
    refine .ofExcept performed ?_
    rintro ⟨own, warnings⟩ -
    exact ⟨_, _, _, rfl, .nothing⟩
  rw [if_neg (by assumption)] at performed
  split
  · rw [if_pos (by assumption)] at performed
    refine .ofExcept performed ?_
    rintro ⟨target, inclusion⟩ found
    exact ⟨_, _, _, rfl, done_includeFile faithful log inclusion
      (isNormalized_includedFile found) atStart⟩
  rw [if_neg (by assumption)] at performed
  split
  · rw [if_pos (by assumption)] at performed
    refine .ofExcept performed ?_
    rintro ⟨targets, inclusion⟩ found
    exact ⟨_, _, _, rfl, done_includeFiles faithful inclusion
      (isNormalized_includedFiles found) log atStart⟩
  rw [if_neg (by assumption)] at performed
  split
  · rw [if_pos (by assumption)] at performed
    refine .ofExcept performed ?_
    intro properties _
    refine ⟨_, _, _, rfl, ?_⟩
    rw [bind_run_ok (addProperties_run properties session)]
    exact .nothing
  rw [if_neg (by assumption)] at performed
  split
  · rw [if_pos (by assumption)] at performed
    refine .ofExcept performed ?_
    intro container _
    exact ⟨_, _, _, rfl, .nothing⟩
  · rw [if_neg (by assumption)] at performed
    exact .failure performed

theorem done_takeItems (faithful : Faithful host lost opened load) (line : Nat)
    (items : List (Item Element)) (log : Changelog) {session : Session}
    (atStart : session.openFiles = opened) :
    Done host lost log (items.map (.item line)) session
      (takeItems host load line log items session) := by
  induction items generalizing log session with
  | nil => exact .nothing
  | cons item items ih =>
      cases item with
      | text s =>
          have failed : Task.perform host log session (.item line (.text s)) =
              .failure (.violation (.textInLog line) none) := rfl
          exact (Done.failure failed).stop
      | element e =>
          refine Done.bind (done_takeElement faithful log line e atStart) ?_
          intro after later same
          exact ih after (same.trans atStart)

theorem done_takeRoots (faithful : Faithful host lost opened load) (roots : List Element)
    (log : Changelog) {session : Session} (atStart : session.openFiles = opened) :
    Done host lost log (roots.map .root) session (takeRoots host load log roots session) := by
  induction roots generalizing log session with
  | nil => exact .nothing
  | cons e roots ih =>
      have performed : Task.perform host log session (.root e) =
        if e.name = "databaseChangeLog" then
          .ofExcept ((log.siteIn session).namedArguments e >>= log.takeArguments) fun log =>
            .advance log (e.items.map (.item e.line)) session
        else .failure (.unknownElement e.name "a changelog script") := rfl
      unfold takeRoots
      split
      · rw [if_pos (by assumption)] at performed
        rw [bind_run_site]
        cases given : (log.siteIn session).namedArguments e with
        | error error =>
            rw [bind_run_ofExcept_error rfl]
            exact (Done.failure (by rw [performed, given]; rfl)).stop
        | ok arguments =>
            rw [bind_run_ofExcept_ok rfl]
            cases taken : log.takeArguments arguments with
            | error error =>
                rw [bind_run_ofExcept_error rfl]
                refine (Done.failure ?_).stop
                rw [performed, given]
                exact congrArg (Outcome.ofExcept · _) taken
            | ok start =>
                rw [bind_run_ofExcept_ok rfl]
                have advances : Task.perform host log session (.root e) =
                    .advance start (e.items.map (.item e.line)) session := by
                  rw [performed, given]
                  exact congrArg (Outcome.ofExcept · _) taken
                refine .advance ?_ advances
                refine Done.bind (done_takeItems faithful e.line e.items start atStart) ?_
                intro after later same
                exact ih after (same.trans atStart)
      · rw [if_neg (by assumption)] at performed
        exact (Done.failure performed).stop

theorem bind_run_refuseOpen {path : String} {next : Unit → Build Changelog} {session : Session}
    (fresh : session.openFiles.any (Path.same · path) = false) :
    (Build.refuseOpen path >>= next) session = next () session :=
  bind_run_ok (by simp [Build.refuseOpen, fresh])

theorem opening_run {α : Type} (path : String) (body : Build α) (session : Session) :
    Build.opening path body session =
      ((body (session.opened path)).1, (body (session.opened path)).2.closed) := rfl

/-- A script is read as its run says if those that it includes are, while it is open too. -/
theorem answers_buildScript {path : String} {source : Option String}
    {arguments : List (String × Value)} {session : Session}
    (inner : session.openFiles.any (Path.same · (Path.normalize path)) = false →
      (∃ script, readScript host (Path.normalize path) source = .ok script) →
        Faithful host lost (session.openFiles ++ [Path.normalize path]) load) :
    Answers host lost path source arguments session
      (buildScript host load path source arguments session) := by
  have refused {error : BuildError}
      (entry : enter host path source arguments session = .error error) :
      Answers host lost path source arguments session (.error error, session) :=
    ⟨rfl, .inl (.refused entry)⟩
  unfold buildScript
  cases isOpen : session.openFiles.any (Path.same · (Path.normalize path)) with
  | true =>
      have refuses : Build.refuseOpen (Path.normalize path) session =
          (.error (.circularInclude (Path.normalize path)
            (session.openFiles ++ [Path.normalize path])), session) := by
        simp only [Build.refuseOpen, isOpen, if_true]
      rw [bind_run_error refuses]
      exact refused (by simp only [enter, isOpen, if_true])
  | false =>
      rw [bind_run_refuseOpen isOpen]
      cases read : readScript host (Path.normalize path) source with
      | error error =>
          rw [bind_run_ofExcept_error rfl]
          exact refused (by simp [enter, isOpen, read, bind, Except.bind])
      | ok script =>
          rw [bind_run_ofExcept_ok rfl]
          have faithful := inner isOpen ⟨script, read⟩
          rw [opening_run]
          cases taken : takeArguments { physicalPath := Path.normalize path } arguments with
          | error error =>
              rw [bind_run_ofExcept_error rfl, Session.closed_opened]
              exact refused (by simp [enter, isOpen, read, taken, bind, Except.bind])
          | ok log =>
              rw [bind_run_ofExcept_ok rfl]
              have entry : enter host path source arguments session =
                  .ok (log, script.elements.map .root) := by
                simp [enter, isOpen, read, taken, bind, Except.bind, pure, Except.pure]
              have atStart : (session.opened (Path.normalize path)).openFiles =
                  session.openFiles ++ [Path.normalize path] := rfl
              have done := done_takeRoots faithful script.elements log atStart
              refine ⟨by simp [done.openFiles], ?_⟩
              have runs := done.runs
              rcases ran : takeRoots host load log script.elements
                (session.opened (Path.normalize path)) with ⟨result, last⟩
              rw [ran] at runs
              cases result with
              | ok after =>
                  refine .inl (.entered entry ?_)
                  simpa using runs [] _ _ .finished
              | error error =>
                  refine runs.symm.imp (fun runs => .entered entry ?_) fun isLost =>
                    ⟨error, rfl, isLost⟩
                  simpa using runs []

/-- Included scripts are read as their runs say, unless the bound of the reader is reached.  What
is adequate for the bound has to stay so when one more file is open. -/
theorem faithful_load (adequate : Nat → List String → Prop)
    (exhausted : ∀ opened path, adequate 0 opened → lost (.circularInclude path (opened ++ [path])))
    (deeper : ∀ depth opened target, adequate (depth + 1) opened → IsNormalized target →
      opened.any (Path.same · (Path.normalize target)) = false →
      (∃ script, readScript host (Path.normalize target) none = .ok script) →
      adequate depth (opened ++ [Path.normalize target]))
    (depth : Nat) (opened : List String) (enough : adequate depth opened) :
    Faithful host lost opened (Changelog.load host depth) := by
  induction depth generalizing opened with
  | zero =>
      intro target session normalized atStart
      refine ⟨rfl, .inr ⟨_, rfl, ?_⟩⟩
      rw [atStart]
      exact exhausted opened target enough
  | succ depth ih =>
      intro target session normalized atStart
      subst atStart
      refine answers_buildScript fun fresh readable => ?_
      exact ih _ (deeper depth session.openFiles target enough normalized fresh readable)

end Functions

/-- Included scripts are read as their runs say, or else the bound of the reader is reached. -/
theorem faithful_within (host : Host) (depth : Nat) (opened : List String) :
    Faithful host (fun _ => True) opened (load host depth) :=
  faithful_load (fun _ _ => True) (fun _ _ _ => trivial) (fun _ _ _ _ _ _ _ => trivial) depth
    opened trivial

/-- The reading of an included script leaves the open files as they were. -/
theorem load_openFiles (host : Host) (depth : Nat) (target : String) (session : Session) :
    (load host depth target session).2.openFiles = session.openFiles := by
  cases depth with
  | zero => rfl
  | succ depth =>
      have answers : Answers host (fun _ => True) target none [] session
          (buildScript host (load host depth) target none [] session) :=
        answers_buildScript fun _ _ => faithful_within host depth _
      exact answers.openFiles

/-! ## Whole builds -/

/-- The session in which a build begins. -/
def startSession (host : Host) : Session :=
  { properties :=
      { environment := host.configuration.environment
        maxPasses := host.configuration.maxExpansionPasses } }

/-- The changelog of a build, given that of its root script and the last session. -/
def finish (session : Session) (log : Changelog) : Changelog :=
  { log with properties := session.properties, warnings := session.warnings }

theorem build_eq (host : Host) (path : String) (source : Option String)
    (arguments : List (String × Value)) :
    build host path source arguments =
      (buildScript host (load host host.store.depth) path source arguments
        (startSession host)).1.map
          (finish (buildScript host (load host host.store.depth) path source arguments
            (startSession host)).2) := rfl

/-- A build that succeeds is a run, wherever its files are. -/
theorem runs_of_build_eq_ok {host : Host} {path : String} {source : Option String}
    {arguments : List (String × Value)} {log : Changelog}
    (built : build host path source arguments = .ok log) :
    ∃ final last, Runs host (.file path source arguments) (startSession host) (.ok final) last ∧
      log = finish last final := by
  have answers : Answers host (fun _ => True) path source arguments (startSession host)
      (buildScript host (load host host.store.depth) path source arguments (startSession host)) :=
    answers_buildScript fun _ _ => faithful_within host host.store.depth _
  rw [build_eq] at built
  rcases ran : buildScript host (load host host.store.depth) path source arguments
    (startSession host) with ⟨result, last⟩
  rw [ran] at answers built
  cases result with
  | ok final =>
      cases built
      rcases answers.runs with run | ⟨_, impossible, -⟩
      · exact ⟨final, last, run, rfl⟩
      · cases impossible
  | error error => cases built

end Migration.Changelog
