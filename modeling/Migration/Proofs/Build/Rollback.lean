import Migration.Proofs.Build.Bounded
import Migration.Proofs.Build.Causes
import Migration.Proofs.Build.Relocation

/-!
# Rollbacks that refer to changesets of a build

A reference is looked up in the changelog of its own script, as far as it has been built.  Unless a
changelog around has a changeset of the same identity, this finds the first one in the whole build,
as `rollback_references` says; `not_rollback_references` shows that a changeset of a changelog
around is not found.
-/

namespace Migration

/-- A changeset without what inclusions hand down to it. -/
def Changeset.bare (changeset : Changeset) : Changeset :=
  { changeset with inheritedContexts := [], inheritedLabels := [], ignore := false }

namespace Changelog

variable {host : Host}

theorem Task.Advances.prefix_changesets {log after : Changelog} {session later : Session}
    {task : Task} {more : List Task} (step : Advances host log session task after more later) :
    log.changesets <+: after.changesets := by
  cases step with
  | root named given taken =>
      obtain ⟨_, _, _, rfl⟩ := takeArguments_eq_ok taken
      exact List.prefix_refl _
  | changeset => exact List.prefix_append _ _
  | inclusion | inclusions | properties | preconditions => exact List.prefix_refl _

/-! ## What has been built -/

namespace Machine

/-- The changesets of the changelogs around, in document order. -/
def outer (frames : List Frame) : List Changeset :=
  frames.reverse.flatMap (·.log.changesets)

theorem outer_cons (frame : Frame) (frames : List Frame) :
    outer (frame :: frames) = outer frames ++ frame.log.changesets := by
  simp [outer]

/-- The changesets that have been built so far in all scripts, in document order. -/
def built : Machine → List Changeset
  | .working (.file _ _ _) frames _ => outer frames
  | .working (.rest log _) frames _ => outer frames ++ log.changesets
  | .returning (.ok child) frames _ => outer frames ++ child.changesets
  | .returning (.error _) frames _ => outer frames

def hasFailed : Machine → Bool
  | .returning (.error _) _ _ => true
  | _ => false

theorem hasFailed_step {machine : Machine} (failed : machine.hasFailed) :
    (machine.step host).hasFailed := by
  cases machine with
  | working job frames session => cases failed
  | returning result frames session =>
      cases result with
      | ok child => cases failed
      | error error => cases frames <;> rfl

theorem hasFailed_run {machine : Machine} (failed : machine.hasFailed) (steps : Nat) :
    (machine.run host steps).hasFailed := by
  induction steps generalizing machine with
  | zero => exact failed
  | succ steps ih => exact ih (hasFailed_step failed)

/-- A step that does not fail moves and loses no changeset. -/
theorem built_prefix_step (machine : Machine) (goesOn : (machine.step host).hasFailed = false) :
    machine.built.map (·.bare) <+: (machine.step host).built.map (·.bare) := by
  match machine with
  | .working (.file path source arguments) frames session =>
      cases entry : enter host path source arguments session with
      | error error =>
          rw [step, entry] at goesOn
          cases goesOn
      | ok value =>
          obtain ⟨log, tasks⟩ := value
          obtain ⟨-, taken, -⟩ := enter_eq_ok entry
          obtain ⟨_, _, _, rfl⟩ := takeArguments_eq_ok taken
          rw [step, entry]
          exact (List.prefix_append _ _).map _
  | .working (.rest log []) frames session => exact List.prefix_refl _
  | .working (.rest log (task :: tasks)) frames session =>
      cases outcome : task.perform host log session with
      | failure error =>
          rw [step, outcome] at goesOn
          cases goesOn
      | advance after more later =>
          rw [step, outcome]
          have grown := (Task.perform_advances outcome).prefix_changesets
          exact ((List.prefix_append_right_inj _).mpr grown).map _
      | visit target inclusion =>
          have same : (working (.rest log (task :: tasks)) frames session).built =
              ((working (.rest log (task :: tasks)) frames session).step host).built := by
            rw [step_of_visit outcome, built, built, outer_cons]
          exact same ▸ List.prefix_refl _
  | .returning (.ok child) (frame :: frames) session =>
      have same : (child.changesets.map ({ child with inclusion := frame.inclusion } :
          Changelog).inherit).map (·.bare) = child.changesets.map (·.bare) := by
        rw [List.map_map]
        rfl
      have kept : (returning (.ok child) (frame :: frames) session).built.map (·.bare) =
          ((returning (.ok child) (frame :: frames) session).step host).built.map (·.bare) := by
        rw [step, built, built, outer_cons, splice, List.append_assoc, List.map_append,
          List.map_append, List.map_append, List.map_append, same]
      exact kept ▸ List.prefix_refl _
  | .returning (.error error) (frame :: frames) session => cases goesOn
  | .returning (.ok log) [] session => exact List.prefix_refl _
  | .returning (.error error) [] session => exact List.prefix_refl _

theorem built_prefix_run {machine : Machine} {steps : Nat}
    (goesOn : (machine.run host steps).hasFailed = false) :
    machine.built.map (·.bare) <+: (machine.run host steps).built.map (·.bare) := by
  induction steps generalizing machine with
  | zero => exact List.prefix_refl _
  | succ steps ih =>
      refine (built_prefix_step machine ?_).trans (ih goesOn)
      refine Bool.eq_false_iff.mpr fun failed => ?_
      exact Bool.eq_false_iff.mp goesOn (hasFailed_run failed steps)

/-- A failure goes through all changelogs around. -/
theorem reaches_of_error (host : Host) (error : BuildError) (frames : List Frame)
    (session : Session) : ∃ last, Reaches host (.returning (.error error) frames session)
      (.returning (.error error) [] last) := by
  induction frames generalizing session with
  | nil => exact ⟨session, .refl _⟩
  | cons frame frames ih =>
      obtain ⟨last, reaches⟩ := ih session.closed
      exact ⟨last, .head rfl reaches⟩

/-- A machine that halts is not at work any more when it has halted. -/
theorem lt_of_run_working {start : Machine} {first second : Nat} {job : Job} {frames : List Frame}
    {session last : Session} {result : Except BuildError Changelog}
    (atWork : start.run host first = .working job frames session)
    (halted : start.run host second = .returning result [] last) : first < second := by
  by_contra notLess
  obtain ⟨more, rfl⟩ := Nat.exists_eq_add_of_le (Nat.le_of_not_lt notLess)
  rw [run_add, halted, run_returning] at atWork
  cases atWork

/-- Whether a machine is about to build the changeset of an element in a changelog, and comes to a
reference in it, by when the changeset has been built so far.  The frames are those of the
changelogs around. -/
structure Refers (host : Host) (machine : Machine) (frames : List Frame) (log : Changelog)
    (session : Session) (e r : Element) (site : Site) (changeset : Changeset)
    (path author id : String) : Prop where
  moment : ∃ line tasks,
    machine = .working (.rest log (.item line (.element e) :: tasks)) frames session
  named : e.name = "changeSet"
  meets : Changeset.Meets host session.properties log e r site changeset
  refers : Changeset.RefersTo host site log changeset r path author id

/-- The first of the changesets built so far in all scripts that has an identity. -/
def first? (frames : List Frame) (log : Changelog) (path author id : String) : Option Changeset :=
  (outer frames ++ log.changesets).find? (·.isIdentifiedBy path author id)

/-- If no changelog around has a changeset of the identity, the first one is in the own
changelog. -/
theorem first?_eq {frames : List Frame} {path author id : String} (log : Changelog)
    (apart : ∀ frame ∈ frames, frame.log.find? path author id = none) :
    first? frames log path author id = log.find? path author id := by
  have none : (outer frames).find? (·.isIdentifiedBy path author id) = none := by
    refine List.find?_eq_none.mpr fun changeset member => ?_
    obtain ⟨frame, inside, member⟩ := List.mem_flatMap.mp member
    exact List.find?_eq_none.mp (apart frame (List.mem_reverse.mp inside)) changeset member
  rw [first?, List.find?_append, none, Option.none_or]
  rfl

end Machine

/-- In a list with another front, what is found in the front is found first.  What changesets
inherit does not matter. -/
theorem find?_of_bare {front all : List Changeset} {rest : List Changeset} {found : Changeset}
    {path author id : String}
    (same : all.map (·.bare) = front.map (·.bare) ++ rest)
    (isFound : front.find? (·.isIdentifiedBy path author id) = some found) :
    (all.find? (·.isIdentifiedBy path author id)).map (·.bare) = some found.bare := by
  have onBare (changesets : List Changeset) :
      (changesets.map (·.bare)).find? (·.isIdentifiedBy path author id) =
        (changesets.find? (·.isIdentifiedBy path author id)).map (·.bare) := by
    rw [List.find?_map]
    rfl
  rw [← onBare, same, List.find?_append, onBare, isFound]
  rfl

variable {root : String} {source : Option String} {arguments : List (String × Value)}
  {steps : Nat} {frames : List Frame} {log : Changelog} {session : Session} {e r : Element}
  {site : Site} {changeset : Changeset} {path author id : String}

/-- A changeset that is about to be built in a build that succeeds is built, and it and all before
it are in the changelog of the build. -/
theorem changesets_of_moment {line : Nat} {tasks : List Task} {final : Changelog}
    (moment : (Machine.start host root source arguments).run host steps =
      .working (.rest log (.item line (.element e) :: tasks)) frames session)
    (named : e.name = "changeSet") (succeeded : build host root source arguments = .ok final) :
    ∃ own warnings rest,
      Changeset.ofElement host session.properties log e = .ok (own, warnings) ∧
      final.changesets.map (·.bare) =
        (Machine.outer frames ++ log.changesets ++ [own]).map (·.bare) ++ rest := by
  obtain ⟨child, last, run, rfl⟩ := runs_of_build_eq_ok succeeded
  obtain ⟨all, halted⟩ := run.reaches []
  change (Machine.start host root source arguments).run host all = _ at halted
  obtain ⟨more, rfl⟩ := Nat.exists_eq_add_of_lt (Machine.lt_of_run_working moment halted)
  rw [Nat.add_assoc, Machine.run_add, moment, Machine.run] at halted
  cases declared : Changeset.ofElement host session.properties log e with
  | error error =>
      have failed : Task.perform host log session (.item line (.element e)) = .failure error := by
        simp [Task.perform, performElement, named, declared, Outcome.ofExcept]
      have hasFailed := @Machine.hasFailed_run host
        (.returning (.error error) frames session.closed) rfl more
      rw [Machine.step, failed] at halted
      rw [halted] at hasFailed
      cases hasFailed
  | ok value =>
      obtain ⟨own, warnings⟩ := value
      have step := Task.Advances.perform_eq
        (@Task.Advances.changeset host log session line e own warnings named declared)
      rw [Machine.step_of_advance step] at halted
      have kept := Machine.built_prefix_run (congrArg Machine.hasFailed halted)
      obtain ⟨rest, same⟩ := kept
      rw [halted] at same
      refine ⟨own, warnings, rest, rfl, ?_⟩
      rw [List.append_assoc]
      exact same.symm

/-- A reference that finds a changeset takes over its changes, which are those that it has in the
changelog of the whole build. -/
structure IsAnswered (host : Host) (root : String) (source : Option String)
    (arguments : List (String × Value)) (frames : List Frame) (log : Changelog) (session : Session)
    (e r : Element) (site : Site) (changeset found : Changeset) (path author id : String) :
    Prop where
  taken : Changeset.takeElement host site log changeset r =
    .ok ({ changeset with rollback := changeset.rollback ++ found.changes }, [])
  /-- The changesets built before the changeset of the reference precede it in the whole build. -/
  kept : ∀ final, build host root source arguments = .ok final → ∃ own warnings more rest,
    Changeset.ofElement host session.properties log e = .ok (own, warnings) ∧
    own.rollback = changeset.rollback ++ found.changes ++ more ∧
    final.changesets.map (·.bare) =
      (Machine.outer frames ++ log.changesets ++ [own]).map (·.bare) ++ rest ∧
    (final.find? path author id).map (·.changes) = some found.changes

/-- A reference that finds no changeset is what the whole build fails for. -/
structure IsRefused (host : Host) (root : String) (source : Option String)
    (arguments : List (String × Value)) (path author id : String) : Prop where
  halts : ∃ last, Machine.Reaches host (.start host root source arguments)
    (.returning (.error (.rollbackImpossible path author id)) [] last)
  fails : host.store.IsBounded →
    build host root source arguments = .error (.rollbackImpossible path author id)

theorem isAnswered_of_find? {found : Changeset}
    (here : ((Machine.start host root source arguments).run host steps).Refers host frames log
      session e r site changeset path author id)
    (apart : ∀ frame ∈ frames, frame.log.find? path author id = none)
    (isFound : log.find? path author id = some found) :
    IsAnswered host root source arguments frames log session e r site changeset found path author
      id := by
  obtain ⟨⟨line, tasks, moment⟩, named, meets, refers⟩ := here
  refine ⟨?_, fun final succeeded => ?_⟩
  · rw [refers.takeElement_eq, isFound]
    rfl
  · obtain ⟨own, warnings, rest, declared, changesets⟩ :=
      changesets_of_moment moment named succeeded
    obtain ⟨other, more, isOther, rollback⟩ := meets.ofElement_ok refers declared
    cases isFound.symm.trans isOther
    refine ⟨own, warnings, more, rest, declared, rollback, changesets, ?_⟩
    have first : (Machine.outer frames ++ log.changesets ++ [own]).find?
        (·.isIdentifiedBy path author id) = some found := by
      rw [List.find?_append, ← Machine.first?, Machine.first?_eq log apart, isFound]
      rfl
    have kept := find?_of_bare changesets first
    obtain ⟨other, isOther, same⟩ := Option.map_eq_some_iff.mp kept
    rw [find?, isOther]
    exact congrArg (fun changeset => some changeset.changes) same

theorem isRefused_of_find?
    (here : ((Machine.start host root source arguments).run host steps).Refers host frames log
      session e r site changeset path author id)
    (absent : log.find? path author id = none) :
    IsRefused host root source arguments path author id := by
  obtain ⟨⟨line, tasks, moment⟩, named, meets, refers⟩ := here
  have failed : Task.perform host log session (.item line (.element e)) =
      .failure (.rollbackImpossible path author id) := by
    simp [Task.perform, performElement, named, meets.ofElement_error refers absent,
      Outcome.ofExcept]
  have halts : ∃ last, Machine.Reaches host (.start host root source arguments)
      (.returning (.error (.rollbackImpossible path author id)) [] last) := by
    obtain ⟨last, unwinds⟩ := Machine.reaches_of_error host
      (.rollbackImpossible path author id) frames session.closed
    refine ⟨last, .trans ⟨steps, moment⟩ (.head ?_ unwinds)⟩
    rw [Machine.step, failed]
  refine ⟨halts, fun bounded => ?_⟩
  obtain ⟨result, final, run, built⟩ := build_runs_of_isBounded bounded root source arguments
  obtain ⟨last, reaches⟩ := halts
  obtain ⟨rfl, -⟩ := (run.reaches []).unique reaches
  exact built

/-- A part of a build that fails for a cause that is not local, and not because a script is open,
comes to a changeset that has the cause. -/
theorem reaches_of_hasUnanswered (finishes : host.catalog.FinishesLocally) {job : Job}
    {session last : Session} {result : Except BuildError Changelog}
    (run : Runs host job session result last) {error : BuildError} (failed : result = .error error)
    (elsewhere : ¬ error.isLocal) (noCircle : ∀ target chain, error ≠ .circularInclude target chain)
    (frames : List Frame) :
    ∃ log line e tasks around now, HasUnanswered host log now e error ∧
      Machine.Reaches host (.working job frames session)
        (.working (.rest log (.item line (.element e) :: tasks)) around now) := by
  induction run generalizing frames with
  | refused entry =>
      cases failed
      rcases enter_error_cases entry with isLocal | ⟨-, same⟩
      · exact absurd isLocal elsewhere
      · exact absurd same (noCircle _ _)
  | finished => cases failed
  | failed step =>
      cases failed
      rcases Task.failure_cases finishes step with isLocal | ⟨line, e, rfl, unanswered⟩
      · exact absurd isLocal elsewhere
      · exact ⟨_, line, e, _, frames, _, unanswered, .refl _⟩
  | entered entry _ ih =>
      obtain ⟨log, line, e, tasks, around, now, unanswered, reaches⟩ := ih failed frames
      exact ⟨log, line, e, tasks, around, now, unanswered,
        .head (Machine.step_of_enter entry) reaches⟩
  | advanced step _ ih =>
      obtain ⟨log, line, e, tasks, around, now, unanswered, reaches⟩ := ih failed frames
      exact ⟨log, line, e, tasks, around, now, unanswered,
        .head (Machine.step_of_advance step) reaches⟩
  | broken step _ ih =>
      obtain ⟨log, line, e, tasks, around, now, unanswered, reaches⟩ := ih failed _
      exact ⟨log, line, e, tasks, around, now, unanswered,
        .head (Machine.step_of_visit step) reaches⟩
  | returned step call _ _ ih =>
      obtain ⟨log, line, e, tasks, around, now, unanswered, reaches⟩ := ih failed frames
      refine ⟨log, line, e, tasks, around, now, unanswered, ?_⟩
      exact .head (Machine.step_of_visit step) ((call.reaches _).trans (.head rfl reaches))

/-- Whether a build comes to a reference.  The rest is as in `Machine.Refers`. -/
def RefersAt (host : Host) (root : String) (source : Option String)
    (arguments : List (String × Value)) (frames : List Frame) (log : Changelog) (session : Session)
    (e r : Element) (site : Site) (changeset : Changeset) (path author id : String) : Prop :=
  ∃ steps, ((Machine.start host root source arguments).run host steps).Refers host frames log
    session e r site changeset path author id

/-- A reference that a build comes to, to an identity that no changeset of a changelog around has,
is answered by the first changeset of that identity among all that precede it, and refused if there
is none.  A build fails because of a reference only if it comes to one that is refused. -/
theorem rollback_references (host : Host) (root : String) (source : Option String)
    (arguments : List (String × Value)) (path author id : String) :
    (∀ frames log session e r site changeset,
      RefersAt host root source arguments frames log session e r site changeset path author id →
      (∀ frame ∈ frames, frame.log.find? path author id = none) →
        match Machine.first? frames log path author id with
        | some found => IsAnswered host root source arguments frames log session e r site changeset
            found path author id
        | none => IsRefused host root source arguments path author id) ∧
    (host.catalog.FinishesLocally →
      build host root source arguments = .error (.rollbackImpossible path author id) →
      ∃ frames log session e r site changeset,
        RefersAt host root source arguments frames log session e r site changeset path author id ∧
        ((∀ frame ∈ frames, frame.log.find? path author id = none) →
          Machine.first? frames log path author id = none)) := by
  refine ⟨?_, fun finishes failed => ?_⟩
  · rintro frames log session e r site changeset ⟨steps, here⟩ apart
    cases found : Machine.first? frames log path author id with
    | some found' =>
        exact isAnswered_of_find? here apart ((Machine.first?_eq log apart).symm.trans found)
    | none => exact isRefused_of_find? here ((Machine.first?_eq log apart).symm.trans found)
  · obtain ⟨last, run⟩ := runs_of_build_eq_error failed nofun
    obtain ⟨log, line, e, tasks, frames, session, ⟨named, unanswered⟩, steps, moment⟩ :=
      reaches_of_hasUnanswered finishes run rfl (fun impossible => nomatch impossible) nofun []
    obtain ⟨r, site, changeset, meets, _, _, _, same, refers, absent⟩ := unanswered
    cases same
    exact ⟨frames, log, session, e, r, site, changeset,
      ⟨steps, ⟨line, tasks, moment⟩, named, meets, refers⟩,
      fun apart => (Machine.first?_eq log apart).trans absent⟩

/-! ## References across scripts -/

/-- Whether a machine is about to build a changeset whose block begins with a reference to an
identity.  Changesets that have it are in the own changelog, or else in those around, and the first
one has changes of some kinds. -/
def Machine.beginsWithReference (host : Host) (path author id : String) (own : Bool)
    (kinds : List String) : Machine → Bool
  | .working (.rest log (.item _ (.element e) :: _)) frames session =>
      match e.items, ((log.siteIn session).namedArguments e >>= Changeset.ofArguments log) with
      | .element r :: _, .ok start =>
          e.name = "changeSet" &&
          Changeset.reference? host { log.siteIn session with changeset := some start.id } log start
            r = some (path, author, id) &&
          (log.find? path author id).isSome = own &&
          (frames.any fun frame => (frame.log.find? path author id).isSome) = !own &&
          (Machine.first? frames log path author id).map (·.changes.map (·.kind)) = some kinds
      | _, _ => false
  | _ => false

/-- A machine that is about to build such a changeset comes to such a reference. -/
theorem refersAt_of_beginsWithReference {own : Bool} {kinds : List String}
    (begins : ((Machine.start host root source arguments).run host steps).beginsWithReference host
      path author id own kinds) :
    ∃ frames log session e r site changeset found,
      RefersAt host root source arguments frames log session e r site changeset path author id ∧
      (log.find? path author id).isSome = own ∧
      (frames.any fun frame => (frame.log.find? path author id).isSome) = !own ∧
      Machine.first? frames log path author id = some found ∧
      found.changes.map (·.kind) = kinds := by
  unfold Machine.beginsWithReference at begins
  split at begins
  · rename_i log line e tasks frames session moment
    split at begins
    · rename_i r back start items begun
      simp only [Bool.and_eq_true, decide_eq_true_eq] at begins
      obtain ⟨⟨⟨⟨named, refers⟩, inOwn⟩, around⟩, first⟩ := begins
      obtain ⟨arguments, called, begun⟩ := bind_eq_ok.mp begun
      obtain ⟨found, isFirst, isKinds⟩ := Option.map_eq_some_iff.mp first
      refine ⟨frames, log, session, e, r, _, start, found, ⟨steps, ⟨line, tasks, moment⟩, named, ?_,
        Changeset.refersTo_of_reference? refers⟩, inOwn, around, isFirst, isKinds⟩
      exact ⟨arguments, start, back, called, begun, rfl, items ▸ .here⟩
    · cases begins
  · cases begins

/-- A script whose second changeset refers to the first one, which is in an included script. -/
def answeredFiles : MemoryStore :=
  .ofList [
    ("main.qcl",
      r"databaseChangeLog { include 'a.qcl' changeSet(id: '2', author: 'm') " ++
        r"{ rollback(changeSetId: '1', changeSetPath: 'a.qcl') } }"),
    ("a.qcl",
      r"databaseChangeLog { changeSet(id: '1', author: 'm') { tagDatabase 't' } }")]

/-- The second changeset is undone by the changes of the first one. -/
theorem rollback_of_answeredFiles :
    ∃ frames log session e r site changeset found,
      RefersAt (.ofMemory {} .builtin answeredFiles) "main.qcl" none [] frames log session e r site
        changeset "a.qcl" "m" "1" ∧
      found.changes.map (·.kind) = ["tagDatabase"] ∧
      IsAnswered (.ofMemory {} .builtin answeredFiles) "main.qcl" none [] frames log session e r
        site changeset found "a.qcl" "m" "1" := by
  have begins : ((Machine.start (.ofMemory {} .builtin answeredFiles) "main.qcl" none []).run
      (.ofMemory {} .builtin answeredFiles) 9).beginsWithReference
        (.ofMemory {} .builtin answeredFiles) "a.qcl" "m" "1" true ["tagDatabase"] := by
    decide +kernel
  obtain ⟨frames, log, session, e, r, site, changeset, found, here, -, noneAround, first, kinds⟩ :=
    refersAt_of_beginsWithReference begins
  have apart : ∀ frame ∈ frames, frame.log.find? "a.qcl" "m" "1" = none := by
    simpa using noneAround
  have answered := (rollback_references (.ofMemory {} .builtin answeredFiles) "main.qcl" none []
    "a.qcl" "m" "1").1 frames log session e r site changeset here apart
  rw [first] at answered
  exact ⟨frames, log, session, e, r, site, changeset, found, here, kinds, answered⟩

/-- An included script whose changeset refers to one of the including script. -/
def refusedFiles : MemoryStore :=
  .ofList [
    ("main.qcl",
      r"databaseChangeLog { changeSet(id: '1', author: 'm') { tagDatabase 't' } " ++
        r"include 'b.qcl' }"),
    ("b.qcl",
      r"databaseChangeLog { changeSet(id: '2', author: 'm') " ++
        r"{ rollback(changeSetId: '1', changeSetPath: 'main.qcl') } }")]

/-- Its reference is refused, although the changeset to which it refers precedes it. -/
theorem not_rollback_references :
    ¬ ∀ (host : Host) (root : String) (source : Option String) (arguments : List (String × Value))
        (path author id : String) (frames : List Frame) (log : Changelog) (session : Session)
        (e r : Element) (site : Site) (changeset : Changeset),
      RefersAt host root source arguments frames log session e r site changeset path author id →
        match Machine.first? frames log path author id with
        | some found => IsAnswered host root source arguments frames log session e r site changeset
            found path author id
        | none => IsRefused host root source arguments path author id := by
  intro claimed
  have begins : ((Machine.start (.ofMemory {} .builtin refusedFiles) "main.qcl" none []).run
      (.ofMemory {} .builtin refusedFiles) 7).beginsWithReference
        (.ofMemory {} .builtin refusedFiles) "main.qcl" "m" "1" false ["tagDatabase"] := by
    decide +kernel
  obtain ⟨frames, log, session, e, r, site, changeset, found, here, notOwn, -, first, -⟩ :=
    refersAt_of_beginsWithReference begins
  have answered := claimed _ _ _ _ _ _ _ _ _ _ _ _ _ _ here
  obtain ⟨steps, reference⟩ := here
  have taken := reference.refers.takeElement_eq
  rw [Option.isSome_eq_false_iff.mp notOwn |> Option.isNone_iff_eq_none.mp] at taken
  rw [first] at answered
  exact nomatch taken.symm.trans answered.taken

end Changelog

end Migration
