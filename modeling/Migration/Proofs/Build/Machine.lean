import Migration.Proofs.Build.Memory

/-!
# Builds step by step

A machine that builds a changelog in small steps: it enters a script, does one task of the innermost
changelog, or returns to the one around it.  No step looks ahead and no number bounds the steps.
The main statement, `build_halts_with_distinct_openFiles`, says for files in memory that the machine
always halts with the result of the build, which files are open meanwhile, and that every script
leaves the open files as they were.
-/

namespace Migration.Changelog

/-- A changelog that waits for a file it includes. -/
structure Frame where
  log : Changelog
  tasks : List Task
  inclusion : Inclusion

/-- A moment of a build.  The frames are those of the changelogs around, the innermost first. -/
inductive Machine where
  | working (job : Job) (frames : List Frame) (session : Session)
  | returning (result : Except BuildError Changelog) (frames : List Frame) (session : Session)

namespace Machine

def session : Machine → Session
  | .working _ _ session => session
  | .returning _ _ session => session

def frames : Machine → List Frame
  | .working _ frames _ => frames
  | .returning _ frames _ => frames

/-- One step.  A machine that returns from the outermost script stays as it is. -/
def step (host : Host) : Machine → Machine
  | .working (.file path source arguments) frames session =>
      match enter host path source arguments session with
      | .ok (log, tasks) =>
          .working (.rest log tasks) frames (session.opened (Path.normalize path))
      | .error error => .returning (.error error) frames session
  | .working (.rest log []) frames session => .returning (.ok log) frames session.closed
  | .working (.rest log (task :: tasks)) frames session =>
      match task.perform host log session with
      | .advance after more later => .working (.rest after (more ++ tasks)) frames later
      | .visit target inclusion =>
          .working (.file target none []) (⟨log, tasks, inclusion⟩ :: frames) session
      | .failure error => .returning (.error error) frames session.closed
  | .returning (.ok child) (frame :: frames) session =>
      .working (.rest (frame.log.splice { child with inclusion := frame.inclusion }) frame.tasks)
        frames session
  | .returning (.error error) (_ :: frames) session =>
      .returning (.error error) frames session.closed
  | .returning result [] session => .returning result [] session

theorem step_of_enter {host : Host} {path : String} {source : Option String}
    {arguments : List (String × Value)} {frames : List Frame} {session : Session}
    {log : Changelog} {tasks : List Task}
    (entry : enter host path source arguments session = .ok (log, tasks)) :
    (working (.file path source arguments) frames session).step host =
      .working (.rest log tasks) frames (session.opened (Path.normalize path)) := by
  rw [step, entry]

section

variable {host : Host} {log : Changelog} {task : Task} {tasks : List Task} {frames : List Frame}
  {session : Session}

theorem step_of_advance {after : Changelog} {more : List Task} {later : Session}
    (performed : task.perform host log session = .advance after more later) :
    (working (.rest log (task :: tasks)) frames session).step host =
      .working (.rest after (more ++ tasks)) frames later := by
  rw [step, performed]

theorem step_of_visit {target : String} {inclusion : Inclusion}
    (performed : task.perform host log session = .visit target inclusion) :
    (working (.rest log (task :: tasks)) frames session).step host =
      .working (.file target none []) (⟨log, tasks, inclusion⟩ :: frames) session := by
  rw [step, performed]

end

/-- The machine after a number of steps. -/
def run (host : Host) : Nat → Machine → Machine
  | 0, machine => machine
  | steps + 1, machine => run host steps (machine.step host)

/-- The first moment of a build. -/
def start (host : Host) (path : String) (source : Option String)
    (arguments : List (String × Value)) : Machine :=
  .working (.file path source arguments) [] (startSession host)

theorem run_add (host : Host) (first second : Nat) (machine : Machine) :
    machine.run host (first + second) = (machine.run host first).run host second := by
  induction first generalizing machine with
  | zero => simp [run]
  | succ first ih =>
      rw [Nat.succ_add]
      exact ih (machine.step host)

/-! ## Runs as steps -/

/-- Whether the machine comes from one moment to another. -/
def Reaches (host : Host) (first second : Machine) : Prop :=
  ∃ steps, first.run host steps = second

theorem Reaches.refl {host : Host} (machine : Machine) : Reaches host machine machine :=
  ⟨0, rfl⟩

theorem Reaches.head {host : Host} {first middle last : Machine}
    (step : first.step host = middle) (rest : Reaches host middle last) :
    Reaches host first last := by
  obtain ⟨steps, rfl⟩ := rest
  exact ⟨steps + 1, by rw [run, step]⟩

theorem Reaches.trans {host : Host} {first middle last : Machine}
    (front : Reaches host first middle) (rest : Reaches host middle last) :
    Reaches host first last := by
  obtain ⟨steps, rfl⟩ := front
  obtain ⟨more, rfl⟩ := rest
  exact ⟨steps + more, run_add host steps more first⟩

/-- A machine that has halted stays as it is. -/
theorem run_returning (host : Host) (result : Except BuildError Changelog) (session : Session)
    (steps : Nat) :
    (returning result [] session).run host steps = .returning result [] session := by
  induction steps with
  | zero => rfl
  | succ steps ih => cases result <;> exact ih

/-- Whether a machine has returned from the outermost script. -/
def hasHalted : Machine → Bool
  | .returning _ [] _ => true
  | _ => false

theorem run_of_hasHalted {host : Host} {machine : Machine} (halted : machine.hasHalted = true)
    (steps : Nat) : machine.run host steps = machine := by
  cases machine with
  | working => cases halted
  | returning result frames session =>
      cases frames with
      | nil => exact run_returning host result session steps
      | cons => cases halted

/-- Whether a machine halts within a number of steps, and something holds at each moment until
then. -/
def holdsWithin (host : Host) (holds : Machine → Prop) [DecidablePred holds] : Nat → Machine → Bool
  | 0, machine => machine.hasHalted && decide (holds machine)
  | steps + 1, machine => decide (holds machine) && holdsWithin host holds steps (machine.step host)

/-- What holds until a machine halts holds at all moments. -/
theorem forall_run_of_holdsWithin {host : Host} {holds : Machine → Prop} [DecidablePred holds]
    {steps : Nat} {machine : Machine} (checked : machine.holdsWithin host holds steps = true)
    (moment : Nat) : holds (machine.run host moment) := by
  induction steps generalizing machine moment with
  | zero =>
      rw [holdsWithin, Bool.and_eq_true, decide_eq_true_iff] at checked
      rw [run_of_hasHalted checked.1]
      exact checked.2
  | succ steps ih =>
      rw [holdsWithin, Bool.and_eq_true, decide_eq_true_iff] at checked
      cases moment with
      | zero => exact checked.1
      | succ moment => exact ih checked.2 moment

/-- A machine halts in one way only. -/
theorem Reaches.unique {host : Host} {start : Machine} {result other : Except BuildError Changelog}
    {first second : Session} (reaches : Reaches host start (.returning result [] first))
    (again : Reaches host start (.returning other [] second)) :
    result = other ∧ first = second := by
  obtain ⟨steps, ran⟩ := reaches
  obtain ⟨more, ranAgain⟩ := again
  have same := run_add host steps more start
  rw [ran, run_returning, Nat.add_comm, run_add, ranAgain, run_returning] at same
  cases same
  exact ⟨rfl, rfl⟩

end Machine

/-- The session in which the machine returns from a part of a build. -/
def Job.left : Job → Session → Session
  | .file _ _ _, last => last
  | .rest _ _, last => last.closed

/-- The machine takes every run, whatever the changelogs around are. -/
theorem Runs.reaches {host : Host} {job : Job} {session last : Session}
    {result : Except BuildError Changelog} (run : Runs host job session result last)
    (frames : List Frame) :
    Machine.Reaches host (.working job frames session)
      (.returning result frames (job.left last)) := by
  induction run generalizing frames with
  | refused entry => exact .head (by rw [Machine.step, entry]; rfl) (.refl _)
  | entered entry _ ih => exact .head (Machine.step_of_enter entry) (ih frames)
  | finished => exact .head rfl (.refl _)
  | failed step => exact .head (by rw [Machine.step, step]; rfl) (.refl _)
  | advanced step _ ih => exact .head (Machine.step_of_advance step) (ih frames)
  | broken step _ ih =>
      refine .head (Machine.step_of_visit step) ((ih _).trans ?_)
      exact .head rfl (.refl _)
  | returned step _ _ ihCall ihRest =>
      refine .head (Machine.step_of_visit step) ((ihCall _).trans ?_)
      exact .head rfl (ihRest frames)

/-- Two runs of the same part of a build have the same result. -/
theorem Runs.unique {host : Host} {path : String} {source : Option String}
    {arguments : List (String × Value)} {session first second : Session}
    {result other : Except BuildError Changelog}
    (run : Runs host (.file path source arguments) session result first)
    (again : Runs host (.file path source arguments) session other second) :
    result = other ∧ first = second :=
  (run.reaches []).unique (again.reaches [])

/-! ## What every moment of a build keeps -/

namespace Machine

/-- The paths of the changelogs that a machine is in, the outermost first. -/
def paths : Machine → List String
  | .working (.file _ _ _) frames _ => (frames.map (·.log.physicalPath)).reverse
  | .working (.rest log _) frames _ =>
      (frames.map (·.log.physicalPath)).reverse ++ [log.physicalPath]
  | .returning _ frames _ => (frames.map (·.log.physicalPath)).reverse

/-- The tasks that wait in the changelogs around name files by canonical paths. -/
def AreNormalized (frames : List Frame) : Prop :=
  ∀ frame ∈ frames, ∀ task ∈ frame.tasks, task.IsNormalized

/-- What a machine is about to do: a script that it enters is the root script, or included by a
canonical path. -/
def IsOrderly : Machine → Prop
  | .working (.file path source _) frames _ =>
      AreNormalized frames ∧ (frames ≠ [] → source = none ∧ IsNormalized path)
  | .working (.rest _ tasks) frames _ =>
      AreNormalized frames ∧ ∀ task ∈ tasks, task.IsNormalized
  | .returning _ frames _ => AreNormalized frames

/-- The invariant of a build from files in memory: the open files are those of the changelogs that
the machine is in, all different, and files of the store except for the root. -/
structure Invariant (files : MemoryStore) (machine : Machine) : Prop where
  openFiles : machine.session.openFiles = machine.paths
  areOpen : AreOpen files machine.session.openFiles
  orderly : machine.IsOrderly

variable {configuration : Configuration} {catalog : Catalog} {files : MemoryStore}
  {isPattern : String → Bool}

theorem invariant_start (host : Host) (path : String) (source : Option String)
    (arguments : List (String × Value)) : (start host path source arguments).Invariant files :=
  ⟨rfl, .nil, by simp [start, IsOrderly, AreNormalized]⟩

/-- The invariant after a script has been left, whatever it returns. -/
theorem invariant_returning (log : Changelog) {frames : List Frame} {session : Session}
    {result : Except BuildError Changelog}
    (openFiles : session.openFiles = (frames.map (·.log.physicalPath)).reverse ++
      [log.physicalPath])
    (areOpen : AreOpen files session.openFiles) (orderly : AreNormalized frames) :
    (returning result frames session.closed).Invariant files := by
  refine ⟨?_, areOpen.dropLast, orderly⟩
  simp [Machine.session, paths, openFiles]

theorem invariant_step {machine : Machine} (invariant : machine.Invariant files) :
    (machine.step (.ofMemory configuration catalog files isPattern)).Invariant files := by
  obtain ⟨openFiles, areOpen, orderly⟩ := invariant
  match machine with
  | .working (.file path source arguments) frames session =>
      simp only [Machine.session, paths] at openFiles areOpen
      obtain ⟨normalized, included⟩ := orderly
      cases entry : enter (.ofMemory configuration catalog files isPattern) path source arguments
        session with
      | error error =>
          rw [step, entry]
          exact ⟨openFiles, areOpen, normalized⟩
      | ok value =>
          obtain ⟨log, tasks⟩ := value
          obtain ⟨fresh, -, script, read, rfl⟩ := enter_eq_ok entry
          rw [step, entry]
          refine ⟨?_, ?_, normalized, ?_⟩
          · simp [Machine.session, paths, openFiles, enter_physicalPath entry]
          · refine areOpen.append (not_mem_of_fresh fresh) fun nonempty => ?_
            have inner : frames ≠ [] := by
              rintro rfl
              exact nonempty openFiles
            obtain ⟨rfl, isNormalized⟩ := included inner
            exact mem_keys_of_readScript isNormalized read
          · intro task member
            obtain ⟨e, -, rfl⟩ := List.mem_map.mp member
            trivial
  | .working (.rest log []) frames session =>
      exact invariant_returning _ openFiles areOpen orderly.1
  | .working (.rest log (task :: tasks)) frames session =>
      simp only [Machine.session, paths] at openFiles areOpen
      obtain ⟨normalized, areNormalized⟩ := orderly
      have rest : ∀ other ∈ tasks, other.IsNormalized := fun other member =>
        areNormalized other (List.mem_cons_of_mem task member)
      rw [step]
      cases outcome : task.perform (.ofMemory configuration catalog files isPattern) log
        session with
      | failure error => exact invariant_returning _ openFiles areOpen normalized
      | advance after more later =>
          have advances := Task.perform_advances outcome
          refine ⟨?_, ?_, normalized, ?_⟩
          · simp [Machine.session, paths, advances.openFiles, advances.physicalPath, openFiles]
          · simpa [Machine.session, advances.openFiles] using areOpen
          · intro other member
            rcases List.mem_append.mp member with new | old
            · exact advances.isNormalized other new
            · exact rest other old
      | visit target inclusion =>
          obtain ⟨rfl, -⟩ := Task.perform_visits outcome
          refine ⟨by simp [Machine.session, paths, openFiles], areOpen, ?_, fun _ => ⟨rfl, ?_⟩⟩
          · intro frame member
            rcases List.mem_cons.mp member with rfl | outer
            · exact rest
            · exact normalized frame outer
          · exact areNormalized _ List.mem_cons_self
  | .returning (.ok child) (frame :: frames) session =>
      refine ⟨by simpa [step, Machine.session, paths, splice] using openFiles, areOpen, ?_, ?_⟩
      · exact fun other member => orderly other (List.mem_cons_of_mem frame member)
      · exact orderly frame List.mem_cons_self
  | .returning (.error error) (frame :: frames) session =>
      refine invariant_returning frame.log ?_ areOpen ?_
      · simpa [Machine.session, paths] using openFiles
      · exact fun other member => orderly other (List.mem_cons_of_mem frame member)
  | .returning (.ok log) [] session => exact ⟨openFiles, areOpen, orderly⟩
  | .returning (.error error) [] session => exact ⟨openFiles, areOpen, orderly⟩

theorem invariant_run {machine : Machine} (invariant : machine.Invariant files) (steps : Nat) :
    (machine.run (.ofMemory configuration catalog files isPattern) steps).Invariant files := by
  induction steps generalizing machine with
  | zero => exact invariant
  | succ steps ih => exact ih (invariant_step invariant)

end Machine

/-- Every build from files in memory halts, with the result that `build` gives.  At every moment
each open file is open once, all but the root are files of the store, and so no more are open than
there are files, and the root.  Every script that is entered is left, and leaves the open files as
it found them, whether it succeeds or fails. -/
theorem build_halts_with_distinct_openFiles (configuration : Configuration) (catalog : Catalog)
    (files : MemoryStore) (isPattern : String → Bool) (path : String) (source : Option String)
    (arguments : List (String × Value)) :
    let host := Host.ofMemory configuration catalog files isPattern
    let start := Machine.start host path source arguments
    (∃ steps result last, start.run host steps = .returning result [] last ∧
      build host path source arguments = result.map (finish last)) ∧
    (∀ steps, let openFiles := (start.run host steps).session.openFiles
      openFiles.Nodup ∧ (∀ file ∈ openFiles.tail, file ∈ files.contents.keys) ∧
        openFiles.length ≤ files.contents.size + 1) ∧
    (∀ steps path source arguments frames session,
      start.run host steps = .working (.file path source arguments) frames session →
        ∃ more result last, start.run host (steps + more) = .returning result frames last ∧
          last.openFiles = session.openFiles) ∧
    (∀ depth target session, (load host depth target session).2.openFiles = session.openFiles) := by
  intro host start
  have invariant (steps : Nat) : (start.run host steps).Invariant files :=
    Machine.invariant_run (Machine.invariant_start host path source arguments) steps
  refine ⟨?_, ?_, ?_, load_openFiles host⟩
  · obtain ⟨result, last, run, built⟩ :=
      build_runs configuration catalog files isPattern path source arguments
    obtain ⟨steps, halted⟩ := run.reaches []
    exact ⟨steps, result, last, halted, built⟩
  · intro steps openFiles
    have areOpen := (invariant steps).areOpen
    exact ⟨areOpen.distinct, areOpen.known, areOpen.length_le⟩
  · intro steps path source arguments frames session here
    have now := invariant steps
    rw [here] at now
    have openFiles : session.openFiles = (frames.map (·.log.physicalPath)).reverse := now.openFiles
    have areOpen : AreOpen files session.openFiles := now.areOpen
    have included : session.openFiles ≠ [] → source = none ∧ IsNormalized path := by
      intro nonempty
      refine now.orderly.2 ?_
      rintro rfl
      exact nonempty openFiles
    obtain ⟨result, last, run, -⟩ :=
      runs_file configuration catalog isPattern arguments areOpen included
    obtain ⟨more, left⟩ := run.reaches frames
    have there : start.run host (steps + more) = .returning result frames last := by
      rw [Machine.run_add, here, left]
      rfl
    refine ⟨more, result, last, there, ?_⟩
    have then' := (invariant (steps + more)).openFiles
    rw [there] at then'
    exact then'.trans openFiles.symm

end Migration.Changelog
