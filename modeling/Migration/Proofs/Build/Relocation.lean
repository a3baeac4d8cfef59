import Migration.Proofs.Build.Moved

/-!
# Whole builds in another directory

Where every element that a build comes to names files from where its changelog is, the build goes
the same way after all files have been moved into a directory.  The main statement, `build_moved`,
says that it gives the same changelog, in which only the paths of files have gained the directory in
front.
-/

namespace Migration.Changelog

/-! ## Moments -/

namespace Machine

/-- Whether a machine that is about to take an element takes one that is portable. -/
def IsPortable (host : Host) : Machine → Prop
  | .working (.rest log (.item _ (.element e) :: _)) _ session =>
      Changelog.IsPortable host (log.siteIn session) e
  | _ => True

/-- The mark of the changeset that a machine is about to take, if it is about to take one. -/
def marks : Machine → List Bool
  | .working (.rest log (task :: _)) _ session => task.marks log session
  | _ => []

/-- The marks of the changesets that a machine takes within a number of steps. -/
def marksWithin (host : Host) : Nat → Machine → List Bool
  | 0, _ => []
  | steps + 1, machine => machine.marks ++ marksWithin host steps (machine.step host)

instance (host : Host) : DecidablePred (IsPortable host)
  | .working (.rest log (.item _ (.element e) :: _)) _ session =>
      inferInstanceAs (Decidable (Changelog.IsPortable host (log.siteIn session) e))
  | .working (.rest _ (.item _ (.text _) :: _)) _ _ | .working (.rest _ (.root _ :: _)) _ _
  | .working (.rest _ (.file _ _ :: _)) _ _ | .working (.rest _ []) _ _
  | .working (.file _ _ _) _ _ | .returning _ _ _ => .isTrue trivial

/-- Whether every element that a machine comes to is portable. -/
def StaysPortable (host : Host) (machine : Machine) : Prop :=
  ∀ steps, (machine.run host steps).IsPortable host

/-- Whether a machine halts within a number of steps and every element it comes to is portable. -/
def isPortableWithin (host : Host) : Nat → Machine → Bool
  | 0, machine => machine.hasHalted
  | steps + 1, machine =>
      decide (machine.IsPortable host) && isPortableWithin host steps (machine.step host)

/-- Whether a machine comes from one moment to another, and takes changesets with some marks on the
way. -/
def Takes (host : Host) (first : Machine) (marks : List Bool) (last : Machine) : Prop :=
  ∃ steps, first.run host steps = last ∧ first.marksWithin host steps = marks

theorem marksWithin_add (host : Host) (first second : Nat) (machine : Machine) :
    machine.marksWithin host (first + second) =
      machine.marksWithin host first ++ (machine.run host first).marksWithin host second := by
  induction first generalizing machine with
  | zero => simp [run, marksWithin]
  | succ first ih => rw [Nat.succ_add, marksWithin, marksWithin, ih, run, List.append_assoc]

section

variable {host : Host} {first middle last : Machine} {front back : List Bool}

theorem Takes.head (step : first.step host = middle) (rest : Takes host middle back last) :
    Takes host first (first.marks ++ back) last := by
  obtain ⟨steps, ran, marked⟩ := rest
  exact ⟨steps + 1, by rw [run, step, ran], by rw [marksWithin, step, marked]⟩

theorem Takes.trans (start : Takes host first front middle) (rest : Takes host middle back last) :
    Takes host first (front ++ back) last := by
  obtain ⟨steps, rfl, rfl⟩ := start
  obtain ⟨more, rfl, rfl⟩ := rest
  exact ⟨steps + more, run_add host steps more first, marksWithin_add host steps more first⟩

theorem StaysPortable.after (portable : first.StaysPortable host)
    (takes : Takes host first front last) : last.StaysPortable host := by
  obtain ⟨steps, rfl, -⟩ := takes
  intro more
  rw [← run_add]
  exact portable (steps + more)

theorem StaysPortable.step (portable : first.StaysPortable host) :
    (first.step host).StaysPortable host :=
  fun steps => portable (steps + 1)

end

theorem staysPortable_of_isPortableWithin {host : Host} {steps : Nat} {machine : Machine}
    (checked : machine.isPortableWithin host steps = true) : machine.StaysPortable host := by
  induction steps generalizing machine with
  | zero =>
      match machine with
      | .returning result [] session =>
          intro more
          rw [run_returning]
          trivial
      | .returning _ (_ :: _) _ | .working _ _ _ => cases checked
  | succ steps ih =>
      rw [isPortableWithin, Bool.and_eq_true, decide_eq_true_iff] at checked
      intro more
      cases more with
      | zero => exact checked.1
      | succ more => exact ih checked.2 more

end Machine

/-! ## Runs -/

section Runs

variable {configuration : Configuration} {catalog : Catalog} {files : MemoryStore}
  {isPattern : String → Bool}
  {directory : String}

/-- A file that is included in a run that succeeds is one of the files. -/
theorem Runs.isPlain_targets (plain : files.IsPlain) {job : Job} {session last : Session}
    {result : Except BuildError Changelog}
    (run : Runs (.ofMemory configuration catalog files isPattern) job session result last)
    {final : Changelog} (succeeded : result = .ok final) :
    match job with
    | .file path source _ => source = none → Path.IsPlain path
    | .rest _ tasks => ∀ target inclusion, Task.file target inclusion ∈ tasks →
        Path.IsPlain target := by
  induction run generalizing final with
  | refused | failed | broken => cases succeeded
  | entered entry _ _ =>
      rintro rfl
      obtain ⟨-, -, script, read, -⟩ := enter_eq_ok entry
      exact Path.IsPlain.of_normalize (isPlain_of_readScript plain read)
  | finished => simp
  | advanced step _ ih =>
      intro target inclusion member
      refine ih succeeded target inclusion (List.mem_append_right _ ?_)
      rcases List.mem_cons.mp member with same | later
      · subst same
        exact nomatch Task.perform_advances step
      · exact later
  | returned step _ _ ihCall ihRest =>
      obtain ⟨rfl, -⟩ := Task.perform_visits step
      intro target inclusion member
      rcases List.mem_cons.mp member with same | later
      · cases same
        exact ihCall rfl rfl
      · exact ihRest succeeded target inclusion later

/-- What becomes of a run that succeeds when all files are moved into a directory: it goes the same
way, and the changesets that it takes on the way are moved by their marks. -/
def Moves (configuration : Configuration) (catalog : Catalog) (files : MemoryStore)
    (isPattern : String → Bool) (directory : String) (job : Job) (session : Session)
    (final : Changelog) (last : Session) (frames : List Frame) : Prop :=
  match job with
  | .file path source arguments => source = none →
      ∃ marks, marks.length = final.changesets.length ∧
        Machine.Takes (.ofMemory configuration catalog files isPattern)
          (.working (.file path none arguments) frames session) marks
          (.returning (.ok final) frames last) ∧
        Runs (.ofMemory configuration catalog (files.moved directory) isPattern)
          (.file (directory ++ path) none arguments) (session.moved directory)
          (.ok (final.moved directory marks)) (last.moved directory)
  | .rest log tasks => ¬ Path.virtualRoot.isPrefixOf log.physicalPath.toList →
      ∃ more, final.changesets.length = log.changesets.length + more.length ∧
        Machine.Takes (.ofMemory configuration catalog files isPattern)
          (.working (.rest log tasks) frames session) more
          (.returning (.ok final) frames last.closed) ∧
        ∀ marks, marks.length = log.changesets.length →
          Runs (.ofMemory configuration catalog (files.moved directory) isPattern)
            (.rest (log.moved directory marks) (tasks.map (Task.moved directory)))
            (session.moved directory) (.ok (final.moved directory (marks ++ more)))
            (last.moved directory)

/-- A script that has been entered moves if what it declares moves. -/
theorem Moves.entered (isDirectory : Path.IsDirectory directory) (plain : files.IsPlain)
    {path : String} {source : Option String} {arguments : List (String × Value)}
    {session last : Session} {log final : Changelog} {tasks : List Task} {frames : List Frame}
    (entry : enter (.ofMemory configuration catalog files isPattern) path source arguments session =
      .ok (log, tasks))
    (inside : Moves configuration catalog files isPattern directory (.rest log tasks)
      (session.opened (Path.normalize path)) final last frames) :
    Moves configuration catalog files isPattern directory (.file path source arguments) session
      final last.closed frames := by
  rintro rfl
  obtain ⟨here, entered⟩ := enter_moved isDirectory plain entry
  obtain ⟨-, taken, -⟩ := enter_eq_ok entry
  have unmarked : ¬ Path.virtualRoot.isPrefixOf log.physicalPath.toList := by
    rw [enter_physicalPath entry, Path.normalize, String.toList_ofList]
    exact here.1.2.1
  have nothing : log.changesets = [] := by
    obtain ⟨_, _, _, rfl⟩ := takeArguments_eq_ok taken
    rfl
  obtain ⟨marks, length, takes, moved⟩ := inside unmarked
  have run := moved [] (by rw [nothing]; rfl)
  rw [Session.opened_moved, ← Path.normalize_append isDirectory here] at run
  refine ⟨marks, by simpa [nothing] using length.symm, .head (Machine.step_of_enter entry) takes, ?_⟩
  rw [Session.closed_moved]
  exact .entered entered run

/-- A task that is done moves, and so does what comes after it. -/
theorem Moves.advanced (isDirectory : Path.IsDirectory directory)
    (builtin : catalog.plugins = Catalog.builtin.plugins) (plain : files.IsPlain)
    (named : ∀ key ∈ files.contents.keys, Path.isBareExtension key = false)
    {log after final : Changelog} {task : Task} {tasks more : List Task}
    {session later last : Session} {frames : List Frame}
    (step : task.perform (.ofMemory configuration catalog files isPattern) log session =
      .advance after more later)
    (portable : ∀ line e, task = .item line (.element e) →
      IsPortable (.ofMemory configuration catalog files isPattern) (log.siteIn session) e)
    (targets : ∀ target inclusion, Task.file target inclusion ∈ more → Path.IsPlain target)
    (rest : Moves configuration catalog files isPattern directory (.rest after (more ++ tasks))
      later final last frames) :
    Moves configuration catalog files isPattern directory (.rest log (task :: tasks)) session final
      last frames := by
  intro unmarked
  have advances := Task.perform_advances step
  have declared := advances.length_changesets
  obtain ⟨marksAfter, length, takes, moved⟩ := rest (advances.physicalPath ▸ unmarked)
  refine ⟨task.marks log session ++ marksAfter, ?_, .head (Machine.step_of_advance step) takes,
    fun marks all => ?_⟩
  · rw [List.length_append]
    omega
  · have step' := advances.moved isDirectory builtin plain named unmarked all portable targets
    have run := moved (marks ++ task.marks log session) (by rw [List.length_append]; omega)
    rw [List.map_append, List.append_assoc] at run
    exact .advanced step'.perform_eq run

/-- An included script that moves is spliced in where it was before. -/
theorem Moves.returned (isDirectory : Path.IsDirectory directory) {log child final : Changelog}
    {tasks : List Task} {session later last : Session} {target : String} {inclusion : Inclusion}
    {frames : List Frame}
    (step : (Task.file target inclusion).perform (.ofMemory configuration catalog files isPattern)
      log session = .visit target inclusion)
    (call : Moves configuration catalog files isPattern directory (.file target none []) session
      child later (⟨log, tasks, inclusion⟩ :: frames))
    (rest : Moves configuration catalog files isPattern directory
      (.rest (log.splice { child with inclusion }) tasks) later final last frames) :
    Moves configuration catalog files isPattern directory
      (.rest log (.file target inclusion :: tasks)) session final last frames := by
  intro unmarked
  obtain ⟨inner, length, takes, moved⟩ := call rfl
  obtain ⟨marksAfter, lengthAfter, takesRest, movedRest⟩ := rest unmarked
  have back : Machine.Takes (.ofMemory configuration catalog files isPattern)
      (.returning (.ok child) (⟨log, tasks, inclusion⟩ :: frames) later) marksAfter
      (.returning (.ok final) frames last.closed) := .head rfl takesRest
  refine ⟨inner ++ marksAfter, ?_, .head (Machine.step_of_visit step) (takes.trans back),
    fun marks all => ?_⟩
  · have spliced : (log.splice { child with inclusion }).changesets.length =
        log.changesets.length + child.changesets.length := by simp [splice]
    rw [List.length_append]
    omega
  · have step' : (Task.file (directory ++ target) inclusion).perform
        (.ofMemory configuration catalog (files.moved directory) isPattern)
        (log.moved directory marks) (session.moved directory) =
          .visit (directory ++ target) inclusion := by
      obtain ⟨-, isScript⟩ := Task.perform_visits step
      simp [Task.perform, Path.isScript_append isDirectory, isScript]
    have run := movedRest (marks ++ inner) (by simp [splice, all, length])
    rw [← @splice_moved directory marks inner log { child with inclusion } all] at run
    rw [← List.append_assoc]
    exact .returned step' moved run

/-- Every run that succeeds and comes to portable elements only moves. -/
theorem moves_of_runs (isDirectory : Path.IsDirectory directory)
    (builtin : catalog.plugins = Catalog.builtin.plugins) (plain : files.IsPlain)
    (named : ∀ key ∈ files.contents.keys, Path.isBareExtension key = false) {job : Job}
    {session last : Session} {result : Except BuildError Changelog}
    (run : Runs (.ofMemory configuration catalog files isPattern) job session result last)
    {final : Changelog} (succeeded : result = .ok final) {frames : List Frame}
    (portable : (Machine.working job frames session).StaysPortable
      (.ofMemory configuration catalog files isPattern)) :
    Moves configuration catalog files isPattern directory job session final last frames := by
  induction run generalizing final frames with
  | refused | failed | broken => cases succeeded
  | finished =>
      cases succeeded
      intro _
      refine ⟨[], rfl, ⟨1, rfl, rfl⟩, fun marks _ => ?_⟩
      rw [List.append_nil]
      exact .finished
  | entered entry _ ih =>
      exact .entered isDirectory plain entry
        (ih succeeded (Machine.step_of_enter entry ▸ portable.step))
  | advanced step run ih =>
      refine .advanced isDirectory builtin plain named step ?_ ?_
        (ih succeeded (Machine.step_of_advance step ▸ portable.step))
      · rintro line e rfl
        exact portable 0
      · intro target inclusion member
        exact run.isPlain_targets plain succeeded target inclusion (List.mem_append_left _ member)
  | returned step _ _ ihCall ihRest =>
      obtain ⟨rfl, -⟩ := Task.perform_visits step
      have entering := Machine.step_of_visit step ▸ portable.step
      have call := ihCall rfl entering
      obtain ⟨marks, -, takes, -⟩ := call rfl
      exact .returned isDirectory step call (ihRest succeeded (entering.after takes).step)

end Runs

/-! ## The theorem -/

/-- A build whose elements are all portable gives the same changelog in another directory, in which
the paths of changelogs have gained that directory in front, and of the paths of changesets exactly
those that are where the file of their changelog is. -/
theorem build_moved (configuration : Configuration) {catalog : Catalog}
    {files : List (String × String)} {isPattern : String → Bool} {directory path : String}
    (arguments : List (String × Value)) (isDirectory : Path.IsDirectory directory)
    (builtin : catalog.plugins = Catalog.builtin.plugins)
    (plain : ∀ file ∈ files, Path.IsPlain file.1)
    (named : ∀ file ∈ files, Path.isBareExtension (Path.normalize file.1) = false)
    (portable : (Machine.start (.ofMemory configuration catalog (.ofList files) isPattern) path none
      arguments).StaysPortable (.ofMemory configuration catalog (.ofList files) isPattern))
    {log : Changelog}
    (built : build (.ofMemory configuration catalog (.ofList files) isPattern) path none arguments =
      .ok log) :
    ∃ marks final last,
      (Machine.start (.ofMemory configuration catalog (.ofList files) isPattern) path none
          arguments).Takes (.ofMemory configuration catalog (.ofList files) isPattern) marks
        (.returning (.ok final) [] last) ∧
      marks.length = log.changesets.length ∧
      build (.ofMemory configuration catalog
          (.ofList (files.map fun file => (directory ++ file.1, file.2))) isPattern)
        (directory ++ path) none arguments = .ok (log.moved directory marks) := by
  have isPlain := MemoryStore.isPlain_ofList plain
  have isNamed : ∀ key ∈ (MemoryStore.ofList files).contents.keys,
      Path.isBareExtension key = false := by
    intro key member
    obtain ⟨file, isFile, rfl⟩ := MemoryStore.mem_keys_ofList member
    exact named file isFile
  obtain ⟨final, last, run, rfl⟩ := runs_of_build_eq_ok built
  obtain ⟨marks, length, takes, moved⟩ :=
    moves_of_runs isDirectory builtin isPlain isNamed run rfl portable rfl
  refine ⟨marks, final, last, takes, length, ?_⟩
  rw [MemoryStore.ofList_moved isDirectory plain]
  obtain ⟨result, last', again, rebuilt⟩ := build_runs configuration catalog
    ((MemoryStore.ofList files).moved directory) isPattern (directory ++ path) none arguments
  obtain ⟨rfl, rfl⟩ := moved.unique again
  rw [rebuilt]
  rfl

/-- Two scripts, one of which includes the directory of the other. -/
def siblingFiles : List (String × String) := [
  ("db/main.qcl", r"databaseChangeLog { property(name: 'n', value: 'v') " ++
    r"includeAll(path: '../x', relativeToChangelogFile: true) }"),
  ("x/a.qcl", r"databaseChangeLog { changeSet(id: '1', author: 'm') { } " ++
    r"changeSet(id: '2', author: '${n}', filePath: 'p') { } }")]

theorem siblingFiles_portable :
    (Machine.start (.ofMemory {} .builtin (.ofList siblingFiles)) "db/main.qcl" none
      []).StaysPortable (.ofMemory {} .builtin (.ofList siblingFiles)) :=
  @Machine.staysPortable_of_isPortableWithin _ 12 _ (by decide +kernel)

/-- Moved into a directory, the first changeset is there, and the second one where it says. -/
theorem build_moved_siblingFiles :
    Path.IsDirectory "d/" ∧ (∀ file ∈ siblingFiles, Path.IsPlain file.1) ∧
      (∀ file ∈ siblingFiles, Path.isBareExtension (Path.normalize file.1) = false) ∧
      ∃ log, build (.ofMemory {} .builtin (.ofList siblingFiles)) "db/main.qcl" none [] = .ok log ∧
        (log.changesets.map fun changeset => (changeset.author, changeset.filePath)) =
          [("m", "x/a.qcl"), ("v", "p")] ∧
        ∃ marks final last,
          (Machine.start (.ofMemory {} .builtin (.ofList siblingFiles)) "db/main.qcl" none []).Takes
            (.ofMemory {} .builtin (.ofList siblingFiles)) marks
            (.returning (.ok final) [] last) ∧
          marks.length = log.changesets.length ∧
          build (.ofMemory {} .builtin
              (.ofList (siblingFiles.map fun file => ("d/" ++ file.1, file.2))))
            ("d/" ++ "db/main.qcl") none [] = .ok (log.moved "d/" marks) := by
  have isDirectory : Path.IsDirectory "d/" := by decide
  have plain : ∀ file ∈ siblingFiles, Path.IsPlain file.1 := by decide
  have named : ∀ file ∈ siblingFiles, Path.isBareExtension (Path.normalize file.1) = false := by
    decide
  have evaluated : ((build (.ofMemory {} .builtin (.ofList siblingFiles)) "db/main.qcl" none
      []).toOption.map fun log => log.changesets.map fun changeset =>
        (changeset.author, changeset.filePath)) = some [("m", "x/a.qcl"), ("v", "p")] := by
    decide +kernel
  obtain ⟨log, built, changesets⟩ := exists_ok_of_toOption evaluated
  exact ⟨isDirectory, plain, named, log, built, changesets,
    build_moved {} [] isDirectory rfl plain named siblingFiles_portable built⟩

/-- Three scripts, one of which has no name but the extension. -/
def bareFiles : List (String × String) := [
  ("main", r"databaseChangeLog { includeAll(path: '.', relativeToChangelogFile: true) }"),
  ("a.qcl", r"databaseChangeLog { changeSet(id: '1', author: 'm') { } }"),
  (".QCL", r"databaseChangeLog { changeSet(id: '2', author: 'm') { } }")]

/-- A file that has no name but the extension, in other letters than the usual ones, is passed over
at the top but included in a directory. -/
theorem not_build_moved_bareFiles :
    (∀ file ∈ bareFiles, Path.IsPlain file.1 ∧ file.1 ≠ ".qcl") ∧
      (Machine.start (.ofMemory {} .builtin (.ofList bareFiles)) "main" none []).StaysPortable
        (.ofMemory {} .builtin (.ofList bareFiles)) ∧
      ∃ log, build (.ofMemory {} .builtin (.ofList bareFiles)) "main" none [] = .ok log ∧
        ∀ marks, build (.ofMemory {} .builtin
            (.ofList (bareFiles.map fun file => ("d/" ++ file.1, file.2)))) "d/main" none [] ≠
          .ok (log.moved "d/" marks) := by
  have evaluated : ((build (.ofMemory {} .builtin (.ofList bareFiles)) "main" none
      []).toOption.map (·.changesets.length)) = some 1 := by
    decide +kernel
  have elsewhere : ((build (.ofMemory {} .builtin
      (.ofList (bareFiles.map fun file => ("d/" ++ file.1, file.2)))) "d/main" none
      []).toOption.map (·.changesets.length)) = some 2 := by
    decide +kernel
  obtain ⟨log, built, one⟩ := exists_ok_of_toOption evaluated
  refine ⟨by decide, @Machine.staysPortable_of_isPortableWithin _ 12 _ (by decide +kernel), log,
    built, fun marks same => ?_⟩
  rw [same] at elsewhere
  have two : (log.moved "d/" marks).changesets.length = 2 := Option.some.inj elsewhere
  rw [moved, List.length_zipWith, one] at two
  omega

end Migration.Changelog
