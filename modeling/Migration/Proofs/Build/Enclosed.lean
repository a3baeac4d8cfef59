import Migration.Proofs.Build.Bounded
import Migration.Proofs.Build.Causes
import Migration.Proofs.Build.Circle
import Migration.Proofs.Build.Relocation
import Migration.Proofs.Property.Plain
import Migration.Proofs.Script.Print

/-!
# Builds from inside another script

While a script is read, nothing depends on which scripts are open around it, as long as none of them
is entered again.  So a script that does nothing but include a file builds what the file builds
alone, which `build_enclosed` says; `not_build_enclosed` shows that the canonical path of the file
has to be one for good.
-/

namespace Migration

/-- A cause of failure with one more script around all that are open. -/
def BuildError.enclosed (root : String) : BuildError → BuildError
  | .circularInclude path chain => .circularInclude path (root :: chain)
  | error => error

theorem BuildError.enclosed_of_isLocal {error : BuildError} (isLocal : error.isLocal)
    (root : String) : error.enclosed root = error := by
  cases error <;> first | rfl | cases isLocal

theorem FailsFor.mapError_enclosed {α : Type} {step : Except BuildError α}
    (fails : FailsLocally step) (root : String) : step.mapError (·.enclosed root) = step := by
  cases step with
  | ok value => rfl
  | error error =>
      exact congrArg Except.error (BuildError.enclosed_of_isLocal (fails error rfl) root)

namespace Session

/-- A session with one more script around all that are open. -/
def enclosed (session : Session) (root : String) : Session :=
  { session with openFiles := root :: session.openFiles }

theorem closed_enclosed {session : Session} (isOpen : session.openFiles ≠ []) (root : String) :
    (session.enclosed root).closed = session.closed.enclosed root := by
  simp [closed, enclosed, List.dropLast_cons_of_ne_nil isOpen]

end Session

namespace Changelog

variable {host : Host} {root : String}

/-! ## Steps inside another script -/

def Outcome.enclosed (root : String) : Outcome → Outcome
  | .advance log more session => .advance log more (session.enclosed root)
  | .visit target inclusion => .visit target inclusion
  | .failure error => .failure error

theorem Outcome.enclosed_ofExcept {α : Type} {result : Except BuildError α}
    {next other : α → Outcome} (same : ∀ value, other value = (next value).enclosed root) :
    Outcome.ofExcept result other = (Outcome.ofExcept result next).enclosed root := by
  cases result with
  | ok value => exact same value
  | error error => rfl

theorem performElement_enclosed (log : Changelog) (session : Session) (e : Element) :
    performElement host log (session.enclosed root) e =
      (performElement host log session e).enclosed root := by
  unfold performElement
  repeat
    split
    · exact Outcome.enclosed_ofExcept fun _ => rfl
  rfl

/-- A task does the same inside another script. -/
theorem Task.perform_enclosed (log : Changelog) (session : Session) (task : Task) :
    task.perform host log (session.enclosed root) =
      (task.perform host log session).enclosed root := by
  cases task with
  | root e =>
      simp only [perform]
      split
      · exact Outcome.enclosed_ofExcept fun _ => rfl
      · rfl
  | item line item =>
      cases item with
      | text s => rfl
      | element e => exact performElement_enclosed log session e
  | file target inclusion =>
      simp only [perform]
      split <;> rfl

theorem Task.visits_enclosed {log : Changelog} {session : Session} {task : Task} {target : String}
    {inclusion : Inclusion} (step : task.perform host log session = .visit target inclusion)
    (root : String) :
    task.perform host log (session.enclosed root) = .visit target inclusion := by
  rw [perform_enclosed, step]
  rfl

theorem enter_enclosed {path : String} (source : Option String) (arguments : List (String × Value))
    (session : Session) (apart : ¬ Path.same root (Path.normalize path)) :
    enter host path source arguments (session.enclosed root) =
      (enter host path source arguments session).mapError (·.enclosed root) := by
  have isOpen : (session.enclosed root).openFiles.any (Path.same · (Path.normalize path)) =
      session.openFiles.any (Path.same · (Path.normalize path)) := by
    simp [Session.enclosed, apart]
  simp only [enter, isOpen]
  split
  · rfl
  · exact ((failsLocally_begin host _ source arguments).mapError_enclosed root).symm

/-! ## Runs inside another script -/

namespace Machine

/-- The canonical path of the script that a machine is about to enter, if it is. -/
def entering? : Machine → Option String
  | .working (.file path _ _) _ _ => some (Path.normalize path)
  | _ => none

/-- Whether a machine never comes to enter a script. -/
def NeverEnters (host : Host) (root : String) (machine : Machine) : Prop :=
  ∀ steps, ∀ path ∈ (machine.run host steps).entering?, ¬ Path.same root path

theorem NeverEnters.step {machine : Machine} (never : machine.NeverEnters host root) :
    (machine.step host).NeverEnters host root :=
  fun steps => never (steps + 1)

theorem NeverEnters.after {first last : Machine} (never : first.NeverEnters host root)
    (reaches : Reaches host first last) : last.NeverEnters host root := by
  obtain ⟨steps, rfl⟩ := reaches
  intro more
  rw [← run_add]
  exact never (steps + more)

/-- A machine that halts enters nothing afterwards. -/
theorem neverEnters_of_hasHalted {machine : Machine} {steps : Nat}
    (checked : (machine.run host steps).hasHalted ∧ ∀ fewer ≤ steps,
      ∀ path ∈ (machine.run host fewer).entering?, ¬ Path.same root path) :
    machine.NeverEnters host root := by
  obtain ⟨halted, early⟩ := checked
  intro more path member
  rcases Nat.le_total more steps with few | many
  · exact early more few path member
  · obtain ⟨rest, rfl⟩ := Nat.exists_eq_add_of_le many
    rw [run_add, run_of_hasHalted halted] at member
    exact early steps (Nat.le_refl steps) path member

end Machine

/-- A result from inside another script: a circle has that script in front, unless the result is a
circle that an extension speaks of. -/
def IsEnclosed (host : Host) (root : String) (result other : Except BuildError Changelog) : Prop :=
  other = result.mapError (·.enclosed root) ∨ other = result ∧ ¬ host.catalog.FinishesLocally

theorem isEnclosed_ok_iff {log : Changelog} {other : Except BuildError Changelog} :
    IsEnclosed host root (.ok log) other ↔ other = .ok log :=
  ⟨fun isEnclosed => isEnclosed.elim id And.left, .inl⟩

theorem IsEnclosed.error {error : BuildError} {other : Except BuildError Changelog}
    (isEnclosed : IsEnclosed host root (.error error) other) : ∃ cause, other = .error cause := by
  rcases isEnclosed with rfl | ⟨rfl, -⟩
  · exact ⟨_, rfl⟩
  · exact ⟨_, rfl⟩

/-- The result of a task that fails is the same inside another script. -/
theorem isEnclosed_of_failure {log : Changelog} {session : Session} {task : Task}
    {error : BuildError} (step : task.perform host log session = .failure error) :
    IsEnclosed host root (.error error) (.error error) := by
  by_cases finishes : host.catalog.FinishesLocally
  · refine .inl (congrArg Except.error ?_)
    rcases Task.failure_cases finishes step with isLocal | ⟨_, _, -, -, _, _, _, -, _, _, _, rfl, -⟩
    · exact (BuildError.enclosed_of_isLocal isLocal root).symm
    · rfl
  · exact .inr ⟨rfl, finishes⟩

/-- A run that never enters a script goes the same way inside it. -/
theorem Runs.enclosed {job : Job} {session last : Session} {result : Except BuildError Changelog}
    (run : Runs host job session result last) {frames : List Frame}
    (never : (Machine.working job frames session).NeverEnters host root) :
    ∃ other, IsEnclosed host root result other ∧
      Runs host job (session.enclosed root) other (last.enclosed root) := by
  -- The induction is on the run.  That a part of it never enters the script is known of the machine
  -- that takes it, which has more changelogs around inside an included file.
  induction run generalizing frames with
  | @refused path source arguments session error entry =>
      refine ⟨_, .inl rfl, .refused ?_⟩
      rw [enter_enclosed source arguments session (never 0 _ rfl), entry]
      rfl
  | @entered path source arguments session last log tasks result entry run ih =>
      have enters :
          enter host path source arguments (session.enclosed root) = .ok (log, tasks) := by
        rw [enter_enclosed source arguments session (never 0 _ rfl), entry]
        rfl
      obtain ⟨other, isEnclosed, inside⟩ := ih (Machine.step_of_enter entry ▸ never.step)
      have stillOpen : last.openFiles ≠ [] := by simp [run.openFiles]
      rw [← Session.closed_enclosed stillOpen]
      exact ⟨other, isEnclosed, .entered enters inside⟩
  | finished => exact ⟨_, .inl rfl, .finished⟩
  | failed step =>
      refine ⟨_, isEnclosed_of_failure step, .failed ?_⟩
      rw [Task.perform_enclosed, step]
      rfl
  | advanced step run ih =>
      obtain ⟨other, isEnclosed, rest⟩ := ih (Machine.step_of_advance step ▸ never.step)
      refine ⟨other, isEnclosed, .advanced ?_ rest⟩
      rw [Task.perform_enclosed, step]
      rfl
  | broken step call ih =>
      obtain ⟨other, isEnclosed, call⟩ := ih (Machine.step_of_visit step ▸ never.step)
      obtain ⟨cause, rfl⟩ := isEnclosed.error
      exact ⟨_, isEnclosed, .broken (Task.visits_enclosed step root) call⟩
  | returned step call run ihCall ihRest =>
      have entering := Machine.step_of_visit step ▸ never.step
      obtain ⟨_, isEnclosed, inside⟩ := ihCall entering
      obtain rfl := isEnclosed_ok_iff.mp isEnclosed
      obtain ⟨other, isEnclosed, rest⟩ := ihRest (entering.after (call.reaches _)).step
      exact ⟨other, isEnclosed, .returned (Task.visits_enclosed step root) inside rest⟩

/-- A file is read by its canonical path. -/
theorem Runs.file_congr {path other : String} (same : Path.normalize path = Path.normalize other)
    {source : Option String} {arguments : List (String × Value)} {session last : Session}
    {result : Except BuildError Changelog}
    (run : Runs host (.file path source arguments) session result last) :
    Runs host (.file other source arguments) session result last := by
  have entering : enter host path source arguments session =
      enter host other source arguments session := by simp only [enter, same]
  cases run with
  | refused entry => exact .refused (entering ▸ entry)
  | entered entry run => exact .entered (entering ▸ entry) (same ▸ run)

/-! ## Scripts that only include a file -/

/-- The inclusion of a file, with a context, labels and a flag to ignore as far as they are
given. -/
def inclusionElement (file : String) (context labels : Option String) (ignore : Option Bool)
    (line : Nat) : Element where
  name := "include"
  arguments := ⟨some "file", .str file⟩ ::
    ((context.map fun text => ⟨some "context", .str text⟩).toList ++
      (labels.map fun text => ⟨some "labels", .str text⟩).toList ++
      (ignore.map fun flag => ⟨some "ignore", .bool flag⟩).toList)
  block := none
  line

/-- A script that does nothing but include a file. -/
def includingScript (file : String) (context labels : Option String) (ignore : Option Bool)
    (rootLine line : Nat) : Script where
  elements := [{
    name := "databaseChangeLog"
    arguments := []
    block := some [.element (inclusionElement file context labels ignore line)]
    line := rootLine }]

/-- Such a script can be written down. -/
theorem parse_includingScript (file : String) (context labels : Option String)
    (ignore : Option Bool) :
    Script.parse (includingScript file context labels ignore 1 1).print =
      .ok (includingScript file context labels ignore 1 1) := by
  have isName {c : Char} {s : List Char} (start : Script.isNameStart c)
      (others : s.all Script.isNameChar) : Script.IsName (c :: s) :=
    .intro start (List.all_eq_true.mp others)
  have inclusion : Script.IsPrintableElement (inclusionElement file context labels ignore 1) := by
    refine @Script.IsPrintableElement.plain "include" _ 1 (isName (by decide) (by decide)) ?_
    simp only [List.mem_cons, List.mem_append, Option.mem_toList, Option.map_eq_some_iff]
    rintro _ (rfl | (⟨text, -, rfl⟩ | ⟨text, -, rfl⟩) | ⟨flag, -, rfl⟩)
    · exact .str file
    · exact .str text
    · exact .str text
    · exact .bool flag
  have printable : ∀ e ∈ (includingScript file context labels ignore 1 1).elements,
      Script.IsPrintableElement e := by
    intro e member
    obtain rfl := List.mem_singleton.mp member
    refine @Script.IsPrintableElement.block "databaseChangeLog" _ _ 1
      (isName (by decide) (by decide)) nofun fun inner isItem => ?_
    cases List.mem_singleton.mp isItem
    exact inclusion
  exact Script.parse_eq_ok (Script.isWritten_print printable)

theorem readScript_includingScript {path file : String} {context labels : Option String}
    {ignore : Option Bool}
    (found : host.store.text path = .ok (includingScript file context labels ignore 1 1).print) :
    readScript host path none = .ok (includingScript file context labels ignore 1 1) := by
  simp [readScript, found, parse_includingScript, bind, Except.bind, Except.mapError]

/-- The changelog of such a script, given that of the file. -/
def enclosing (root : String) (context labels : Option String) (ignore : Option Bool)
    (log : Changelog) : Changelog where
  physicalPath := root
  changesets := log.changesets.map fun changeset =>
    { changeset with
      inheritedContexts :=
        (context.map .ofText).toList ++ log.contexts.toList ++ changeset.inheritedContexts
      inheritedLabels := (labels.map .ofText).toList ++ changeset.inheritedLabels
      ignore := changeset.ignore || ignore.getD false }
  preconditions := log.preconditions.map fun container => { nested := [container.asPart] }
  properties := log.properties
  warnings := log.warnings

/-- The attributes of such an inclusion. -/
def inclusionAttributes (file : String) (context labels : Option String) (ignore : Option Bool) :
    Attributes :=
  [context.map fun text => ("context", Value.text text),
    labels.map fun text => ("labels", .text text),
    ignore.map fun flag => ("ignore", .bool flag)].reduceOption.foldl
    (fun attributes given => attributes.insert given.1 given.2)
    (NameMap.empty.insert "file" (.text file))

theorem inclusionOf_inclusionAttributes (file : String) (context labels : Option String)
    (ignore : Option Bool) :
    inclusionOf (inclusionAttributes file context labels ignore) = {
      contexts := context.map .ofText
      labels := labels.map .ofText
      ignore := ignore.getD false } := by
  cases context <;> cases labels <;> cases ignore <;>
    simp [inclusionOf, inclusionAttributes, Attributes.text?, Attributes.flag?, Value.text?,
      Value.bool?]

theorem filePaths_enclosing (root : String) (context labels : Option String) (ignore : Option Bool)
    (log : Changelog) :
    (enclosing root context labels ignore log).changesets.map (·.filePath) =
      log.changesets.map (·.filePath) := by
  rw [enclosing, List.map_map]
  rfl

/-- Where there are no properties, an inclusion names its file as it is written. -/
theorem includedFile_inclusionElement (labelled : host.configuration.hostIncludeLabels = true)
    {site : Site} (noEntries : site.properties.entries = []) (file : String)
    (context labels : Option String) (ignore : Option Bool) (line : Nat) :
    includedFile host site (inclusionElement file context labels ignore line) =
      .ok (Path.normalize file, {
        contexts := context.map .ofText
        labels := labels.map .ofText
        ignore := ignore.getD false }) := by
  have plain (text : String) : site.expand text = text :=
    PropertyTable.expand_of_no_entries noEntries text site.path
  have attributes : site.attributes (includeSchema host) (some "file")
      (inclusionElement file context labels ignore line) =
        .ok (inclusionAttributes file context labels ignore) := by
    rw [includeSchema, if_pos labelled]
    cases context <;> cases labels <;> cases ignore <;>
      simp [inclusionElement, Site.attributes, Site.call, Element.hasPositional, Element.hasNamed,
        Site.resolveNamed, Site.resolve, plain, bind, Except.bind, pure, Except.pure, Except.map]
      <;> rfl
  have isFile : (inclusionAttributes file context labels ignore).text? "file" = some file := by
    cases context <;> cases labels <;> cases ignore <;>
      simp [inclusionAttributes, Attributes.text?, Value.text?]
  have notRelative :
      (inclusionAttributes file context labels ignore).flag? "relativeToChangelogFile" = none := by
    cases context <;> cases labels <;> cases ignore <;>
      simp [inclusionAttributes, Attributes.flag?]
  have noBlock : withoutBlock (inclusionElement file context labels ignore line) = .ok () := rfl
  have complete := checkRequired_includeSchema host (has_of_text? isFile)
  simp only [includedFile, noBlock, attributes, complete, isFile, notRelative, bind, Except.bind,
    inclusionOf_inclusionAttributes]
  rfl

/-! ## The theorem -/

/-- A script that only includes a file runs as the file does inside it. -/
theorem runs_of_includingScript (labelled : host.configuration.hostIncludeLabels = true)
    {file : String} {source : Option String} {context labels : Option String}
    {ignore : Option Bool} {rootLine line : Nat}
    (reads : readScript host (Path.normalize root) source =
      .ok (includingScript file context labels ignore rootLine line))
    (isScript : Path.isScript (Path.normalize file) = true)
    {result : Except BuildError Changelog} {last : Session}
    (inside : Runs host (.file (Path.normalize file) none [])
      ((startSession host).enclosed (Path.normalize root)) result last) :
    Runs host (.file root source []) (startSession host)
      (result.map fun child => splice { physicalPath := Path.normalize root } { child with
        inclusion := {
          contexts := context.map .ofText
          labels := labels.map .ofText
          ignore := ignore.getD false } }) last.closed := by
  have fresh : (startSession host).openFiles.any (Path.same · (Path.normalize root)) = false := rfl
  refine .entered (enter_of_readScript fresh reads (takeArguments_nil _)) ?_
  -- The root element, its only item, and then the file that it includes.
  refine .advanced (Task.Advances.perform_eq (.root rfl rfl (takeArguments_nil _))) ?_
  let own : Changelog := { physicalPath := Path.normalize root }
  have found := @includedFile_inclusionElement host labelled
    (own.siteIn ((startSession host).opened (Path.normalize root))) rfl file context labels ignore
    line
  refine .advanced (Task.Advances.perform_eq (.inclusion rfl found)) ?_
  have visits (inclusion : Inclusion) :
      (Task.file (Path.normalize file) inclusion).perform host own
        ((startSession host).opened (Path.normalize root)) =
          .visit (Path.normalize file) inclusion := by
    rw [Task.perform, if_pos isScript]
  cases result with
  | ok child => exact .returned (visits _) inside .finished
  | error error => exact .broken (visits _) inside

/-- The changelog of a script that only includes a file is that of the file, enclosed. -/
theorem finish_splice (root : String) (context labels : Option String) (ignore : Option Bool)
    (last : Session) (child : Changelog) :
    finish (last.enclosed root).closed (splice { physicalPath := root } { child with
      inclusion := {
        contexts := context.map .ofText
        labels := labels.map .ofText
        ignore := ignore.getD false } }) =
      enclosing root context labels ignore (finish last child) := by
  obtain ⟨_, _, _, _, _, preconditions, _, _, _⟩ := child
  cases preconditions <;> rfl

/-- Where the canonical path of a file is one for good, a script that does nothing but include the
file, and that the file does not include, builds what the file builds alone: the same changesets,
which inherit from the inclusion and the file, the same properties and warnings, and the
preconditions of the file as a part of others that hold nothing else.  It fails for the same cause,
and if this is a circle, its chain begins with the script. -/
theorem build_enclosed (bounded : host.store.IsBounded)
    (labelled : host.configuration.hostIncludeLabels = true) {file : String}
    {source : Option String} {context labels : Option String} {ignore : Option Bool}
    {rootLine line : Nat}
    (reads : readScript host (Path.normalize root) source =
      .ok (includingScript file context labels ignore rootLine line))
    (isScript : Path.isScript (Path.normalize file) = true)
    (canonical : Path.normalize (Path.normalize file) = Path.normalize file)
    (never : (Machine.start host file none []).NeverEnters host (Path.normalize root)) :
    (∀ log, build host file none [] = .ok log →
      build host root source [] =
        .ok (enclosing (Path.normalize root) context labels ignore log)) ∧
    ∀ error, build host file none [] = .error error →
      build host root source [] = .error (error.enclosed (Path.normalize root)) ∨
      build host root source [] = .error error ∧ ¬ host.catalog.FinishesLocally := by
  obtain ⟨result, last, run, built⟩ := build_runs_of_isBounded bounded file none []
  obtain ⟨whole, final, wholeRun, wholeBuilt⟩ := build_runs_of_isBounded bounded root source []
  obtain ⟨inner, isEnclosed, inside⟩ := run.enclosed never
  have again := runs_of_includingScript labelled reads isScript (inside.file_congr canonical.symm)
  obtain ⟨rfl, rfl⟩ := wholeRun.unique again
  refine ⟨fun log succeeded => ?_, fun error failed => ?_⟩
  · obtain ⟨child, rfl, rfl⟩ := map_eq_ok.mp (built.symm.trans succeeded)
    obtain rfl := isEnclosed_ok_iff.mp isEnclosed
    rw [wholeBuilt, ← finish_splice]
    rfl
  · obtain rfl := map_eq_error.mp (built.symm.trans failed)
    rw [wholeBuilt]
    rcases isEnclosed with rfl | ⟨rfl, extended⟩
    · exact .inl rfl
    · exact .inr ⟨rfl, extended⟩

/-! ## Paths that are canonical, and paths that are not for good -/

/-- A file that is guarded and includes another one, and a script that includes it. -/
def enclosedFiles : MemoryStore :=
  .ofList [
    ("main.qcl", (includingScript "./d/a.qcl" (some "k") (some "l") (some true) 1 1).print),
    ("d/a.qcl", r"databaseChangeLog(context: 'c') { preConditions { dbms(type: 'h2') } " ++
      "include(file: 'b.qcl', relativeToChangelogFile: true) " ++
      r"changeSet(id: '1', author: 'm') { } }"),
    ("d/b.qcl", r"databaseChangeLog { changeSet(id: '2', author: 'm') { } }")]

theorem readScript_enclosedFiles :
    readScript (.ofMemory {} .builtin enclosedFiles) (Path.normalize "main.qcl") none =
      .ok (includingScript "./d/a.qcl" (some "k") (some "l") (some true) 1 1) :=
  readScript_includingScript rfl

theorem neverEnters_enclosedFiles :
    (Machine.start (.ofMemory {} .builtin enclosedFiles) "./d/a.qcl" none []).NeverEnters
      (.ofMemory {} .builtin enclosedFiles) (Path.normalize "main.qcl") :=
  @Machine.neverEnters_of_hasHalted _ _ _ 12 (by decide +kernel)

/-- The changesets of both files, the guard and the context are those of the file built alone, with
the script around. -/
theorem build_enclosedFiles :
    ∃ log, build (.ofMemory {} .builtin enclosedFiles) "./d/a.qcl" none [] = .ok log ∧
      (log.changesets.map (·.id), log.contexts, log.preconditions.isSome) =
        (["2", "1"], some ⟨"c"⟩, true) ∧
      build (.ofMemory {} .builtin enclosedFiles) "main.qcl" none [] =
        .ok (enclosing "main.qcl" (some "k") (some "l") (some true) log) := by
  have evaluated : ((build (.ofMemory {} .builtin enclosedFiles) "./d/a.qcl" none
      []).toOption.map fun log => (log.changesets.map (·.id), log.contexts,
        log.preconditions.isSome)) = some (["2", "1"], some ⟨"c"⟩, true) := by
    decide +kernel
  obtain ⟨log, built, facts⟩ := exists_ok_of_toOption evaluated
  have enclosed := @build_enclosed (.ofMemory {} .builtin enclosedFiles) "main.qcl"
    enclosedFiles.isBounded rfl _ none _ _ _ _ _ readScript_enclosedFiles (by decide)
    (Path.normalize_normalize (by decide)) neverEnters_enclosedFiles
  have canonical : Path.normalize "main.qcl" = "main.qcl" := by decide
  rw [canonical] at enclosed
  exact ⟨log, built, facts, enclosed.1 log built⟩

/-- A script that includes a file by a path whose canonical form is not canonical itself: the root
that it begins with shows only when the points in front of it are gone. -/
def hiddenRootFiles : MemoryStore :=
  .ofList [
    ("main.qcl", (includingScript "./classpath:./a.qcl" none none none 1 1).print),
    ("classpath:a.qcl", r"databaseChangeLog { changeSet(id: '1', author: 'm') { } }")]

/-- The path of an inclusion is put in canonical form twice, that of a build once, so the changesets
have different paths. -/
theorem not_build_enclosed :
    ¬ ∀ (host : Host) (root file : String) (source : Option String)
        (context labels : Option String) (ignore : Option Bool) (rootLine line : Nat),
      host.store.IsBounded → host.configuration.hostIncludeLabels = true →
      readScript host (Path.normalize root) source =
        .ok (includingScript file context labels ignore rootLine line) →
      Path.isScript (Path.normalize file) = true →
      (Machine.start host file none []).NeverEnters host (Path.normalize root) →
      ∀ log, build host file none [] = .ok log → build host root source [] =
        .ok (enclosing (Path.normalize root) context labels ignore log) := by
  intro claimed
  have alone : ((build (.ofMemory {} .builtin hiddenRootFiles) "./classpath:./a.qcl" none
      []).toOption.map fun log => log.changesets.map (·.filePath)) =
        some ["classpath:./a.qcl"] := by
    decide +kernel
  have included : ((build (.ofMemory {} .builtin hiddenRootFiles) "main.qcl" none
      []).toOption.map fun log => log.changesets.map (·.filePath)) = some ["classpath:a.qcl"] := by
    decide +kernel
  have never : (Machine.start (.ofMemory {} .builtin hiddenRootFiles) "./classpath:./a.qcl" none
      []).NeverEnters (.ofMemory {} .builtin hiddenRootFiles) (Path.normalize "main.qcl") :=
    @Machine.neverEnters_of_hasHalted _ _ _ 4 (by decide +kernel)
  have reads : readScript (.ofMemory {} .builtin hiddenRootFiles) (Path.normalize "main.qcl") none =
      .ok (includingScript "./classpath:./a.qcl" none none none 1 1) :=
    readScript_includingScript rfl
  obtain ⟨log, built, paths⟩ := exists_ok_of_toOption alone
  have same := claimed (.ofMemory {} .builtin hiddenRootFiles) "main.qcl" "./classpath:./a.qcl" none
    none none none 1 1 hiddenRootFiles.isBounded rfl reads (by decide) never log built
  rw [same] at included
  have others : (enclosing (Path.normalize "main.qcl") none none none log).changesets.map
      (·.filePath) = ["classpath:a.qcl"] := Option.some.inj included
  rw [filePaths_enclosing, paths] at others
  exact absurd others (by decide)

end Changelog

end Migration
