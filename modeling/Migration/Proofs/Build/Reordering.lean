import Mathlib
import Migration.Proofs.Build.Reading
import Migration.Proofs.Declaration.Reordering

/-!
# Builds with reordered arguments

Two machines that build from scripts which differ by the order of named arguments go on side by
side.  At each moment they have built the same changelogs in the same session, and what is left to do
for the one is what is left for the other, up to the order of named arguments.  The main statement,
`build_of_reordered`, says that their builds have the same results.  A script can also be read as a
file of properties, where the order of its arguments shows; no such file may be read.
-/

namespace Migration

/-- Whether two stores have the same files, apart from the order of named arguments in scripts. -/
structure Store.Reorders (store other : Store) : Prop where
  depth : store.depth = other.depth
  list : store.list = other.list
  texts : ∀ path, Corresponds Script.TextsReorder (store.read path) (other.read path)

namespace Store.Reorders

variable {store other : Store}

theorem text (reorders : store.Reorders other) (path : String) :
    Corresponds Script.TextsReorder (store.text path) (other.text path) :=
  (reorders.texts path).mapError _

theorem isBounded (reorders : store.Reorders other) (bounded : store.IsBounded) :
    other.IsBounded := by
  refine bounded.of_read reorders.depth fun path text read => ?_
  have related := reorders.texts path
  rw [read] at related
  generalize store.read path = before at related
  cases related with
  | ok => exact ⟨_, rfl⟩

end Store.Reorders

/-- Whether two files have the same path, and are scripts up to the order of named arguments. -/
def FilesReorder (file other : String × String) : Prop :=
  file.1 = other.1 ∧ Script.TextsReorder file.2 other.2

namespace MemoryStore

/-- Files in memory are the same up to the order of named arguments if each of them is. -/
theorem reorders_ofList {files others : List (String × String)}
    (related : List.Forall₂ FilesReorder files others) :
    (ofList files).toStore.Reorders (ofList others).toStore := by
  have relates : (ofList files).toStore.Relates Script.TextsReorder (ofList others).toStore :=
    relates_ofList related
  exact ⟨relates.depth, relates.list, fun path => (relates.texts path).corresponds⟩

end MemoryStore

namespace Changelog

variable {host : Host} {store : Store} {site : Site} {log : Changelog} {session : Session}
  {e f : Element}

/-! ## Elements -/

theorem withoutBlock_reorders (reorders : e.Reorders f) :
    Alike (withoutBlock e) (withoutBlock f) := by
  unfold withoutBlock
  rw [reorders.isSome_block]
  split
  · exact .error _ _
  · exact .refl _

theorem includedFile_reorders (store : Store) (reorders : e.Reorders f) :
    Alike (includedFile host site e) (includedFile { host with store } site f) :=
  (withoutBlock_reorders reorders).bind fun _ =>
    ((Site.Agrees.refl site).attributes _ _ reorders).bind fun _ => .refl _

theorem includedFiles_reorders (same : host.store.list = store.list) (reorders : e.Reorders f) :
    Alike (includedFiles host site e) (includedFiles { host with store } site f) := by
  unfold includedFiles
  refine (withoutBlock_reorders reorders).bind fun _ => ?_
  refine (site.namedArguments_reorders reorders).bind_alike fun first second permutes => ?_
  rw [permutes.any_eq]
  split
  · exact .refl _
  · simp only [listed_eq same]
    exact (Schema.check_perm permutes.perm permutes.distinct).bind fun _ => .refl _

theorem declaredProperties_reorders (reads : ReadsAlike host store site e)
    (isProperty : e.name = "property") (reorders : e.Reorders f) :
    Alike (declaredProperties host site e) (declaredProperties { host with store } site f) := by
  unfold declaredProperties
  refine (withoutBlock_reorders reorders).bind fun _ => ?_
  refine ((Site.Agrees.refl site).attributes _ _ reorders).bind_of_ok fun given called => ?_
  dsimp only
  split
  · exact .refl _
  · rename_i isFile _
    rw [declare_parseFile, declare_parseFile]
    exact (reads isProperty given called _ isFile).map
  · exact .refl _
  · exact .refl _

/-! ## Tasks -/

inductive Task.Reorders : Task → Task → Prop
  | root {e f : Element} (reorders : e.Reorders f) : Reorders (.root e) (.root f)
  | item {line other : Nat} {x y : Item Element} (reorders : x.Reorders y) :
      Reorders (.item line x) (.item other y)
  | file (target : String) (inclusion : Inclusion) :
      Reorders (.file target inclusion) (.file target inclusion)

inductive Outcome.Reorders : Outcome → Outcome → Prop
  | advance (log : Changelog) {more others : List Task} (session : Session)
      (tasks : List.Forall₂ Task.Reorders more others) :
      Reorders (.advance log more session) (.advance log others session)
  | visit (target : String) (inclusion : Inclusion) :
      Reorders (.visit target inclusion) (.visit target inclusion)
  | failure (error other : BuildError) : Reorders (.failure error) (.failure other)

theorem Outcome.reorders_ofExcept {α : Type} {first second : Except BuildError α}
    {next other : α → Outcome} (alike : Alike first second)
    (rest : ∀ value, (next value).Reorders (other value)) :
    (Outcome.ofExcept first next).Reorders (Outcome.ofExcept second other) := by
  cases first with
  | ok value =>
      rw [(alike value).mp rfl]
      exact rest value
  | error error =>
      cases second with
      | ok value => cases (alike value).mpr rfl
      | error other => exact .failure error other

theorem performElement_reorders (reordered : host.store.Reorders store)
    (reads : ReadsAlike host store (log.siteIn session) e) (reorders : e.Reorders f) :
    (performElement host log session e).Reorders
      (performElement { host with store } log session f) := by
  have named := reorders.name_eq
  unfold performElement
  rw [← named]
  split
  · exact Outcome.reorders_ofExcept (Changeset.ofElement_reorders store _ reorders)
      fun _ => .advance _ _ .nil
  split
  · exact Outcome.reorders_ofExcept (includedFile_reorders store reorders)
      fun _ => .advance _ _ (.cons (.file _ _) .nil)
  split
  · refine Outcome.reorders_ofExcept (includedFiles_reorders reordered.list reorders)
      fun read => .advance _ _ ?_
    rw [List.forall₂_map_left_iff, List.forall₂_map_right_iff, List.forall₂_same]
    exact fun target _ => .file target read.2
  split
  · rename_i isProperty
    exact Outcome.reorders_ofExcept (declaredProperties_reorders reads isProperty reorders)
      fun _ => .advance _ _ .nil
  split
  · exact Outcome.reorders_ofExcept ((Site.Agrees.refl _).container host store reorders)
      fun _ => .advance _ _ .nil
  · exact .failure _ _

/-- Arguments of a root element are accepted in every order. -/
theorem takeArguments_reorders {first second : List (String × Value)}
    (permutes : Call.Permutes first second) :
    Alike (log.takeArguments first) (log.takeArguments second) :=
  (Schema.check_perm permutes.perm permutes.distinct).bind fun _ => .refl _

theorem perform_reorders (log : Changelog) (session : Session) {task other : Task}
    (reordered : host.store.Reorders store) (reads : ∀ line e, task = .item line (.element e) →
      ReadsAlike host store (log.siteIn session) e) (reorders : task.Reorders other) :
    (task.perform host log session).Reorders
      (other.perform { host with store } log session) := by
  cases reorders with
  | root reorders =>
      unfold Task.perform
      dsimp only
      rw [reorders.name_eq]
      split
      · refine Outcome.reorders_ofExcept ?_ fun _ => .advance _ _ ?_
        · exact (Site.namedArguments_reorders _ reorders).bind_alike fun _ _ =>
            takeArguments_reorders
        · rw [List.forall₂_map_left_iff, List.forall₂_map_right_iff]
          exact reorders.items.imp fun _ _ => .item
      · exact .failure _ _
  | item reorders =>
      cases reorders with
      | text s => exact .failure _ _
      | element reorders => exact performElement_reorders reordered (reads _ _ rfl) reorders
  | file target inclusion =>
      unfold Task.perform
      dsimp only
      split
      · exact .visit target inclusion
      · exact .failure _ _

/-! ## Scripts -/

theorem readScript_reorders (reordered : host.store.Reorders store) {source other : Option String}
    (sources : Option.Rel Script.TextsReorder source other) (path : String) :
    Corresponds Script.Reorders (readScript host path source)
      (readScript { host with store } path other) := by
  have parsed {text again : String} (reorders : Script.TextsReorder text again) :=
    Corresponds.mapError reorders (BuildError.malformed path)
  cases sources with
  | none => exact (reordered.text path).bind fun _ _ => parsed
  | some reorders => exact parsed reorders

theorem enter_reorders (reordered : host.store.Reorders store) {source other : Option String}
    (sources : Option.Rel Script.TextsReorder source other) (path : String)
    (arguments : List (String × Value)) (session : Session) :
    Corresponds (fun first second => first.1 = second.1 ∧
        List.Forall₂ Task.Reorders first.2 second.2)
      (enter host path source arguments session)
      (enter { host with store } path other arguments session) := by
  unfold enter
  dsimp only
  split
  · exact .error _ _
  · refine (readScript_reorders reordered sources _).bind fun script reordered scripts => ?_
    cases takeArguments { physicalPath := Path.normalize path } arguments with
    | error error => exact .error error error
    | ok log =>
        refine .ok ⟨rfl, ?_⟩
        rw [List.forall₂_map_left_iff, List.forall₂_map_right_iff]
        exact scripts.imp fun _ _ => .root

/-! ## Machines side by side -/

inductive Job.Reorders : Job → Job → Prop
  | file (path : String) {source other : Option String} (arguments : List (String × Value))
      (sources : Option.Rel Script.TextsReorder source other) :
      Reorders (.file path source arguments) (.file path other arguments)
  | rest (log : Changelog) {tasks others : List Task}
      (reorders : List.Forall₂ Task.Reorders tasks others) :
      Reorders (.rest log tasks) (.rest log others)

inductive Frame.Reorders : Frame → Frame → Prop
  | mk (log : Changelog) {tasks others : List Task} (inclusion : Inclusion)
      (reorders : List.Forall₂ Task.Reorders tasks others) :
      Reorders ⟨log, tasks, inclusion⟩ ⟨log, others, inclusion⟩

namespace Machine

/-- Whether a machine does what another one does, up to the order of named arguments. -/
inductive Reorders : Machine → Machine → Prop
  | working {job other : Job} {frames others : List Frame} (session : Session)
      (jobs : job.Reorders other) (around : List.Forall₂ Frame.Reorders frames others) :
      Reorders (.working job frames session) (.working other others session)
  | returning {result other : Except BuildError Changelog} {frames others : List Frame}
      (session : Session) (results : Corresponds Eq result other)
      (around : List.Forall₂ Frame.Reorders frames others) :
      Reorders (.returning result frames session) (.returning other others session)

/-- One step keeps the machines side by side.  The sessions stay equal, also where both fail, and so
the same script is entered next. -/
theorem reorders_step (reordered : host.store.Reorders store) {machine other : Machine}
    (reads : machine.ReadsAlike host store) (reorders : machine.Reorders other) :
    (machine.step host).Reorders (other.step { host with store }) := by
  cases reorders with
  | working session jobs around =>
      cases jobs with
      | @file path source again arguments sources =>
          have entries := enter_reorders reordered sources path arguments session
          rw [step, step]
          generalize enter host path source arguments session = first at entries ⊢
          generalize enter { host with store } path again arguments session = second at entries ⊢
          cases entries with
          | @ok first second related =>
              -- Both scripts begin with the same changelog; only their tasks are reordered.
              obtain ⟨log, tasks⟩ := first
              obtain ⟨same, others⟩ := second
              obtain ⟨isSame, tasks⟩ := related
              cases isSame
              exact .working _ (.rest _ tasks) around
          | error error other => exact .returning _ (.error error other) around
      | @rest log _ _ tasks =>
          cases tasks with
          | nil => exact .returning _ (.ok rfl) around
          | @cons task again tasks others first rest =>
              have outcomes := perform_reorders log session reordered
                (by rintro line e rfl; exact reads) first
              rw [step, step]
              generalize task.perform host log session = outcome at outcomes ⊢
              generalize again.perform { host with store } log session = second at outcomes ⊢
              cases outcomes with
              | advance after later more => exact .working _ (.rest _ (List.rel_append more rest)) around
              | visit target inclusion =>
                  exact .working _ (.file target [] .none) (.cons (.mk log inclusion rest) around)
              | failure error other => exact .returning _ (.error error other) around
  | returning session results around =>
      cases around with
      | nil =>
          cases results with
          | ok same => exact .returning _ (.ok same) .nil
          | error error other => exact .returning _ (.error error other) .nil
      | cons frame around =>
          cases frame with
          | mk log inclusion tasks =>
              cases results with
              | ok same =>
                  cases same
                  exact .working _ (.rest _ tasks) around
              | error error other => exact .returning _ (.error error other) around

/-- All moments of two builds are side by side if the elements on the way read the same files of
properties. -/
theorem reorders_run (reordered : host.store.Reorders store) {machine other : Machine}
    (reads : ∀ steps, (machine.run host steps).ReadsAlike host store)
    (reorders : machine.Reorders other) (steps : Nat) :
    (machine.run host steps).Reorders (other.run { host with store } steps) := by
  induction steps generalizing machine other with
  | zero => exact reorders
  | succ steps ih =>
      exact ih (fun more => reads (more + 1)) (reorders_step reordered (reads 0) reorders)

end Machine

/-! ## The theorem -/

/-- A build has the same result, whatever the order of named arguments is in all elements of all
scripts, if no property is read from a file in which that order makes a difference. -/
theorem build_of_reordered (bounded : host.store.IsBounded)
    (reordered : host.store.Reorders store) {path : String} {source other : Option String}
    (sources : Option.Rel Script.TextsReorder source other) {arguments : List (String × Value)}
    (reads : ∀ steps, ((Machine.start host path source arguments).run host steps).ReadsAlike host
      store) (log : Changelog) :
    build host path source arguments = .ok log ↔
      build { host with store } path other arguments = .ok log := by
  obtain ⟨result, last, run, built⟩ := build_runs_of_isBounded bounded path source arguments
  obtain ⟨again, final, runAgain, rebuilt⟩ := @build_runs_of_isBounded
    { host with store } (reordered.isBounded bounded) path other arguments
  obtain ⟨steps, halted⟩ := run.reaches []
  have start : (Machine.start host path source arguments).Reorders
      (Machine.start { host with store } path other arguments) :=
    .working _ (.file path arguments sources) .nil
  have beside := Machine.reorders_run reordered reads start steps
  rw [Machine.start, halted] at beside
  generalize ended : (Machine.start { host with store } path other arguments).run
    { host with store } steps = machine at beside
  cases beside with
  | returning _ results around =>
      cases around with
      | nil =>
          obtain ⟨rfl, rfl⟩ := (runAgain.reaches []).unique ⟨steps, ended⟩
          rw [built, rebuilt]
          cases results with
          | ok same =>
              cases same
              exact Iff.rfl
          | error error other => exact (Alike.error error other).map log

/-- A script with a file of properties, and the same script with other orders of arguments. -/
def orderedFiles : List (String × String) := [
  ("main.qcl", r"databaseChangeLog{property(file:'p',global:true)" ++
    r"changeSet(author:'m',id:'${n}'){}}"),
  ("p", "n=1")]

def reorderedFiles : List (String × String) := [
  ("main.qcl", r"databaseChangeLog{property(global:true,file:'p')" ++
    r"changeSet(id:'${n}',author:'m'){}}"),
  ("p", "n=1")]

theorem orderedFiles_reorders : List.Forall₂ FilesReorder orderedFiles reorderedFiles := by
  have parsed : Script.parse (r"databaseChangeLog{property(file:'p',global:true)" ++
      r"changeSet(author:'m',id:'${n}'){}}") =
      .ok ⟨[⟨"databaseChangeLog", [], some [
        .element ⟨"property", [⟨some "file", .str "p"⟩, ⟨some "global", .bool true⟩], none, 1⟩,
        .element ⟨"changeSet", [⟨some "author", .str "m"⟩, ⟨some "id", .str "${n}"⟩],
          some [], 1⟩], 1⟩]⟩ := by cbv
  have again : Script.parse (r"databaseChangeLog{property(global:true,file:'p')" ++
      r"changeSet(id:'${n}',author:'m'){}}") =
      .ok ⟨[⟨"databaseChangeLog", [], some [
        .element ⟨"property", [⟨some "global", .bool true⟩, ⟨some "file", .str "p"⟩], none, 1⟩,
        .element ⟨"changeSet", [⟨some "id", .str "${n}"⟩, ⟨some "author", .str "m"⟩],
          some [], 1⟩], 1⟩]⟩ := by cbv
  refine .cons ⟨rfl, ?_⟩ (.cons ⟨rfl, .refl _⟩ .nil)
  rw [Script.TextsReorder, parsed, again]
  refine .ok (.cons (.block (.refl _) (.cons (.element ?_) (.cons (.element ?_) .nil))) .nil)
  · exact .bare ⟨.swap _ _ _, rfl⟩
  · exact .block ⟨.swap _ _ _, rfl⟩ .nil

theorem orderedFiles_readsAlike (steps : Nat) :
    ((Machine.start (.ofMemory {} .builtin (.ofList orderedFiles)) "main.qcl" none []).run
      (.ofMemory {} .builtin (.ofList orderedFiles)) steps).ReadsAlike
        (.ofMemory {} .builtin (.ofList orderedFiles))
        (MemoryStore.ofList reorderedFiles).toStore :=
  @Machine.forall_run_of_holdsWithin _ _ _ 5 _ (by decide +kernel) steps

/-- Both builds give the same changelog, whose changeset has the property of the file. -/
theorem build_of_orderedFiles : ∃ log,
    build (.ofMemory {} .builtin (.ofList orderedFiles)) "main.qcl" none [] = .ok log ∧
    build (.ofMemory {} .builtin (.ofList reorderedFiles)) "main.qcl" none [] = .ok log ∧
    log.changesets.map (·.id) = ["1"] := by
  have evaluated : ((build (.ofMemory {} .builtin (.ofList orderedFiles)) "main.qcl" none
      []).toOption.map fun log => log.changesets.map (·.id)) = some ["1"] := by
    decide +kernel
  obtain ⟨log, built, ids⟩ := exists_ok_of_toOption evaluated
  have rebuilt := (@build_of_reordered (.ofMemory {} .builtin (.ofList orderedFiles))
    (MemoryStore.ofList reorderedFiles).toStore (MemoryStore.isBounded _)
    (MemoryStore.reorders_ofList orderedFiles_reorders) "main.qcl" none none .none []
    orderedFiles_readsAlike log).mp built
  exact ⟨log, built, rebuilt, ids⟩

/-- A script that reads itself as a file of properties, and the same script with another order. -/
def selfReadingFiles : List (String × String) := [
  ("main.qcl", r"databaseChangeLog{" ++ "\nproperty(file:'main.qcl')\n" ++
    r"changeSet(author:'m',id:'1'){}}")]

def reorderedSelfReadingFiles : List (String × String) := [
  ("main.qcl", r"databaseChangeLog{" ++ "\nproperty(file:'main.qcl')\n" ++
    r"changeSet(id:'1',author:'m'){}}")]

theorem selfReadingFiles_reorders :
    List.Forall₂ FilesReorder selfReadingFiles reorderedSelfReadingFiles := by
  have parsed : Script.parse (r"databaseChangeLog{" ++ "\nproperty(file:'main.qcl')\n" ++
      r"changeSet(author:'m',id:'1'){}}") =
      .ok ⟨[⟨"databaseChangeLog", [], some [
        .element ⟨"property", [⟨some "file", .str "main.qcl"⟩], none, 2⟩,
        .element ⟨"changeSet", [⟨some "author", .str "m"⟩, ⟨some "id", .str "1"⟩],
          some [], 3⟩], 1⟩]⟩ := by cbv
  have again : Script.parse (r"databaseChangeLog{" ++ "\nproperty(file:'main.qcl')\n" ++
      r"changeSet(id:'1',author:'m'){}}") =
      .ok ⟨[⟨"databaseChangeLog", [], some [
        .element ⟨"property", [⟨some "file", .str "main.qcl"⟩], none, 2⟩,
        .element ⟨"changeSet", [⟨some "id", .str "1"⟩, ⟨some "author", .str "m"⟩],
          some [], 3⟩], 1⟩]⟩ := by cbv
  refine .cons ⟨rfl, ?_⟩ .nil
  rw [Script.TextsReorder, parsed, again]
  refine .ok (.cons (.block (.refl _) (.cons (.refl _) (.cons (.element ?_) .nil))) .nil)
  exact .block ⟨.swap _ _ _, rfl⟩ .nil

/-- The order of arguments shows in the properties that a script reads from itself. -/
theorem not_build_of_reordered_selfReading :
    List.Forall₂ FilesReorder selfReadingFiles reorderedSelfReadingFiles ∧ ∃ log other,
      build (.ofMemory {} .builtin (.ofList selfReadingFiles)) "main.qcl" none [] = .ok log ∧
      build (.ofMemory {} .builtin (.ofList reorderedSelfReadingFiles)) "main.qcl" none [] =
        .ok other ∧
      log ≠ other := by
  have evaluated : ((build (.ofMemory {} .builtin (.ofList selfReadingFiles)) "main.qcl" none
      []).toOption.map fun log => log.properties.entries.map (·.name)) =
      some [r"databaseChangeLog{", "property(file", "changeSet(author"] := by
    decide +kernel
  have reordered : ((build (.ofMemory {} .builtin (.ofList reorderedSelfReadingFiles)) "main.qcl"
      none []).toOption.map fun log => log.properties.entries.map (·.name)) =
      some [r"databaseChangeLog{", "property(file", "changeSet(id"] := by
    decide +kernel
  obtain ⟨log, built, names⟩ := exists_ok_of_toOption evaluated
  obtain ⟨other, builtOther, otherNames⟩ := exists_ok_of_toOption reordered
  refine ⟨selfReadingFiles_reorders, log, other, built, builtOther, ?_⟩
  rintro rfl
  rw [names] at otherNames
  exact absurd otherNames (by decide)

end Changelog

end Migration
