import Mathlib
import Migration.Proofs.Build.Reading
import Migration.Proofs.Catalog
import Migration.Proofs.Declaration.Absence

/-!
# Builds with further attributes that are null

Two machines that build from scripts which differ by attributes that are null go on side by side, in
the same session and with the same changelogs.  The main statement, `build_of_addsNulls`, says that
their builds have the same outcome, be it a changelog or an error.  A script can also be read as a
file of properties, where every argument shows; no such file may be read.
-/

namespace Migration

/-! ## Scripts -/

namespace Nulls

/-- In the block of the root element of a script. -/
inductive InLog (host : Host) : Element → Element → Prop
  | same (e : Element) : InLog host e e
  | changeset {e f : Element} (named : e.name = "changeSet")
      (adds : e.AddsNulls Changeset.schema (InChangeset host) f) : InLog host e f
  | inclusion {e f : Element} (named : e.name = "include")
      (adds : e.AddsNulls (Changelog.includeSchema host) Eq f) : InLog host e f
  | inclusions {e f : Element} (named : e.name = "includeAll")
      (adds : e.AddsNulls Changelog.includeAllSchema Eq f) : InLog host e f
  | property {e f : Element} (named : e.name = "property")
      (adds : e.AddsNulls Changelog.propertySchema Eq f) : InLog host e f
  | preconditions {e f : Element} (named : e.name = "preConditions")
      (adds : e.AddsNulls PreconditionPolicy.schema Eq f) : InLog host e f

inductive InScript (host : Host) : Element → Element → Prop
  | same (e : Element) : InScript host e e
  | log {e f : Element} (named : e.name = "databaseChangeLog")
      (adds : e.AddsNulls Changelog.schema (InLog host) f) : InScript host e f

/-- A root element has further attributes, or it is the same with the items of its block. -/
theorem InScript.adds {host : Host} {e f : Element} (related : InScript host e f) :
    e.AddsNulls Changelog.schema (InLog host) f := by
  cases related with
  | same => exact .refl .same e
  | log _ adds => exact adds

end Nulls

open Nulls

/-- Whether a script is another one to which attributes have been added as null. -/
def Script.AddsNulls (host : Host) (script other : Script) : Prop :=
  List.Forall₂ (InScript host) script.elements other.elements

/-- Whether two texts are scripts that differ by attributes that are null, or no scripts for the same
cause. -/
def Script.TextsAddNulls (host : Host) (text other : String) : Prop :=
  Parallels (Script.AddsNulls host) (Script.parse text) (Script.parse other)

theorem Script.TextsAddNulls.refl (host : Host) (text : String) :
    Script.TextsAddNulls host text text := by
  refine Parallels.refl (fun script => ?_) (Script.parse text)
  exact List.forall₂_same.mpr fun e _ => .same e

namespace Changelog

variable {host : Host} {store : Store} {site : Site} {log : Changelog} {session : Session}
  {e f : Element} {given other : Attributes}

/-! ## Elements -/

theorem takeArguments_seesAlike (log : Changelog) {first second : List (String × Value)}
    (sees : schema.SeesAlike first second) :
    log.takeArguments first = log.takeArguments second := by
  refine (sees.check _ _).bind_eq fun given other agree => ?_
  rw [agree.text?]

theorem withoutBlock_addsNulls {schema : Schema} {inside : Element → Element → Prop}
    (adds : e.AddsNulls schema inside f) : withoutBlock e = withoutBlock f := by
  rw [withoutBlock, withoutBlock, adds.isSome_block, adds.name, adds.line]

theorem inclusionOf_agree (agree : given.Agree other) : inclusionOf given = inclusionOf other := by
  simp only [inclusionOf, agree.text?, agree.flag?]

theorem includedFile_addsNulls (adds : e.AddsNulls (includeSchema host) Eq f) :
    includedFile host site e = includedFile host site f := by
  unfold includedFile
  rw [withoutBlock_addsNulls adds]
  refine bind_congr fun _ => (adds.attributes site _).bind_eq fun given other agree => ?_
  rw [Schema.checkRequired_agree _ _ _ agree, inclusionOf_agree agree, agree.text?, agree.flag?]

theorem includedFiles_addsNulls (adds : e.AddsNulls includeAllSchema Eq f) :
    includedFiles host site e = includedFiles host site f := by
  unfold includedFiles
  rw [withoutBlock_addsNulls adds]
  refine bind_congr fun _ => (adds.namedArguments site).bind_eq fun first second sees => ?_
  rw [sees.undeclared "resourceFilter" (by decide +kernel)]
  split
  · rfl
  · refine (sees.check _ _).bind_eq fun given other agree => ?_
    simp only [Schema.checkRequired_agree _ _ _ agree, inclusionOf_agree agree, agree.text?,
      agree.flag?]

theorem declaredProperties_addsNulls (adds : e.AddsNulls propertySchema Eq f) :
    declaredProperties host site e = declaredProperties host site f := by
  unfold declaredProperties
  rw [withoutBlock_addsNulls adds]
  refine bind_congr fun _ => (adds.attributes site none).bind_eq fun given other agree => ?_
  have scope : propertyScope given = propertyScope other := by
    simp only [propertyScope, agree.text?, agree.flag?]
  simp only [scope, agree.text?]

/-- What an element of a changelog brings about is the same with further attributes. -/
theorem performElement_addsNulls (related : InLog host e f) :
    performElement host log session e = performElement host log session f := by
  cases related with
  | same => rfl
  | changeset named adds =>
      have changeset : Changeset.ofElement host session.properties log e =
          Changeset.ofElement host session.properties log f := Changeset.ofElement_addsNulls _ adds
      simp [performElement, named, ← adds.name, changeset]
  | inclusion named adds =>
      have file : includedFile host (log.siteIn session) e =
          includedFile host (log.siteIn session) f := includedFile_addsNulls adds
      simp [performElement, named, ← adds.name, file]
  | inclusions named adds =>
      have files : includedFiles host (log.siteIn session) e =
          includedFiles host (log.siteIn session) f := includedFiles_addsNulls adds
      simp [performElement, named, ← adds.name, files]
  | property named adds =>
      have properties : declaredProperties host (log.siteIn session) e =
          declaredProperties host (log.siteIn session) f := declaredProperties_addsNulls adds
      simp [performElement, named, ← adds.name, properties]
  | preconditions named adds =>
      have container : PreconditionContainer.ofElement host (log.siteIn session) e =
          PreconditionContainer.ofElement host (log.siteIn session) f :=
        PreconditionContainer.ofElement_addsNulls adds
      simp [performElement, named, ← adds.name, container]

/-- An element with further attributes reads the same file of properties, if it reads one. -/
theorem ReadsAlike.of_inLog (reads : ReadsAlike host store site e) (related : InLog host e f) :
    ReadsAlike host store site f := by
  intro isProperty given called file isFile
  cases related with
  | same => exact reads isProperty given called file isFile
  | property named adds =>
      have attributes := adds.attributes site none
      rw [called] at attributes
      generalize before : site.attributes propertySchema none e = first at attributes
      cases attributes with
      | ok agree => exact reads named _ before file (agree.text? ▸ isFile)
  | changeset named adds | inclusion named adds | inclusions named adds
  | preconditions named adds =>
      rw [← adds.name, named] at isProperty
      exact absurd isProperty (by decide)

/-! ## Tasks -/

inductive Task.AddsNulls (host : Host) : Task → Task → Prop
  | root {e f : Element} (related : InScript host e f) : AddsNulls host (.root e) (.root f)
  | item (line : Nat) {x y : Item Element} (related : Item.Related (InLog host) x y) :
      AddsNulls host (.item line x) (.item line y)
  | file (target : String) (inclusion : Inclusion) :
      AddsNulls host (.file target inclusion) (.file target inclusion)

inductive Outcome.AddsNulls (host : Host) : Outcome → Outcome → Prop
  | advance (log : Changelog) {more others : List Task} (session : Session)
      (tasks : List.Forall₂ (Task.AddsNulls host) more others) :
      AddsNulls host (.advance log more session) (.advance log others session)
  | visit (target : String) (inclusion : Inclusion) :
      AddsNulls host (.visit target inclusion) (.visit target inclusion)
  | failure (error : BuildError) : AddsNulls host (.failure error) (.failure error)

theorem Task.AddsNulls.refl (host : Host) (task : Task) : task.AddsNulls host task := by
  cases task with
  | root e => exact .root (.same e)
  | item line item =>
      cases item with
      | text s => exact .item line (.text s)
      | element e => exact .item line (.element (.same e))
  | file target inclusion => exact .file target inclusion

theorem Outcome.AddsNulls.refl (host : Host) (outcome : Outcome) : outcome.AddsNulls host outcome := by
  cases outcome with
  | advance log more session =>
      exact .advance log session (List.forall₂_same.mpr fun task _ => .refl host task)
  | visit target inclusion => exact .visit target inclusion
  | failure error => exact .failure error

theorem perform_addsNulls (log : Changelog) (session : Session) {task other : Task}
    (relates : host.store.Relates (Script.TextsAddNulls host) store)
    (reads : ∀ line e, task = .item line (.element e) →
      ReadsAlike host store (log.siteIn session) e) (related : task.AddsNulls host other) :
    (task.perform host log session).AddsNulls host
      (other.perform { host with store } log session) := by
  cases related with
  | @root e f related =>
      have adds := related.adds
      have taken : (log.siteIn session).namedArguments e >>= log.takeArguments =
          (log.siteIn session).namedArguments f >>= log.takeArguments :=
        (adds.namedArguments _).bind_eq fun _ _ => takeArguments_seesAlike log
      unfold Task.perform
      dsimp only
      rw [adds.name, adds.line, taken]
      split
      · cases (log.siteIn session).namedArguments f >>= log.takeArguments with
        | error error => exact .failure error
        | ok after =>
            refine .advance after session ?_
            rw [List.forall₂_map_left_iff, List.forall₂_map_right_iff]
            exact adds.items.imp fun _ _ => .item f.line
      · exact .failure _
  | item line related =>
      cases related with
      | text s => exact .failure _
      | element related =>
          have moved := performElement_withStore relates ((reads _ _ rfl).of_inLog related)
          rw [Task.perform, Task.perform, moved, performElement_addsNulls related]
          exact .refl host _
  | file target inclusion => exact .refl host _

/-! ## Scripts that are entered -/

theorem readScript_addsNulls (relates : host.store.Relates (Script.TextsAddNulls host) store)
    {source other : Option String} (sources : Option.Rel (Script.TextsAddNulls host) source other)
    (path : String) :
    Parallels (Script.AddsNulls host) (readScript host path source)
      (readScript { host with store } path other) := by
  have parsed {text again : String} (adds : Script.TextsAddNulls host text again) :=
    Parallels.mapError adds (BuildError.malformed path)
  cases sources with
  | none => exact (relates.text path).bind fun _ _ => parsed
  | some adds => exact parsed adds

theorem enter_addsNulls (relates : host.store.Relates (Script.TextsAddNulls host) store)
    {source other : Option String} (sources : Option.Rel (Script.TextsAddNulls host) source other)
    (path : String) (arguments : List (String × Value)) (session : Session) :
    Parallels (fun first second => first.1 = second.1 ∧
        List.Forall₂ (Task.AddsNulls host) first.2 second.2)
      (enter host path source arguments session)
      (enter { host with store } path other arguments session) := by
  unfold enter
  dsimp only
  split
  · exact .error _
  · refine (readScript_addsNulls relates sources _).bind fun script other scripts => ?_
    refine (Parallels.same _).bind fun log _ same => .ok ⟨same, ?_⟩
    rw [List.forall₂_map_left_iff, List.forall₂_map_right_iff]
    exact scripts.imp fun _ _ => .root

/-! ## Machines side by side -/

inductive Job.AddsNulls (host : Host) : Job → Job → Prop
  | file (path : String) {source other : Option String} (arguments : List (String × Value))
      (sources : Option.Rel (Script.TextsAddNulls host) source other) :
      AddsNulls host (.file path source arguments) (.file path other arguments)
  | rest (log : Changelog) {tasks others : List Task}
      (adds : List.Forall₂ (Task.AddsNulls host) tasks others) :
      AddsNulls host (.rest log tasks) (.rest log others)

inductive Frame.AddsNulls (host : Host) : Frame → Frame → Prop
  | mk (log : Changelog) {tasks others : List Task} (inclusion : Inclusion)
      (adds : List.Forall₂ (Task.AddsNulls host) tasks others) :
      AddsNulls host ⟨log, tasks, inclusion⟩ ⟨log, others, inclusion⟩

namespace Machine

/-- Whether a machine does what another one does, with further attributes that are null. -/
inductive AddsNulls (host : Host) : Machine → Machine → Prop
  | working {job other : Job} {frames others : List Frame} (session : Session)
      (jobs : job.AddsNulls host other) (around : List.Forall₂ (Frame.AddsNulls host) frames others) :
      AddsNulls host (.working job frames session) (.working other others session)
  | returning (result : Except BuildError Changelog) {frames others : List Frame}
      (session : Session) (around : List.Forall₂ (Frame.AddsNulls host) frames others) :
      AddsNulls host (.returning result frames session) (.returning result others session)

theorem addsNulls_step (relates : host.store.Relates (Script.TextsAddNulls host) store)
    {machine other : Machine} (reads : machine.ReadsAlike host store)
    (adds : machine.AddsNulls host other) :
    (machine.step host).AddsNulls host (other.step { host with store }) := by
  cases adds with
  | working session jobs around =>
      cases jobs with
      | @file path source again arguments sources =>
          have entries := enter_addsNulls relates sources path arguments session
          rw [step, step]
          generalize enter host path source arguments session = first at entries ⊢
          generalize enter { host with store } path again arguments session = second at entries ⊢
          cases entries with
          | @ok first second related =>
              obtain ⟨log, tasks⟩ := first
              obtain ⟨same, others⟩ := second
              obtain ⟨isSame, tasks⟩ := related
              cases isSame
              exact .working _ (.rest _ tasks) around
          | error error => exact .returning _ _ around
      | @rest log _ _ tasks =>
          cases tasks with
          | nil => exact .returning _ _ around
          | @cons task again tasks others first rest =>
              have outcomes := perform_addsNulls log session relates
                (by rintro line e rfl; exact reads) first
              rw [step, step]
              generalize task.perform host log session = outcome at outcomes ⊢
              generalize again.perform { host with store } log session = second at outcomes ⊢
              cases outcomes with
              | advance after later more =>
                  exact .working _ (.rest _ (List.rel_append more rest)) around
              | visit target inclusion =>
                  exact .working _ (.file target [] .none) (.cons (.mk log inclusion rest) around)
              | failure error => exact .returning _ _ around
  | returning result session around =>
      cases around with
      | nil => cases result <;> exact .returning _ _ .nil
      | cons frame around =>
          cases frame with
          | mk log inclusion tasks =>
              cases result with
              | ok child => exact .working _ (.rest _ tasks) around
              | error error => exact .returning _ _ around

/-- Two builds are side by side at all moments if the elements on the way read the same files of
properties. -/
theorem addsNulls_run (relates : host.store.Relates (Script.TextsAddNulls host) store)
    {machine other : Machine} (reads : ∀ steps, (machine.run host steps).ReadsAlike host store)
    (adds : machine.AddsNulls host other) (steps : Nat) :
    (machine.run host steps).AddsNulls host (other.run { host with store } steps) := by
  induction steps generalizing machine other with
  | zero => exact adds
  | succ steps ih =>
      exact ih (fun more => reads (more + 1)) (addsNulls_step relates (reads 0) adds)

end Machine

/-! ## The theorem -/

/-- A build has the same outcome, a changelog or an error, if the elements of its scripts are given
further attributes of their schemas as null, and if no property is read from a file in which that
makes a difference. -/
theorem build_of_addsNulls (bounded : host.store.IsBounded)
    (relates : host.store.Relates (Script.TextsAddNulls host) store) {path : String}
    {source other : Option String} (sources : Option.Rel (Script.TextsAddNulls host) source other)
    {arguments : List (String × Value)}
    (reads : ∀ steps, ((Machine.start host path source arguments).run host steps).ReadsAlike host
      store) :
    build host path source arguments = build { host with store } path other arguments := by
  obtain ⟨result, last, run, built⟩ := build_runs_of_isBounded bounded path source arguments
  obtain ⟨again, final, runAgain, rebuilt⟩ := @build_runs_of_isBounded
    { host with store } (relates.isBounded bounded) path other arguments
  obtain ⟨steps, halted⟩ := run.reaches []
  have start : (Machine.start host path source arguments).AddsNulls host
      (Machine.start { host with store } path other arguments) :=
    .working _ (.file path arguments sources) .nil
  have beside := Machine.addsNulls_run relates reads start steps
  rw [Machine.start, halted] at beside
  generalize ended : (Machine.start { host with store } path other arguments).run
    { host with store } steps = machine at beside
  cases beside with
  | returning _ _ around =>
      cases around with
      | nil =>
          obtain ⟨rfl, rfl⟩ := (runAgain.reaches []).unique ⟨steps, ended⟩
          rw [built, rebuilt]
          rfl

/-- A script with a changeset, and the same script with further attributes that are null. -/
def sparseScript : Script :=
  ⟨[⟨"databaseChangeLog", [], some [
    .element ⟨"property", [⟨some "file", .str "p"⟩], none, 1⟩,
    .element ⟨"changeSet", [⟨some "id", .str "${n}"⟩, ⟨some "author", .str "m"⟩], some [
      .element ⟨"insert", [], some [
        .element ⟨"column", [⟨some "name", .str "a"⟩], none, 1⟩], 1⟩], 1⟩], 1⟩]⟩

def nulledScript : Script :=
  ⟨[⟨"databaseChangeLog", [⟨some "context", .null⟩], some [
    .element ⟨"property", [⟨some "global", .null⟩, ⟨some "file", .str "p"⟩], none, 1⟩,
    .element ⟨"changeSet", [⟨some "id", .str "${n}"⟩, ⟨some "labels", .null⟩,
        ⟨some "author", .str "m"⟩], some [
      .element ⟨"insert", [], some [
        .element ⟨"column", [⟨some "name", .str "a"⟩, ⟨some "type", .null⟩], none, 1⟩], 1⟩],
      1⟩], 1⟩]⟩

theorem sparseScript_addsNulls (files : MemoryStore) :
    sparseScript.AddsNulls (.ofMemory {} .builtin files) nulledScript := by
  have builtin : (Catalog.builtin.changes.get? "insert").map (·.columns) =
      some (some .standard) := by
    rw [Catalog.get?_changes_builtin]
    decide +kernel
  obtain ⟨kind, known, takes⟩ := Option.map_eq_some_iff.mp builtin
  have log : Argument.AddsNulls schema [] [⟨some "context", .null⟩] :=
    .single (.null [] [] (by decide +kernel) (by simp))
  have property : Argument.AddsNulls propertySchema [⟨some "file", .str "p"⟩]
      [⟨some "global", .null⟩, ⟨some "file", .str "p"⟩] :=
    .single (.null [] [⟨some "file", .str "p"⟩] (by decide +kernel) (by simp))
  have changeset : Argument.AddsNulls Changeset.schema
      [⟨some "id", .str "${n}"⟩, ⟨some "author", .str "m"⟩]
      [⟨some "id", .str "${n}"⟩, ⟨some "labels", .null⟩, ⟨some "author", .str "m"⟩] :=
    .single (.null [⟨some "id", .str "${n}"⟩] [⟨some "author", .str "m"⟩]
      (by decide +kernel) (by simp))
  have column : Argument.AddsNulls Column.standardSchema [⟨some "name", .str "a"⟩]
      [⟨some "name", .str "a"⟩, ⟨some "type", .null⟩] :=
    .single (.null [⟨some "name", .str "a"⟩] [] (by decide +kernel) (by simp))
  refine .cons (.log rfl ⟨rfl, rfl, log, .some (.cons (.element ?_)
    (.cons (.element ?_) .nil))⟩) .nil
  · exact .property rfl ⟨rfl, rfl, property, .none⟩
  refine .changeset rfl ⟨rfl, rfl, changeset, .some (.cons (.element ?_) .nil)⟩
  refine .change (by decide) (.change known ⟨rfl, rfl, .refl, .some (.cons (.element ?_) .nil)⟩)
  exact .column rfl takes ⟨rfl, rfl, column, .none⟩

def sparseText : String :=
  r"databaseChangeLog{property(file:'p')changeSet(id:'${n}',author:'m'){" ++
    r"insert{column(name:'a')}}}"

def nulledText : String :=
  r"databaseChangeLog(context:null){property(global:null,file:'p')" ++
    r"changeSet(id:'${n}',labels:null,author:'m'){" ++
    r"insert{column(name:'a',type:null)}}}"

theorem parse_sparseText : Script.parse sparseText = .ok sparseScript := by cbv

set_option maxRecDepth 2000 in
theorem parse_nulledText : Script.parse nulledText = .ok nulledScript := by cbv

def sparseFiles : List (String × String) := [("main.qcl", sparseText), ("p", "n=1")]

def nulledFiles : List (String × String) := [("main.qcl", nulledText), ("p", "n=1")]

theorem sparseFiles_addsNulls :
    List.Forall₂ (FilesRelate (Script.TextsAddNulls (.ofMemory {} .builtin (.ofList sparseFiles))))
      sparseFiles nulledFiles := by
  refine .cons ⟨rfl, ?_⟩ (.cons ⟨rfl, .refl _ _⟩ .nil)
  show Parallels _ (Script.parse sparseText) (Script.parse nulledText)
  rw [parse_sparseText, parse_nulledText]
  exact .ok (sparseScript_addsNulls _)

theorem sparseFiles_readsAlike (steps : Nat) :
    ((Machine.start (.ofMemory {} .builtin (.ofList sparseFiles)) "main.qcl" none []).run
      (.ofMemory {} .builtin (.ofList sparseFiles)) steps).ReadsAlike
        (.ofMemory {} .builtin (.ofList sparseFiles)) (MemoryStore.ofList nulledFiles).toStore :=
  @Machine.forall_run_of_holdsWithin _ _ _ 5 _ (by decide +kernel) steps

/-- Both builds give the same changelog, whose changeset has the property of the file. -/
theorem build_of_nulledFiles :
    build (.ofMemory {} .builtin (.ofList sparseFiles)) "main.qcl" none [] =
      build (.ofMemory {} .builtin (.ofList nulledFiles)) "main.qcl" none [] ∧
    (build (.ofMemory {} .builtin (.ofList nulledFiles)) "main.qcl" none []).toOption.map
      (fun log => log.changesets.map (·.id)) = some ["1"] := by
  refine ⟨?_, by decide +kernel⟩
  exact @build_of_addsNulls (.ofMemory {} .builtin (.ofList sparseFiles))
    (MemoryStore.ofList nulledFiles).toStore (MemoryStore.isBounded _)
    (MemoryStore.relates_ofList sparseFiles_addsNulls) "main.qcl" none none .none []
    sparseFiles_readsAlike

/-- A script that reads itself as a file of properties, and the same script with an attribute that is
null. -/
def mirrorFiles : List (String × String) :=
  [("a.qcl", r"databaseChangeLog{property(file:'a.qcl')}")]

def nulledMirrorFiles : List (String × String) :=
  [("a.qcl", r"databaseChangeLog(context:null){property(file:'a.qcl')}")]

theorem mirrorFiles_addsNulls :
    List.Forall₂ (FilesRelate (Script.TextsAddNulls (.ofMemory {} .builtin (.ofList mirrorFiles))))
      mirrorFiles nulledMirrorFiles := by
  have parsed : Script.parse r"databaseChangeLog{property(file:'a.qcl')}" =
      .ok ⟨[⟨"databaseChangeLog", [], some [
        .element ⟨"property", [⟨some "file", .str "a.qcl"⟩], none, 1⟩], 1⟩]⟩ := by cbv
  have again : Script.parse r"databaseChangeLog(context:null){property(file:'a.qcl')}" =
      .ok ⟨[⟨"databaseChangeLog", [⟨some "context", .null⟩], some [
        .element ⟨"property", [⟨some "file", .str "a.qcl"⟩], none, 1⟩], 1⟩]⟩ := by cbv
  have log : Argument.AddsNulls schema [] [⟨some "context", .null⟩] :=
    .single (.null [] [] (by decide +kernel) (by simp))
  refine .cons ⟨rfl, ?_⟩ .nil
  rw [Script.TextsAddNulls, parsed, again]
  exact .ok (.cons (.log rfl ⟨rfl, rfl, log, .some (.cons (.element (.same _)) .nil)⟩) .nil)

/-- An attribute that is null shows in the properties that a script reads from itself. -/
theorem not_build_of_addsNulls_mirror :
    List.Forall₂ (FilesRelate (Script.TextsAddNulls (.ofMemory {} .builtin (.ofList mirrorFiles))))
      mirrorFiles nulledMirrorFiles ∧
    build (.ofMemory {} .builtin (.ofList mirrorFiles)) "a.qcl" none [] ≠
      build (.ofMemory {} .builtin (.ofList nulledMirrorFiles)) "a.qcl" none [] := by
  refine ⟨mirrorFiles_addsNulls, fun same => ?_⟩
  have names : ((build (.ofMemory {} .builtin (.ofList mirrorFiles)) "a.qcl" none
      []).toOption.map fun log => log.properties.entries.map (·.name)) =
      some [r"databaseChangeLog{property(file"] := by
    decide +kernel
  have otherNames : ((build (.ofMemory {} .builtin (.ofList nulledMirrorFiles)) "a.qcl" none
      []).toOption.map fun log => log.properties.entries.map (·.name)) =
      some ["databaseChangeLog(context"] := by
    decide +kernel
  rw [same, otherNames] at names
  exact absurd names (by decide)

end Changelog

end Migration
