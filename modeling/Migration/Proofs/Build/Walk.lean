import Migration.Proofs.Build.Memory
import Migration.Proofs.Declaration.Changeset

/-!
# Builds in document order

A walk records what a build comes by in the scripts that it reads, in document order: the script of
an inclusion stands in the place of the inclusion.  The main statement,
`changesets_in_document_order`, says that a changelog is made of its walk: nothing is lost,
duplicated or moved, and what each changeset inherits is read off the inclusions around it.
-/

namespace Migration.Changelog

/-- How an included script is included, and the contexts that it gives itself in the end. -/
structure Passage where
  inclusion : Inclusion
  contexts : Option ContextExpression

/-- What a build comes by, in document order. -/
inductive Walk where
  | done
  | changeset (own : Changeset) (warnings : List Warning) (rest : Walk)
  | properties (declared : List Property) (rest : Walk)
  | preconditions (container : PreconditionContainer) (rest : Walk)
  /-- An included script with all that is in it, and what follows the inclusion. -/
  | file (passage : Passage) (inside rest : Walk)

namespace Walk

/-- The declared changesets in document order, each with the inclusions around it, the outermost
first. -/
def declared : Walk → List (List Passage × Changeset)
  | .done => []
  | .changeset own _ rest => ([], own) :: rest.declared
  | .properties _ rest => rest.declared
  | .preconditions _ rest => rest.declared
  | .file passage inside rest =>
      (inside.declared.map fun (way, own) => (passage :: way, own)) ++ rest.declared

/-- The declared properties in document order. -/
def entries : Walk → List Property
  | .done => []
  | .changeset _ _ rest => rest.entries
  | .properties declared rest => declared ++ rest.entries
  | .preconditions _ rest => rest.entries
  | .file _ inside rest => inside.entries ++ rest.entries

/-- The warnings about changesets in document order. -/
def warnings : Walk → List Warning
  | .done => []
  | .changeset _ warnings rest => warnings ++ rest.warnings
  | .properties _ rest => rest.warnings
  | .preconditions _ rest => rest.warnings
  | .file _ inside rest => inside.warnings ++ rest.warnings

end Walk

/-- The walk through the tasks that are left of a changelog, with the properties declared before
and after it, and the changelog at its end. -/
inductive Walks (host : Host) :
    Changelog → List Task → PropertyTable → Walk → Changelog → PropertyTable → Prop
  | done {log : Changelog} {table : PropertyTable} : Walks host log [] table .done log table
  | root {log after final : Changelog} {e : Element} {tasks : List Task}
      {table last : PropertyTable} {arguments : List (String × Value)} {walk : Walk}
      (named : e.name = "databaseChangeLog")
      (given : Site.namedArguments { properties := table, path := log.physicalPath } e =
        .ok arguments)
      (taken : log.takeArguments arguments = .ok after)
      (rest : Walks host after (e.items.map (.item e.line) ++ tasks) table walk final last) :
      Walks host log (.root e :: tasks) table walk final last
  | changeset {log final : Changelog} {line : Nat} {e : Element} {tasks : List Task}
      {table last : PropertyTable} {own : Changeset} {warnings : List Warning} {walk : Walk}
      (named : e.name = "changeSet")
      (built : Changeset.ofElement host table log e = .ok (own, warnings))
      (rest : Walks host { log with changesets := log.changesets ++ [own] } tasks table walk final
        last) :
      Walks host log (.item line (.element e) :: tasks) table (.changeset own warnings walk) final
        last
  | properties {log final : Changelog} {line : Nat} {e : Element} {tasks : List Task}
      {table last : PropertyTable} {declared : List Property} {walk : Walk}
      (named : e.name = "property")
      (found : declaredProperties host { properties := table, path := log.physicalPath } e =
        .ok declared)
      (rest : Walks host log tasks { table with entries := table.entries ++ declared } walk final
        last) :
      Walks host log (.item line (.element e) :: tasks) table (.properties declared walk) final last
  | preconditions {log final : Changelog} {line : Nat} {e : Element} {tasks : List Task}
      {table last : PropertyTable} {container : PreconditionContainer} {walk : Walk}
      (named : e.name = "preConditions")
      (found : PreconditionContainer.ofElement host
        { properties := table, path := log.physicalPath } e = .ok container)
      (rest : Walks host (log.addPreconditions container) tasks table walk final last) :
      Walks host log (.item line (.element e) :: tasks) table (.preconditions container walk) final
        last
  | inclusion {log final : Changelog} {line : Nat} {e : Element} {tasks : List Task}
      {table last : PropertyTable} {target : String} {inclusion : Inclusion} {walk : Walk}
      (named : e.name = "include")
      (found : includedFile host { properties := table, path := log.physicalPath } e =
        .ok (target, inclusion))
      (rest : Walks host log (.file target inclusion :: tasks) table walk final last) :
      Walks host log (.item line (.element e) :: tasks) table walk final last
  | inclusions {log final : Changelog} {line : Nat} {e : Element} {tasks : List Task}
      {table last : PropertyTable} {targets : List String} {inclusion : Inclusion} {walk : Walk}
      (named : e.name = "includeAll")
      (found : includedFiles host { properties := table, path := log.physicalPath } e =
        .ok (targets, inclusion))
      (rest : Walks host log ((targets.map fun target => .file target inclusion) ++ tasks) table
        walk final last) :
      Walks host log (.item line (.element e) :: tasks) table walk final last
  | file {log child final : Changelog} {target : String} {inclusion : Inclusion}
      {tasks : List Task} {script : Script} {table middle last : PropertyTable}
      {inside walk : Walk} (isScript : Path.isScript target = true)
      (read : readScript host (Path.normalize target) none = .ok script)
      (within : Walks host { physicalPath := Path.normalize target }
        (script.elements.map .root) table inside child middle)
      (rest : Walks host (log.splice { child with inclusion }) tasks middle walk final last) :
      Walks host log (.file target inclusion :: tasks) table
        (.file ⟨inclusion, child.contexts⟩ inside walk) final last

/-- The walk through a root script and all that it includes. -/
def IsWalk (host : Host) (path : String) (source : Option String)
    (arguments : List (String × Value)) (walk : Walk) : Prop :=
  ∃ script start final last,
    readScript host (Path.normalize path) source = .ok script ∧
    takeArguments { physicalPath := Path.normalize path } arguments = .ok start ∧
    Walks host start (script.elements.map .root) (startSession host).properties walk final last

/-! ## Walks of runs -/

/-- What a part of a build has come by when it succeeds. -/
def HasWalk (host : Host) (job : Job) (session : Session) (final : Changelog) (last : Session) :
    Prop :=
  match job with
  | .file path source arguments => ∃ script start walk,
      readScript host (Path.normalize path) source = .ok script ∧
      takeArguments { physicalPath := Path.normalize path } arguments = .ok start ∧
      Walks host start (script.elements.map .root) session.properties walk final last.properties ∧
      last.warnings = session.warnings ++ walk.warnings
  | .rest log tasks => ∃ walk,
      Walks host log tasks session.properties walk final last.properties ∧
      last.warnings = session.warnings ++ walk.warnings

/-- A task that goes on adds its own part to the walk. -/
theorem HasWalk.advanced {host : Host} {log after final : Changelog} {task : Task}
    {tasks more : List Task} {session later last : Session}
    (step : Task.Advances host log session task after more later)
    (rest : HasWalk host (.rest after (more ++ tasks)) later final last) :
    HasWalk host (.rest log (task :: tasks)) session final last := by
  obtain ⟨walk, walks, told⟩ := rest
  cases step with
  | root named given taken => exact ⟨walk, .root named given taken walks, told⟩
  | changeset named built =>
      exact ⟨_, .changeset named built walks, by simp [told, Walk.warnings]⟩
  | inclusion named found => exact ⟨walk, .inclusion named found walks, told⟩
  | inclusions named found => exact ⟨walk, .inclusions named found walks, told⟩
  | properties named found => exact ⟨_, .properties named found walks, told⟩
  | preconditions named found => exact ⟨_, .preconditions named found walks, told⟩

/-- Every run that succeeds has a walk. -/
theorem hasWalk_of_runs {host : Host} {job : Job} {session last : Session}
    {result : Except BuildError Changelog} (run : Runs host job session result last)
    {final : Changelog} (succeeded : result = .ok final) : HasWalk host job session final last := by
  induction run generalizing final with
  | refused | failed | broken => cases succeeded
  | finished =>
      cases succeeded
      exact ⟨.done, .done, by simp [Walk.warnings]⟩
  | entered entry _ ih =>
      obtain ⟨-, taken, script, read, rfl⟩ := enter_eq_ok entry
      obtain ⟨walk, walks, told⟩ := ih succeeded
      exact ⟨script, _, walk, read, taken, walks, told⟩
  | advanced step _ ih => exact (ih succeeded).advanced (Task.perform_advances step)
  | returned step _ _ ihCall ihRest =>
      obtain ⟨rfl, isScript⟩ := Task.perform_visits step
      obtain ⟨script, start, inside, read, taken, within, toldInside⟩ := ihCall rfl
      obtain ⟨walk, walks, told⟩ := ihRest succeeded
      rw [takeArguments_nil] at taken
      cases taken
      exact ⟨_, .file isScript read within walks, by simp [told, toldInside, Walk.warnings]⟩

/-! ## What a changelog is made of -/

/-- A changeset as it stands in the changelog of a build, with the inclusions around it. -/
def asIncluded (way : List Passage) (own : Changeset) : Changeset :=
  { own with
    inheritedContexts := way.flatMap fun passage =>
      passage.inclusion.contexts.toList ++ passage.contexts.toList
    inheritedLabels := way.flatMap fun passage => passage.inclusion.labels.toList
    ignore := own.ignore || way.any fun passage => passage.inclusion.ignore }

theorem asIncluded_nil {own : Changeset}
    (nothing : own.inheritedContexts = [] ∧ own.inheritedLabels = []) :
    asIncluded [] own = own := by
  obtain ⟨contexts, labels⟩ := nothing
  simp [asIncluded, ← contexts, ← labels]

/-- One more inclusion around a changeset hands down what it has to the front. -/
theorem inherit_asIncluded (child : Changelog) (way : List Passage) (own : Changeset) :
    child.inherit (asIncluded way own) =
      asIncluded (⟨child.inclusion, child.contexts⟩ :: way) own := by
  simp [inherit, asIncluded, Bool.or_assoc, Bool.or_comm (List.any _ _)]

/-- The changesets of a walk as they stand in the changelog at its end. -/
def Walk.changesets (walk : Walk) : List Changeset :=
  walk.declared.map fun (way, own) => asIncluded way own

theorem Walk.changesets_file (child : Changelog) (inclusion : Inclusion) (inside rest : Walk) :
    (Walk.file ⟨inclusion, child.contexts⟩ inside rest).changesets =
      inside.changesets.map ({ child with inclusion } : Changelog).inherit ++ rest.changesets := by
  simp [changesets, declared, inherit_asIncluded]

theorem changesets_of_walks {host : Host} {log final : Changelog} {tasks : List Task}
    {table last : PropertyTable} {walk : Walk}
    (walks : Walks host log tasks table walk final last) :
    final.changesets = log.changesets ++ walk.changesets := by
  induction walks with
  | done => simp [Walk.changesets, Walk.declared]
  | root named given taken _ ih =>
      obtain ⟨_, _, _, rfl⟩ := takeArguments_eq_ok taken
      exact ih
  | changeset named built _ ih =>
      rw [ih]
      simp [Walk.changesets, Walk.declared,
        asIncluded_nil (Changeset.inherits_nothing_ofElement built)]
  | properties | inclusion | inclusions => assumption
  | preconditions named found _ ih => exact ih
  | file isScript read _ _ ihInside ihRest =>
      rw [ihRest, Walk.changesets_file]
      simp [splice, ihInside]

theorem entries_of_walks {host : Host} {log final : Changelog} {tasks : List Task}
    {table last : PropertyTable} {walk : Walk}
    (walks : Walks host log tasks table walk final last) :
    last.entries = table.entries ++ walk.entries := by
  induction walks with
  | done => simp [Walk.entries]
  | root | changeset | inclusion | inclusions | preconditions => assumption
  | properties named found _ ih => simp [ih, Walk.entries]
  | file isScript read _ _ ihInside ihRest => simp [ihRest, ihInside, Walk.entries]

/-- The changesets, properties and warnings of a build are those that the scripts declare, in
document order, where an included script stands in the place of its inclusion.  A changeset inherits
the contexts of each inclusion around it followed by those of the script included there, the labels
of each inclusion, and is ignored if one of them is. -/
theorem changesets_in_document_order {host : Host} {path : String} {source : Option String}
    {arguments : List (String × Value)} {log : Changelog}
    (built : build host path source arguments = .ok log) :
    ∃ walk, IsWalk host path source arguments walk ∧
      log.changesets = walk.declared.map (fun (way, own) => asIncluded way own) ∧
      log.properties.entries = walk.entries ∧ log.warnings = walk.warnings := by
  obtain ⟨final, last, run, rfl⟩ := runs_of_build_eq_ok built
  obtain ⟨script, start, walk, read, taken, walks, told⟩ := hasWalk_of_runs run rfl
  have changesets := changesets_of_walks walks
  have entries := entries_of_walks walks
  obtain ⟨_, _, _, rfl⟩ := takeArguments_eq_ok taken
  exact ⟨walk, ⟨script, _, final, _, read, taken, walks⟩, changesets.trans (List.nil_append _),
    entries.trans (List.nil_append _), told.trans (List.nil_append _)⟩

/-- Scripts that include one another two levels deep, one of them twice. -/
def nestedFiles : MemoryStore :=
  .ofList [
    ("main.qcl",
      r"databaseChangeLog { include(file:'a.qcl', context:'x') " ++
        r"includeAll(path:'d', ignore:true) }"),
    ("a.qcl", r"databaseChangeLog(context: 'y') { include 'd/b.qcl' }"),
    ("d/b.qcl", r"databaseChangeLog { changeSet(id: '1', author: 'm') { } }")]

/-- The build of nested scripts, each changeset with the number of contexts that it inherits. -/
theorem changesets_of_nestedFiles :
    ∃ log, build (.ofMemory {} {} nestedFiles) "main.qcl" none [] = .ok log ∧
      (log.changesets.map fun changeset =>
        (changeset.id, changeset.inheritedContexts.length, changeset.ignore)) =
        [("1", 2, false), ("1", 0, true)] ∧
      ∃ walk, IsWalk (.ofMemory {} {} nestedFiles) "main.qcl" none [] walk ∧
        log.changesets = walk.declared.map (fun (way, own) => asIncluded way own) ∧
        log.properties.entries = walk.entries ∧ log.warnings = walk.warnings := by
  have evaluated : ((build (.ofMemory {} {} nestedFiles) "main.qcl" none []).toOption.map
      fun log => log.changesets.map fun changeset =>
        (changeset.id, changeset.inheritedContexts.length, changeset.ignore)) =
      some [("1", 2, false), ("1", 0, true)] := by
    decide +kernel
  obtain ⟨log, built, changesets⟩ := exists_ok_of_toOption evaluated
  exact ⟨log, built, changesets, changesets_in_document_order built⟩

end Migration.Changelog
