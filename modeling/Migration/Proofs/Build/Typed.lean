import Migration.Proofs.Build.Contents
import Migration.Proofs.Build.Memory

/-!
# Builds with the kinds that are always there

Whatever a script says, and however a value gets into it, a changelog holds only changes and checks
of known kinds, with declared parameters of the declared types and no part that the kind does not
take.
-/

namespace Migration

/-- Whether a change is of a known kind, has no more than its kind allows, and has columns with a
place only if it adds them and with a source only if it loads them. -/
structure Change.IsWellTyped (change : Change) : Prop where
  admitted : ∃ kind, Catalog.builtin.changes.get? change.kind = some kind ∧ kind.Admits change
  place : ∀ column ∈ change.columns ++ change.whereParams,
    column.beforeColumn.isSome ∨ column.afterColumn.isSome ∨ column.position.isSome →
      change.kind = "addColumn"
  source : ∀ column ∈ change.columns ++ change.whereParams,
    column.header.isSome ∨ column.index.isSome →
      change.kind = "loadData" ∨ change.kind = "loadUpdateData"

/-- Whether a check is of a known kind and has no more than its kind allows. -/
def Check.IsWellTyped (check : Check) : Prop :=
  ∃ kind, Catalog.builtin.preconditions.get? check.kind = some kind ∧ kind.Admits check

theorem Change.isWellTyped_of_admitted {change : Change}
    (admitted : ∃ kind, Catalog.builtin.changes.get? change.kind = some kind ∧
      kind.Admits change) : change.IsWellTyped := by
  obtain ⟨kind, found, admits⟩ := admitted
  obtain ⟨member, named⟩ := Catalog.mem_changeKinds found
  have form (column : Column) (isColumn : column ∈ change.columns ++ change.whereParams) :
      ∃ form, form.Admits column ∧ (form = .standard ∨ kind.columns = some form) := by
    rcases List.mem_append.mp isColumn with own | other
    · obtain ⟨form, takes, admitted⟩ := admits.columns column own
      exact ⟨form, admitted, .inr takes⟩
    · exact ⟨.standard, (admits.whereParams column other).2, .inl rfl⟩
  refine ⟨⟨kind, found, admits⟩, ?_, ?_⟩
  · intro column isColumn hasPlace
    obtain ⟨form, admitted, known⟩ := form column isColumn
    obtain rfl := admitted.place hasPlace
    rcases known with impossible | takes
    · cases impossible
    · exact named.symm.trans (ChangeKind.name_of_added kind member takes)
  · intro column isColumn hasSource
    obtain ⟨form, admitted, known⟩ := form column isColumn
    obtain rfl := admitted.source hasSource
    rcases known with impossible | takes
    · cases impossible
    · rw [← named]
      exact ChangeKind.name_of_loaded kind member takes

namespace Changelog

/-- A host with the kinds that are always there lets only well-typed changes and checks pass. -/
theorem isStricter_wellTyped {host : Host}
    (changes : host.catalog.changes = Catalog.builtin.changes)
    (preconditions : host.catalog.preconditions = Catalog.builtin.preconditions) :
    Host.IsStricter False Change.IsWellTyped Check.IsWellTyped host host where
  same := ⟨host.configuration.strictParameters, rfl⟩
  changes _ _ _ := .same
    (fun read _ => Change.isWellTyped_of_admitted (Change.admits_ofElement changes read)) False.elim
  checks _ _ := .same (fun read _ => Check.admits_ofElement preconditions read) False.elim
  rawSql sql := Change.isWellTyped_of_admitted (Change.admits_rawSql sql)

/-- Every build with the kinds that are always there gives well-typed changes, those that undo
others included, and well-typed checks, in the changelog itself and in its changesets. -/
theorem changes_and_checks_wellTyped {host : Host}
    (changes : host.catalog.changes = Catalog.builtin.changes)
    (preconditions : host.catalog.preconditions = Catalog.builtin.preconditions) {path : String}
    {source : Option String} {arguments : List (String × Value)} {log : Changelog}
    (built : build host path source arguments = .ok log) :
    (∀ changeset ∈ log.changesets,
      (∀ change ∈ changeset.changes ++ changeset.rollback, change.IsWellTyped) ∧
      ∀ container ∈ changeset.preconditions, ∀ check ∈ container.checks, check.IsWellTyped) ∧
    ∀ container ∈ log.preconditions, ∀ check ∈ container.checks, check.IsWellTyped := by
  have stricter := isStricter_wellTyped changes preconditions
  exact ((filters_build stricter arguments False.elim False.elim).passes trivial built).2

/-- A script with a check, an added column with a place, and a rollback. -/
def typedFiles : MemoryStore :=
  .ofList [
    ("m.qcl",
      r"databaseChangeLog{preConditions{dbms(type:'h')}changeSet(id:'1',author:'m'){" ++
        r"addColumn(tableName:'t'){column(name:'c',position:2)}rollback 'u'}}")]

theorem typedFiles_wellTyped : ∃ log,
    build { store := typedFiles.toStore } "m.qcl" none [] = .ok log ∧
    (log.changesets.map fun changeset =>
      (changeset.changes ++ changeset.rollback).map (·.kind)) = [["addColumn", "sql"]] ∧
    (∀ changeset ∈ log.changesets,
      (∀ change ∈ changeset.changes ++ changeset.rollback, change.IsWellTyped) ∧
      ∀ container ∈ changeset.preconditions, ∀ check ∈ container.checks, check.IsWellTyped) ∧
    ∀ container ∈ log.preconditions, ∀ check ∈ container.checks, check.IsWellTyped := by
  have evaluated : ((build { store := typedFiles.toStore } "m.qcl" none []).toOption.map
      fun log => log.changesets.map fun changeset =>
        (changeset.changes ++ changeset.rollback).map (·.kind)) = some [["addColumn", "sql"]] := by
    decide +kernel
  obtain ⟨log, built, kinds⟩ := exists_ok_of_toOption evaluated
  exact ⟨log, built, kinds, changes_and_checks_wellTyped rfl rfl built⟩

end Changelog

end Migration
