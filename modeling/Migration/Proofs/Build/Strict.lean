import Migration.Proofs.Build.Contents
import Migration.Proofs.Build.Memory
import Migration.Proofs.Declaration.Required

/-!
# Strict builds

To be strict about parameters is to look at the result: a strict build gives the changelogs of the
lax build in which no change and no check lacks anything that its kind requires.
-/

namespace Migration.Changelog

/-- A strict build gives a changelog exactly if the lax one does and nothing that is required is
missing in it, provided that no changeset declares its preconditions twice. -/
theorem strict_build_eq_ok_iff {host : Host}
    (changes : host.catalog.changes = Catalog.builtin.changes)
    (preconditions : host.catalog.preconditions = Catalog.builtin.preconditions) {path : String}
    {source : Option String}
    (onceRoot : ∀ script, readScript host (Path.normalize path) source = .ok script →
      script.DeclaresOnce)
    (once : ∀ path script, readScript host path none = .ok script → script.DeclaresOnce)
    (arguments : List (String × Value)) (log : Changelog) :
    build (host.checking true) path source arguments = .ok log ↔
      build (host.checking false) path source arguments = .ok log ∧
        (∀ changeset ∈ log.changesets,
          (∀ change ∈ changeset.changes ++ changeset.rollback, change.IsComplete) ∧
          ∀ container ∈ changeset.preconditions, ∀ check ∈ container.checks, check.IsComplete) ∧
        ∀ container ∈ log.preconditions, ∀ check ∈ container.checks, check.IsComplete := by
  have filters := filters_build (Host.isStricter_checking changes preconditions) arguments
    (fun _ => onceRoot) fun _ => once
  constructor
  · intro built
    exact filters.passes trivial built
  · rintro ⟨built, isComplete⟩
    exact (filters.reflects trivial built isComplete).2

/-- The script of a file in memory is read from its text. -/
theorem parse_of_readScript {configuration : Configuration} {catalog : Catalog}
    {files : MemoryStore} {isPattern : String → Bool} {path : String} {script : Script}
    (read : readScript (.ofMemory configuration catalog files isPattern) path none = .ok script) :
    ∃ entry ∈ files.contents.entries, Script.parse entry.2 = .ok script := by
  simp only [readScript] at read
  obtain ⟨text, found, read⟩ := bind_eq_ok.mp read
  simp only [Store.text, Host.ofMemory, MemoryStore.toStore, MemoryStore.read] at found
  split at found
  · rename_i content present
    cases found
    refine ⟨_, NameMap.mem_of_get? present, ?_⟩
    cases parsed : Script.parse text with
    | ok other =>
        rw [parsed] at read
        exact congrArg Except.ok (Except.ok.inj read)
    | error malformed =>
        rw [parsed] at read
        cases read
  · cases found

/-- A script with a complete change and a complete check. -/
def completeFiles : MemoryStore :=
  .ofList [
    ("m.qcl",
      r"databaseChangeLog{changeSet(id:'1',author:'m'){" ++
        r"preConditions{dbms(type:'h')}tagDatabase 't'}}")]

theorem declaresOnce_completeFiles {path : String} {script : Script}
    (read : readScript (.ofMemory {} .builtin completeFiles) path none = .ok script) :
    script.DeclaresOnce := by
  obtain ⟨entry, member, parsed⟩ := parse_of_readScript read
  have decided : ∀ entry ∈ completeFiles.contents.entries,
      (Script.parse entry.2).toOption.all fun script => script.DeclaresOnce := by
    decide +kernel
  have once := decided entry member
  rw [parsed] at once
  simpa [Except.toOption] using once

theorem completeFiles_build : ∃ log,
    build ((Host.ofMemory {} .builtin completeFiles).checking true) "m.qcl" none [] = .ok log ∧
    build ((Host.ofMemory {} .builtin completeFiles).checking false) "m.qcl" none [] = .ok log ∧
    (log.changesets.map fun changeset => changeset.changes.map (·.kind)) = [["tagDatabase"]] ∧
    ∀ changeset ∈ log.changesets,
      (∀ change ∈ changeset.changes ++ changeset.rollback, change.IsComplete) ∧
      ∀ container ∈ changeset.preconditions, ∀ check ∈ container.checks, check.IsComplete := by
  have evaluated : ((build ((Host.ofMemory {} .builtin completeFiles).checking true) "m.qcl" none
      []).toOption.map fun log => log.changesets.map fun changeset =>
        changeset.changes.map (·.kind)) = some [["tagDatabase"]] := by
    decide +kernel
  obtain ⟨log, built, kinds⟩ := exists_ok_of_toOption evaluated
  have filtered := (@strict_build_eq_ok_iff (Host.ofMemory {} .builtin completeFiles) rfl rfl _ _
    (fun _ => declaresOnce_completeFiles) (fun _ _ => declaresOnce_completeFiles) [] log).mp built
  exact ⟨log, built, filtered.1, kinds, filtered.2.1⟩

end Migration.Changelog
