import Migration.Proofs.Build.Contents
import Migration.Proofs.Build.Memory

/-!
# Policies of the host

A host may refuse rollback references without an author, and inclusions with labels.  The main
statement, `build_of_laxer_policies`, says that this is all that the two policies do: what is built
under them is built in the same way without them.
-/

namespace Migration.Changelog

variable {host : Host} {references labels : Bool}

/-- A host takes all that it takes under stricter policies. -/
theorem isNarrower_withPolicies
    (fewer : references = true → host.configuration.strictRollbackReferences = true)
    (more : host.configuration.hostIncludeLabels = true → labels = true) :
    Host.IsNarrower False (fun _ => True) (fun _ => True) host
      (host.withPolicies references labels) where
  same := ⟨host.configuration.strictParameters, _, _, rfl⟩
  references := fewer
  labels := more
  policies := False.elim
  changes _ _ _ := .same (fun _ _ => trivial) False.elim
  checks _ _ := .same (fun _ _ => trivial) False.elim
  rawSql _ := trivial

/-- A build that succeeds gives the same changelog if rollback references without an author are
allowed, or labels of inclusions, or both. -/
theorem build_of_laxer_policies
    (fewer : references = true → host.configuration.strictRollbackReferences = true)
    (more : host.configuration.hostIncludeLabels = true → labels = true) {path : String}
    {source : Option String} {arguments : List (String × Value)} {log : Changelog}
    (built : build host path source arguments = .ok log) :
    build (host.withPolicies references labels) path source arguments = .ok log :=
  ((filters_build_of_isNarrower (isNarrower_withPolicies fewer more) arguments False.elim
    False.elim).passes trivial built).1

/-- A script that includes another one, and rolls back to a changeset with its author. -/
def referringFiles : MemoryStore :=
  .ofList [
    ("main.qcl",
      r"databaseChangeLog { include(file: 'a.qcl') changeSet(author: 'm', id: '2') { " ++
        r"rollback(changeSetId: '1', changeSetAuthor: 'n', changeSetPath: 'a.qcl') } }"),
    ("a.qcl", r"databaseChangeLog { changeSet(author: 'n', id: '1') " ++
      r"{ tagDatabase 't' } }")]

/-- It is built in the same way without the policies. -/
theorem build_of_referringFiles : ∃ log,
    build ((Host.ofMemory {} .builtin referringFiles).withPolicies true false) "main.qcl" none [] =
      .ok log ∧
    (log.changesets.map fun changeset => changeset.rollback.map (·.kind)) = [[], ["tagDatabase"]] ∧
    build (((Host.ofMemory {} .builtin referringFiles).withPolicies true false).withPolicies
      false true) "main.qcl" none [] = .ok log := by
  have evaluated : ((build ((Host.ofMemory {} .builtin referringFiles).withPolicies true false)
      "main.qcl" none []).toOption.map fun log =>
        log.changesets.map fun changeset => changeset.rollback.map (·.kind)) =
      some [[], ["tagDatabase"]] := by
    decide +kernel
  obtain ⟨log, built, rollbacks⟩ := exists_ok_of_toOption evaluated
  exact ⟨log, built, rollbacks, build_of_laxer_policies (by decide) (fun _ => rfl) built⟩

end Migration.Changelog
