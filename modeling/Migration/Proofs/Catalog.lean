import Migration.Catalog
import Migration.Proofs.NameMap

/-!
# Kinds that are always there

What is found in the catalog under a name is the kind of that name.  The facts about the kinds that
are always there are decided over their list.
-/

namespace Migration

namespace Catalog

variable {catalog : Catalog}

theorem foldl_addPlugin (plugins : List (String × Plugin)) :
    (plugins.foldl (fun catalog plugin => catalog.addPlugin plugin.1 plugin.2) catalog).changes =
        catalog.changes ∧
      (plugins.foldl (fun catalog plugin => catalog.addPlugin plugin.1 plugin.2)
        catalog).preconditions = catalog.preconditions := by
  induction plugins generalizing catalog with
  | nil => exact ⟨rfl, rfl⟩
  | cons plugin plugins ih => exact ih

theorem foldl_addPrecondition (kinds : List PreconditionKind) :
    (kinds.foldl addPrecondition catalog).changes = catalog.changes ∧
      (kinds.foldl addPrecondition catalog).preconditions =
        kinds.foldl (fun map kind => map.insert kind.name kind) catalog.preconditions := by
  induction kinds generalizing catalog with
  | nil => exact ⟨rfl, rfl⟩
  | cons kind kinds ih => exact ih

theorem foldl_addChange (kinds : List ChangeKind) :
    (kinds.foldl addChange catalog).changes =
        kinds.foldl (fun map kind => map.insert kind.name kind) catalog.changes ∧
      (kinds.foldl addChange catalog).preconditions = catalog.preconditions := by
  induction kinds generalizing catalog with
  | nil => exact ⟨rfl, rfl⟩
  | cons kind kinds ih => exact ih

theorem changes_builtin : builtin.changes =
    ChangeKind.builtin.foldl (fun map kind => map.insert kind.name kind) .empty := by
  unfold builtin extend
  rw [(foldl_addPlugin _).1, (foldl_addPrecondition _).1, (foldl_addChange _).1]

theorem preconditions_builtin : builtin.preconditions =
    PreconditionKind.builtin.foldl (fun map kind => map.insert kind.name kind) .empty := by
  unfold builtin extend
  rw [(foldl_addPlugin _).2, (foldl_addPrecondition _).2, (foldl_addChange _).2]

/-- The last of the kinds with a name is found under it. -/
theorem get?_changes_builtin (name : String) :
    builtin.changes.get? name = ChangeKind.builtin.reverse.find? (·.name = name) := by
  rw [changes_builtin, NameMap.get?_foldl_insert, NameMap.get?_empty, Option.or_none]

theorem get?_preconditions_builtin (name : String) :
    builtin.preconditions.get? name = PreconditionKind.builtin.reverse.find? (·.name = name) := by
  rw [preconditions_builtin, NameMap.get?_foldl_insert, NameMap.get?_empty, Option.or_none]

theorem mem_changeKinds {name : String} {kind : ChangeKind}
    (found : builtin.changes.get? name = some kind) :
    kind ∈ ChangeKind.builtin ∧ kind.name = name := by
  rw [get?_changes_builtin] at found
  exact ⟨List.mem_reverse.mp (List.mem_of_find?_eq_some found), by
    simpa using List.find?_some found⟩

theorem mem_preconditionKinds {name : String} {kind : PreconditionKind}
    (found : builtin.preconditions.get? name = some kind) :
    kind ∈ PreconditionKind.builtin ∧ kind.name = name := by
  rw [get?_preconditions_builtin] at found
  exact ⟨List.mem_reverse.mp (List.mem_of_find?_eq_some found), by
    simpa using List.find?_some found⟩

end Catalog

namespace ChangeKind

/-! ## Bodies and columns -/

/-- The text of a block goes to a parameter that holds text. -/
theorem find?_body : ∀ kind ∈ builtin, ∀ body ∈ kind.body,
    ∃ param, kind.params.find? body = some param ∧ param.type = .text := by
  have decided : ∀ kind ∈ builtin, ∀ body ∈ kind.body,
      (kind.params.find? body).map (·.type) = some .text := by
    decide +kernel
  intro kind member body isBody
  exact Option.map_eq_some_iff.mp (decided kind member body isBody)

/-- The kind of changes that run a piece of SQL holds it as text. -/
theorem find?_sql : ∀ kind ∈ builtin, kind.name = "sql" →
    ∃ param, kind.params.find? "sql" = some param ∧ param.type = .text := by
  have decided : ∀ kind ∈ builtin, kind.name = "sql" →
      (kind.params.find? "sql").map (·.type) = some .text := by
    decide +kernel
  intro kind member named
  exact Option.map_eq_some_iff.mp (decided kind member named)

/-- Nothing else is required to run a piece of SQL. -/
theorem name_of_required_sql : ∀ kind ∈ builtin, kind.name = "sql" →
    ∀ param ∈ kind.params, param.required → param.name = "sql" := by
  decide +kernel

/-- Only added columns have a place among the others. -/
theorem name_of_added : ∀ kind ∈ builtin, kind.columns = some .added → kind.name = "addColumn" := by
  decide +kernel

/-- Only loaded columns have a place in the loaded file. -/
theorem name_of_loaded : ∀ kind ∈ builtin, kind.columns = some .loaded →
    kind.name = "loadData" ∨ kind.name = "loadUpdateData" := by
  decide +kernel

/-- No schema declares a name twice. -/
theorem nodup_names : ∀ kind ∈ builtin, (kind.params.map (·.name)).Nodup := by
  decide +kernel

/-! ## Steps that finish a change -/

/-- Whether a step leaves a change as it is or sets an optional text. -/
def OnlySetsText (params : Schema) (finish : Finish) : Prop :=
  ∀ changeset change finished messages, finish changeset change = .ok (finished, messages) →
    finished = change ∨ ∃ name text, params.find? name = some { name, type := .text } ∧
      finished = change.set name (.text text)

theorem defaultTarget_onlySetsText {params : Schema}
    (target : params.find? "target" = some { name := "target", type := .text }) :
    OnlySetsText params defaultTarget := by
  intro changeset change finished messages done
  cases done
  split
  · exact .inl rfl
  · exact .inr ⟨_, _, target, rfl⟩

theorem finishForeignKey_onlySetsText {params : Schema}
    (onDelete : params.find? "onDelete" = some { name := "onDelete", type := .text }) :
    OnlySetsText params finishForeignKey := by
  intro changeset change finished messages done
  cases done
  split
  · exact .inr ⟨_, _, onDelete, rfl⟩
  · exact .inl rfl

theorem eitherPathOr_onlySetsText {params : Schema} (inline : String) :
    OnlySetsText params (eitherPathOr inline) := by
  intro changeset change finished messages done
  unfold eitherPathOr at done
  split at done
  · cases done
  · cases done
    exact .inl rfl

theorem demandClass_onlySetsText {params : Schema} : OnlySetsText params demandClass := by
  intro changeset change finished messages done
  unfold demandClass at done
  split at done
  · cases done
    exact .inl rfl
  · cases done

/-- No kind does more to finish a change than to set an optional text. -/
theorem finish_onlySetsText : ∀ kind ∈ builtin, ∀ finish, kind.finish = some finish →
    OnlySetsText kind.params finish := by
  simp only [builtin, ofTables, ofColumns, ofConstraints, ofOtherObjects, ofData, ofScripts,
    List.forall_mem_append, List.forall_mem_cons, List.not_mem_nil, false_implies, implies_true,
    reduceCtorEq, Option.some.injEq, forall_eq', and_true, true_and]
  exact ⟨⟨finishForeignKey_onlySetsText (by decide +kernel),
    eitherPathOr_onlySetsText _, eitherPathOr_onlySetsText _⟩,
    demandClass_onlySetsText, defaultTarget_onlySetsText (by decide +kernel)⟩

end ChangeKind

end Migration
