import Migration.Proofs.Declaration.Contents

/-!
# Required parameters

A strict reading of changes and checks refuses exactly those that lack something required.  What a
kind does to finish a change neither adds nor takes away a required parameter, so that the finished
change can be looked at instead.
-/

namespace Migration

/-- Whether all required parameters of a schema have a value. -/
def Schema.HasRequired (schema : Schema) (given : Attributes) : Prop :=
  ∀ param ∈ schema, param.required → given.has param.name

theorem Schema.checkRequired_eq_ok {schema : Schema} {element : String}
    {changeset : Option String} {given : Attributes} :
    schema.checkRequired element changeset given = .ok () ↔ schema.HasRequired given := by
  unfold checkRequired HasRequired
  split
  · rename_i param found
    have member := List.mem_of_find?_eq_some found
    have missing := List.find?_some found
    simp only [required, List.mem_filter] at member
    simp only [reduceCtorEq, false_iff, Classical.not_forall]
    exact ⟨param, member.1, member.2, by simpa using missing⟩
  · rename_i nothing
    simp only [true_iff]
    intro param member isRequired
    have hasIt := List.find?_eq_none.mp nothing param (by simp [required, member, isRequired])
    simpa using hasIt

/-- In a schema that declares no name twice a parameter is found under its name. -/
theorem Schema.find?_eq_some {schema : Schema} (distinct : (schema.map (·.name)).Nodup)
    {param : Param} (member : param ∈ schema) : schema.find? param.name = some param := by
  unfold find?
  induction schema with
  | nil => cases member
  | cons first schema ih =>
      obtain ⟨fresh, distinct⟩ := List.nodup_cons.mp distinct
      rcases List.mem_cons.mp member with rfl | later
      · simp
      · have different : first.name ≠ param.name := fun same =>
          fresh (List.mem_map.mpr ⟨param, later, same.symm⟩)
        simp [different, ih distinct later]

/-- Whether a change has a value for every parameter that its kind requires. -/
def Change.IsComplete (change : Change) : Prop :=
  ∀ kind, Catalog.builtin.changes.get? change.kind = some kind →
    kind.params.HasRequired change.params

/-- Whether a check has a value for every parameter that its kind requires, and SQL that is not
blank if its kind takes any. -/
def Check.IsComplete (check : Check) : Prop :=
  ∀ kind, Catalog.builtin.preconditions.get? check.kind = some kind →
    kind.params.HasRequired check.params ∧
      (kind.takesSql → Text.trimmed (check.sql.getD "") ≠ "")

namespace Change

variable {kind : ChangeKind} {site : Site}

/-- A finished change has the required parameters that it had before. -/
theorem IsFinished.hasRequired {id : String} {taken finished : Change} {warnings : List Warning}
    (isFinished : IsFinished kind id taken finished warnings) (member : kind ∈ ChangeKind.builtin) :
    kind.params.HasRequired finished.params ↔ kind.params.HasRequired taken.params := by
  rcases isFinished.cases member with rfl | ⟨name, text, declared, rfl⟩
  · exact Iff.rfl
  · have other (param : Param) (isParam : param ∈ kind.params) (required : param.required) :
        name ≠ param.name := by
      rintro rfl
      have found := Schema.find?_eq_some (ChangeKind.nodup_names kind member) isParam
      rw [declared] at found
      rw [← Option.some.inj found] at required
      cases required
    have same (param : Param) (isParam : param ∈ kind.params) (required : param.required) :
        (taken.set name (.text text)).params.has param.name = taken.params.has param.name := by
      simp [set, Attributes.has, Attributes.value?, other param isParam required]
    constructor
    · intro has param isParam required
      rw [← same param isParam required]
      exact has param isParam required
    · intro has param isParam required
      rw [same param isParam required]
      exact has param isParam required

theorem isComplete_rawSql (sql : String) : (rawSql sql).IsComplete := by
  intro kind found param isParam required
  obtain ⟨member, named⟩ := Catalog.mem_changeKinds found
  rw [ChangeKind.name_of_required_sql kind member named param isParam required]
  rfl

/-- A declared change is complete if it was before its kind finished it. -/
theorem isComplete_iff {host : Host} {id : String} {e : Element} {taken finished : Change}
    {warnings : List Warning} (found : Catalog.builtin.changes.get? e.name = some kind)
    (isTaken : ofKind host site kind e = .ok taken)
    (isFinished : IsFinished kind id taken finished warnings) :
    finished.IsComplete ↔ kind.params.HasRequired taken.params := by
  obtain ⟨member, named⟩ := Catalog.mem_changeKinds found
  have same : finished.kind = e.name := by
    have unchanged : finished.kind = taken.kind := by
      rcases isFinished.cases member with rfl | ⟨name, text, -, rfl⟩ <;> rfl
    rw [unchanged, (isOf_ofKind member isTaken).1, named]
  unfold IsComplete
  rw [same, found, ← isFinished.hasRequired member]
  simp

/-- A strict reading of a declared change refuses those that are not complete. -/
theorem filters_ofElement {host : Host} (changes : host.catalog.changes = Catalog.builtin.changes)
    (id : String) (e : Element) :
    Filters True True (ofElement (host.checking true) site id e)
      (ofElement (host.checking false) site id e) fun read => read.1.IsComplete where
  passes _ read := by
    obtain ⟨kind, taken, found, isTaken, isFinished⟩ := ofElement_eq_ok.mp read
    obtain ⟨isCalled, checked⟩ := ofKind_eq_ok.mp isTaken
    refine ⟨ofElement_eq_ok.mpr
      ⟨kind, taken, found, ofKind_eq_ok.mpr ⟨isCalled, ?_⟩, isFinished⟩, ?_⟩
    · intro impossible
      cases impossible
    · exact (isComplete_iff (changes ▸ found) isTaken isFinished).mpr
        (Schema.checkRequired_eq_ok.mp (checked rfl))
  reflects _ _ read isComplete := by
    obtain ⟨kind, taken, found, isTaken, isFinished⟩ := ofElement_eq_ok.mp read
    obtain ⟨isCalled, -⟩ := ofKind_eq_ok.mp isTaken
    have complete := (isComplete_iff (changes ▸ found) isTaken isFinished).mp isComplete
    refine ⟨trivial, ofElement_eq_ok.mpr ⟨kind, taken, found, ?_, isFinished⟩⟩
    exact ofKind_eq_ok.mpr ⟨isCalled, fun _ => Schema.checkRequired_eq_ok.mpr complete⟩

end Change

namespace Check

variable {site : Site}

theorem checkRequired_eq_ok {kind : PreconditionKind} {check : Check} :
    checkRequired site kind check = .ok () ↔ kind.params.HasRequired check.params ∧
      (kind.takesSql → Text.trimmed (check.sql.getD "") ≠ "") := by
  unfold checkRequired
  rw [bind_eq_ok, ← Schema.checkRequired_eq_ok]
  constructor
  · rintro ⟨_, checked, demanded⟩
    refine ⟨checked, fun takesSql blank => ?_⟩
    rw [if_pos ⟨takesSql, blank⟩] at demanded
    cases demanded
  · rintro ⟨checked, hasSql⟩
    refine ⟨(), checked, ?_⟩
    rw [if_neg fun missing => hasSql missing.1 missing.2]
    rfl

theorem isComplete_iff {kind : PreconditionKind} {check : Check} {e : Element}
    {given : Attributes} (found : Catalog.builtin.preconditions.get? e.name = some kind)
    (called : site.attributes kind.params none e = .ok given)
    (isTaken : e.items.foldlM (takeItem site kind) (ofAttributes kind given) = .ok check) :
    check.IsComplete ↔ checkRequired site kind check = .ok () := by
  obtain ⟨-, named⟩ := Catalog.mem_preconditionKinds found
  rw [checkRequired_eq_ok, IsComplete, (isOf_taken called isTaken).1, named, found]
  simp

/-- A strict reading of a declared check refuses those that are not complete. -/
theorem filters_ofElement {host : Host}
    (preconditions : host.catalog.preconditions = Catalog.builtin.preconditions) (e : Element) :
    Filters True True (ofElement (host.checking true) site e)
      (ofElement (host.checking false) site e) IsComplete where
  passes _ read := by
    obtain ⟨kind, given, found, called, isTaken, checked⟩ := ofElement_eq_ok.mp read
    refine ⟨ofElement_eq_ok.mpr ⟨kind, given, found, called, isTaken, ?_⟩, ?_⟩
    · intro impossible
      cases impossible
    · exact (isComplete_iff (preconditions ▸ found) called isTaken).mpr (checked rfl)
  reflects _ _ read isComplete := by
    obtain ⟨kind, given, found, called, isTaken, -⟩ := ofElement_eq_ok.mp read
    have complete := (isComplete_iff (preconditions ▸ found) called isTaken).mp isComplete
    exact ⟨trivial, ofElement_eq_ok.mpr ⟨kind, given, found, called, isTaken, fun _ => complete⟩⟩

end Check

/-- Among hosts with the kinds that are always there, the strict one refuses exactly the changes and
checks that are not complete. -/
theorem Host.isStricter_checking {host : Host}
    (changes : host.catalog.changes = Catalog.builtin.changes)
    (preconditions : host.catalog.preconditions = Catalog.builtin.preconditions) :
    IsStricter True Change.IsComplete Check.IsComplete (host.checking true)
      (host.checking false) where
  same := ⟨true, rfl⟩
  changes _ id e := Change.filters_ofElement changes id e
  checks _ e := Check.filters_ofElement preconditions e
  rawSql := Change.isComplete_rawSql

end Migration
