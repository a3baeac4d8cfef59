import Migration.Proofs.Declaration.Changeset
import Migration.Proofs.Declaration.Precondition

/-!
# What changesets hold

Whether all changes and checks of a changeset are good is seen while its block is read: where the
reading of single changes and checks is strict about it, so is that of the whole block.
-/

namespace Migration

/-- A host that is as strict about parameters as the flag says. -/
def Host.checking (host : Host) (strict : Bool) : Host :=
  { host with configuration := { host.configuration with strictParameters := strict } }

/-- Whether all that a changeset holds is good: the changes that it makes and those that undo it,
and the single checks of its preconditions. -/
def Changeset.Holds (goodChange : Change → Prop) (goodCheck : Check → Prop)
    (changeset : Changeset) : Prop :=
  (∀ change ∈ changeset.changes ++ changeset.rollback, goodChange change) ∧
    ∀ container ∈ changeset.preconditions, container.Holds goodCheck

/-- Whether all that a changelog holds is good: its changesets, and the single checks of its own
preconditions. -/
def Changelog.Holds (goodChange : Change → Prop) (goodCheck : Check → Prop)
    (log : Changelog) : Prop :=
  (∀ changeset ∈ log.changesets, changeset.Holds goodChange goodCheck) ∧
    ∀ container ∈ log.preconditions, container.Holds goodCheck

/-- A host with other policies about rollback references without an author, and about labels of
inclusions. -/
def Host.withPolicies (host : Host) (references labels : Bool) : Host :=
  { host with
    configuration := { host.configuration with
      strictRollbackReferences := references
      hostIncludeLabels := labels } }

/-- Whether one host reads changes and checks like the other, except that it refuses those that are
not good.  If `exact` holds it refuses nothing else. -/
structure Host.IsStricter (exact : Prop) (goodChange : Change → Prop) (goodCheck : Check → Prop)
    (strict lax : Host) : Prop where
  same : ∃ flag, strict = lax.checking flag
  changes : ∀ site id e, Filters exact True (Change.ofElement strict site id e)
    (Change.ofElement lax site id e) fun read => goodChange read.1
  checks : ∀ site e, Filters exact True (Check.ofElement strict site e)
    (Check.ofElement lax site e) goodCheck
  rawSql : ∀ sql, goodChange (.rawSql sql)

/-- Whether one host reads what the other one reads, except that it refuses changes and checks that
are not good, and what its policies refuse.  If `exact` holds its policies refuse nothing else. -/
structure Host.IsNarrower (exact : Prop) (goodChange : Change → Prop) (goodCheck : Check → Prop)
    (strict lax : Host) : Prop where
  same : ∃ flag references labels, strict = (lax.checking flag).withPolicies references labels
  references : lax.configuration.strictRollbackReferences →
    strict.configuration.strictRollbackReferences
  labels : strict.configuration.hostIncludeLabels → lax.configuration.hostIncludeLabels
  policies : exact →
    strict.configuration.strictRollbackReferences = lax.configuration.strictRollbackReferences ∧
    strict.configuration.hostIncludeLabels = lax.configuration.hostIncludeLabels
  changes : ∀ site id e, Filters exact True (Change.ofElement strict site id e)
    (Change.ofElement lax site id e) fun read => goodChange read.1
  checks : ∀ site e, Filters exact True (Check.ofElement strict site e)
    (Check.ofElement lax site e) goodCheck
  rawSql : ∀ sql, goodChange (.rawSql sql)

theorem Host.IsStricter.isNarrower {exact : Prop} {goodChange : Change → Prop}
    {goodCheck : Check → Prop} {strict lax : Host}
    (stricter : IsStricter exact goodChange goodCheck strict lax) :
    IsNarrower exact goodChange goodCheck strict lax := by
  obtain ⟨⟨flag, rfl⟩, changes, checks, rawSql⟩ := stricter
  exact ⟨⟨flag, _, _, rfl⟩, id, id, fun _ => ⟨rfl, rfl⟩, changes, checks, rawSql⟩

theorem Host.IsNarrower.isPattern_eq {exact : Prop} {goodChange : Change → Prop}
    {goodCheck : Check → Prop} {strict lax : Host}
    (narrower : IsNarrower exact goodChange goodCheck strict lax) :
    strict.isPattern = lax.isPattern := by
  obtain ⟨_, _, _, rfl⟩ := narrower.same
  rfl

namespace Changeset

variable {exact : Prop} {goodChange : Change → Prop} {goodCheck : Check → Prop}
  {strict lax : Host} {site : Site} {changeset : Changeset} {log : Changelog}

theorem holds_addRollback {undoing : List Change} :
    Holds goodChange goodCheck { changeset with rollback := changeset.rollback ++ undoing } ↔
      changeset.Holds goodChange goodCheck ∧ ∀ change ∈ undoing, goodChange change := by
  simp only [Holds, List.forall_mem_append, and_assoc, and_comm, and_left_comm]

theorem holds_addChange {change : Change} :
    Holds goodChange goodCheck { changeset with changes := changeset.changes ++ [change] } ↔
      changeset.Holds goodChange goodCheck ∧ goodChange change := by
  simp only [Holds, List.forall_mem_append, List.forall_mem_singleton, and_assoc, and_comm]

theorem holds_addRollbackSql (narrower : Host.IsNarrower exact goodChange goodCheck strict lax)
    (sql : String) : (changeset.addRollbackSql sql).Holds goodChange goodCheck ↔
      changeset.Holds goodChange goodCheck := by
  rw [addRollbackSql, holds_addRollback]
  simp [narrower.rawSql]

/-! ## Rollback -/

theorem filters_undoneBy (narrower : Host.IsNarrower exact goodChange goodCheck strict lax)
    (e : Element) : Filters exact (changeset.Holds goodChange goodCheck)
      (undoneBy strict site changeset e) (undoneBy lax site changeset e)
      fun read => read.1.Holds goodChange goodCheck := by
  refine Filters.bind (.given fun _ => narrower.changes site changeset.id e) fun read _ => ?_
  obtain ⟨change, warnings⟩ := read
  exact .okOf _ (by simp [holds_addRollback])

theorem filters_takeRollbackItems
    (narrower : Host.IsNarrower exact goodChange goodCheck strict lax)
    (items : List (Item Element)) : Filters exact (changeset.Holds goodChange goodCheck)
      (takeRollbackItems strict site changeset items) (takeRollbackItems lax site changeset items)
      fun read => read.1.Holds goodChange goodCheck := by
  induction items generalizing changeset with
  | nil => exact .okOf _ Iff.rfl
  | cons item items ih =>
      cases item with
      | text sql =>
          cases items with
          | nil => exact .okOf _ (holds_addRollbackSql narrower _)
          | cons => exact .error _
      | element e =>
          unfold takeRollbackItems
          split
          · exact .error _
          · refine (filters_undoneBy narrower e).bind fun read _ => ?_
            obtain ⟨middle, warnings⟩ := read
            exact Filters.bind ih fun read _ => .okOf _ Iff.rfl

/-- A rollback refers to a changeset of the changelog. -/
theorem mem_of_referredBy {host : Host} {arguments : List (String × Value)} {target : Changeset}
    (referred : referredBy host site log changeset arguments = .ok target) :
    target ∈ log.changesets := by
  unfold referredBy at referred
  dsimp only at referred
  split at referred
  · cases referred
  obtain ⟨given, -, referred⟩ := bind_eq_ok.mp referred
  split at referred
  · cases referred
  split at referred
  case' h_2 =>
    split at referred
    · cases referred
  -- Whoever the author is, the changeset that is named has been found.
  all_goals
    obtain ⟨author, -, referred⟩ := bind_eq_ok.mp referred
    split at referred
    · rename_i found
      cases referred
      exact List.mem_of_find?_eq_some found
    · cases referred

/-- A reference without an author may be refused, and any other is the same. -/
theorem filters_referredBy (narrower : Host.IsNarrower exact goodChange goodCheck strict lax)
    {before : Prop} (arguments : List (String × Value)) :
    Filters exact before (referredBy strict site log changeset arguments)
      (referredBy lax site log changeset arguments) fun _ => before := by
  unfold referredBy
  dsimp only
  split
  · exact .error _
  refine Filters.bind (.aside _) fun given _ => ?_
  split
  · exact .error _
  split
  · exact .aside _
  · by_cases same : strict.configuration.strictRollbackReferences =
        lax.configuration.strictRollbackReferences
    · rw [same]
      exact .aside _
    · -- Only the strict host refuses the reference.
      have refused : strict.configuration.strictRollbackReferences = true := by
        have references := narrower.references
        revert same references
        cases strict.configuration.strictRollbackReferences <;>
          cases lax.configuration.strictRollbackReferences <;> simp
      rw [if_pos refused]
      exact .refused fun isExact => same (narrower.policies isExact).1

theorem filters_takeRollback (narrower : Host.IsNarrower exact goodChange goodCheck strict lax)
    (good : log.Holds goodChange goodCheck) (e : Element) :
    Filters exact (changeset.Holds goodChange goodCheck)
      (takeRollback strict site log changeset e) (takeRollback lax site log changeset e)
      fun read => read.1.Holds goodChange goodCheck := by
  refine Filters.bind (.aside _) fun call _ => ?_
  match call with
  | .empty => exact filters_takeRollbackItems narrower e.items
  | .positional values =>
      dsimp only
      split
      · split
        · exact .okOf _ (holds_addRollbackSql narrower _)
        · exact .okOf _ Iff.rfl
      · exact .error _
  | .named arguments =>
      dsimp only
      split
      · exact .error _
      · refine Filters.bind (filters_referredBy narrower arguments) fun target referred => ?_
        have undoing : ∀ change ∈ target.changes, goodChange change := fun change member =>
          (good.1 target (mem_of_referredBy referred)).1 change (List.mem_append_left _ member)
        exact .ok _ (fun holds => holds_addRollback.mpr ⟨holds, undoing⟩)
          fun _ holds => (holds_addRollback.mp holds).1

/-! ## Blocks -/

/-- Only a `preConditions` element fills in the preconditions of a changeset. -/
theorem preconditions_takeElement {host : Host} {e : Element} {after : Changeset}
    {warnings : List Warning}
    (taken : takeElement host site log changeset e = .ok (after, warnings))
    (other : e.name ≠ "preConditions") : after.preconditions = changeset.preconditions := by
  cases takes_of_takeElement taken with
  | preconditions named _ => exact absurd named other
  | rollback _ taken =>
      obtain ⟨_, rfl⟩ := takeRollback_grows taken
      rfl
  | _ => rfl

theorem filters_takeElement (narrower : Host.IsNarrower exact goodChange goodCheck strict lax)
    (good : log.Holds goodChange goodCheck) {e : Element}
    (once : exact → e.name = "preConditions" → changeset.preconditions = none) :
    Filters exact (changeset.Holds goodChange goodCheck)
      (takeElement strict site log changeset e) (takeElement lax site log changeset e)
      fun read => read.1.Holds goodChange goodCheck := by
  unfold takeElement
  split
  · exact Filters.bind (.aside _) fun text _ => .okOf _ Iff.rfl
  split
  · exact Filters.bind (.aside _) fun text _ => .okOf _ Iff.rfl
  split
  · rename_i named
    refine Filters.bind (.given fun _ =>
      PreconditionContainer.filters_ofElement (narrower.checks site) e) fun container _ => ?_
    refine .ok _ ?_ fun isExact holds => ?_
    · rintro ⟨⟨changes, -⟩, isGood⟩
      exact ⟨changes, by simpa using isGood⟩
    · refine ⟨⟨holds.1, ?_⟩, holds.2 container rfl⟩
      rw [once isExact named]
      intro other member
      cases member
  split
  · exact filters_takeRollback narrower good e
  split
  · rw [narrower.isPattern_eq]
    exact Filters.bind (.aside _) fun edits _ => .okOf _ Iff.rfl
  · refine Filters.bind (.given fun _ => narrower.changes site changeset.id e) fun read _ => ?_
    exact .okOf _ holds_addChange

/-- An item of the block of a changeset that declares its preconditions. -/
def isPreconditions : Item Element → Bool
  | .text _ => false
  | .element e => e.name = "preConditions"

/-- Whether a changeset with some items to come has no more than one declaration of its
preconditions. -/
def DeclaresOnce (changeset : Changeset) (items : List (Item Element)) : Prop :=
  changeset.preconditions.isSome.toNat + items.countP isPreconditions ≤ 1

theorem DeclaresOnce.preconditions_eq_none {e : Element} {items : List (Item Element)}
    (once : changeset.DeclaresOnce (.element e :: items)) (named : e.name = "preConditions") :
    changeset.preconditions = none := by
  unfold DeclaresOnce at once
  rw [List.countP_cons_of_pos (by simpa [isPreconditions] using named)] at once
  cases preconditions : changeset.preconditions with
  | none => rfl
  | some container =>
      rw [preconditions] at once
      simp only [Option.isSome_some, Bool.toNat_true] at once
      omega

theorem DeclaresOnce.tail {host : Host} {e : Element} {items : List (Item Element)}
    {after : Changeset} {warnings : List Warning}
    (once : changeset.DeclaresOnce (.element e :: items))
    (taken : takeElement host site log changeset e = .ok (after, warnings)) :
    after.DeclaresOnce items := by
  unfold DeclaresOnce at once ⊢
  by_cases named : e.name = "preConditions"
  · rw [List.countP_cons_of_pos (by simpa [isPreconditions] using named)] at once
    have le : after.preconditions.isSome.toNat ≤ 1 := Bool.toNat_le _
    omega
  · rw [List.countP_cons_of_neg (by simpa [isPreconditions] using named)] at once
    rwa [preconditions_takeElement taken named]

theorem filters_takeItems (narrower : Host.IsNarrower exact goodChange goodCheck strict lax)
    (good : log.Holds goodChange goodCheck) (items : List (Item Element))
    (once : exact → changeset.DeclaresOnce items) :
    Filters exact (changeset.Holds goodChange goodCheck)
      (takeItems strict site log changeset items) (takeItems lax site log changeset items)
      fun read => read.1.Holds goodChange goodCheck := by
  induction items generalizing changeset with
  | nil => exact .okOf _ Iff.rfl
  | cons item items ih =>
      cases item with
      | text s => exact .error _
      | element e =>
          unfold takeItems
          refine Filters.bind (filters_takeElement narrower good
            fun isExact => (once isExact).preconditions_eq_none) fun read taken => ?_
          obtain ⟨middle, warnings⟩ := read
          refine Filters.bind (ih fun isExact => (once isExact).tail taken) fun read _ => ?_
          exact .okOf _ Iff.rfl

/-- Nothing is held before the block is read. -/
theorem holds_nothing_ofArguments {arguments : List (String × Value)}
    (built : ofArguments log arguments = .ok changeset) :
    changeset.changes = [] ∧ changeset.rollback = [] ∧ changeset.preconditions = none := by
  rw [bare_ofArguments built]
  exact ⟨rfl, rfl, rfl⟩

/-- A changeset is read as strictly as what it holds, given that all is good that the changelog
holds to which its rollback may refer. -/
theorem filters_ofElement (narrower : Host.IsNarrower exact goodChange goodCheck strict lax)
    (good : log.Holds goodChange goodCheck) (properties : PropertyTable) {e : Element}
    (once : exact → e.items.countP isPreconditions ≤ 1) :
    Filters exact True (ofElement strict properties log e) (ofElement lax properties log e)
      fun read => read.1.Holds goodChange goodCheck := by
  refine Filters.bind (.aside _) fun arguments _ => ?_
  refine Filters.bind (.aside _) fun start built => ?_
  obtain ⟨noChanges, noRollback, noPreconditions⟩ := holds_nothing_ofArguments built
  have holds : start.Holds goodChange goodCheck := by
    simp [Holds, noChanges, noRollback, noPreconditions]
  refine (filters_takeItems narrower good e.items ?_).congr (by simp [holds]) fun _ => Iff.rfl
  intro isExact
  unfold DeclaresOnce
  rw [noPreconditions]
  simpa using once isExact

end Changeset

end Migration
