import Migration.Declaration.Changeset
import Migration.Proofs.Catalog
import Migration.Proofs.Failure

/-!
# Causes that are found in a declaration

What is wrong with a declaration is found in it, or in what the host knows by name.  Only two causes
of failure are about something else: that a script is open already, and that no changeset has the
identity to which a rollback refers.  Of these a declaration has the second one only, and it has it
where it refers to a changeset.
-/

namespace Migration

/-- Whether a cause is about neither the scripts that are open nor the changesets that there are. -/
def BuildError.isLocal : BuildError → Bool
  | .circularInclude _ _ => false
  | .rollbackImpossible _ _ _ => false
  | _ => true

/-- Whether a cause is that the arguments of an element cannot be read: some are named and some are
not, a name is repeated, or a name refers to no property. -/
def BuildError.isUnread : BuildError → Bool
  | .violation (.mixedArguments _ _) none => true
  | .violation (.repeatedArgument _ _ _) none => true
  | .missingProperty _ _ => true
  | _ => false

/-- Whether a cause is a value that its attribute cannot have. -/
def BuildError.isInvalidValue : BuildError → Bool
  | .invalidValue _ _ _ => true
  | _ => false

theorem BuildError.isLocal_of_isInvalidValue {error : BuildError}
    (invalid : error.isInvalidValue = true) : error.isLocal = true := by
  cases error <;> first | rfl | cases invalid

/-- Whether a step fails, if it does, for local causes only. -/
abbrev FailsLocally {α : Type} (step : Except BuildError α) : Prop :=
  FailsFor (fun error => error.isLocal) step

/-- Whether the last steps of building changes fail for local causes only.  Those of a host are
free to do anything. -/
def Catalog.FinishesLocally (catalog : Catalog) : Prop :=
  ∀ name kind finish, catalog.changes.get? name = some kind → kind.finish = some finish →
    ∀ changeset change, FailsLocally (finish changeset change)

theorem ChangeKind.failsLocally_finish : ∀ kind ∈ builtin, ∀ finish, kind.finish = some finish →
    ∀ changeset change, FailsLocally (finish changeset change) := by
  have either (inline changeset : String) (change : Change) :
      FailsLocally (eitherPathOr inline changeset change) := by
    unfold eitherPathOr
    split
    · exact .error rfl
    · exact .ok _
  have demand (changeset : String) (change : Change) :
      FailsLocally (demandClass changeset change) := by
    unfold demandClass
    split
    · exact .ok _
    · exact .error rfl
  simp only [builtin, ofTables, ofColumns, ofConstraints, ofOtherObjects, ofData, ofScripts,
    List.forall_mem_append, List.forall_mem_cons, List.not_mem_nil, false_implies, implies_true,
    reduceCtorEq, Option.some.injEq, forall_eq', and_true, true_and]
  exact ⟨⟨fun _ _ => .ok _, either _, either _⟩, demand, fun _ _ => .ok _⟩

theorem Catalog.finishesLocally_builtin : builtin.FinishesLocally :=
  fun _ kind finish found => ChangeKind.failsLocally_finish kind (mem_changeKinds found).1 finish

/-! ## Schemas -/

namespace Schema

theorem failsLocally_addArguments (schema : Schema) (element : String) (changeset : Option String)
    (given : Attributes) (arguments : List (String × Value)) :
    FailsLocally (schema.addArguments element changeset given arguments) := by
  induction arguments generalizing given with
  | nil => exact .ok given
  | cons argument arguments ih =>
      rw [addArguments]
      split
      · exact ih _
      · rename_i failed
        unfold convert Param.convert at failed
        repeat' split at failed
        all_goals cases failed
        all_goals exact .error rfl

theorem failsLocally_check (schema : Schema) (element : String) (changeset : Option String)
    (arguments : List (String × Value)) :
    FailsLocally (schema.check element changeset arguments) :=
  schema.failsLocally_addArguments element changeset .empty arguments

theorem failsLocally_checkRequired (schema : Schema) (element : String) (changeset : Option String)
    (given : Attributes) : FailsLocally (schema.checkRequired element changeset given) := by
  unfold checkRequired
  split
  · exact .error rfl
  · exact .ok ()

end Schema

theorem failsForValue_oneOf {α : Type} (key raw : String) (alternatives : List (String × α)) :
    FailsFor (·.isInvalidValue) (oneOf key raw alternatives) := by
  unfold oneOf
  split
  · exact .ok _
  · exact .error rfl

theorem failsLocally_oneOf {α : Type} (key raw : String) (alternatives : List (String × α)) :
    FailsLocally (oneOf key raw alternatives) :=
  (failsForValue_oneOf key raw alternatives).mono fun _ => BuildError.isLocal_of_isInvalidValue

/-! ## Calls -/

namespace Site

variable (site : Site)

theorem failsLocally_violation {α : Type} (rule : Violation) :
    FailsLocally (site.violation rule : Except BuildError α) :=
  .error rfl

mutual
theorem failsUnread_resolve : ∀ literal, FailsFor (·.isUnread) (site.resolve literal)
  | .str _ | .int _ | .float _ | .bool _ | .null => .ok _
  | .reference name => by
      unfold resolve
      split
      · exact .ok _
      · exact .error rfl
  | .list items => FailsFor.map_iff.mpr (failsUnread_resolveAll items)

theorem failsUnread_resolveAll : ∀ literals, FailsFor (·.isUnread) (site.resolveAll literals)
  | [] => .ok []
  | literal :: literals =>
      (failsUnread_resolve literal).bind fun _ =>
        (failsUnread_resolveAll literals).bind fun _ => .pure _
end

theorem failsUnread_resolveNamed (e : Element) (before : List String) (arguments : List Argument) :
    FailsFor (·.isUnread) (site.resolveNamed e before arguments) := by
  induction arguments generalizing before with
  | nil => exact .ok []
  | cons argument arguments ih =>
      obtain ⟨_ | key, literal⟩ := argument
      · exact ih before
      · unfold resolveNamed
        split
        · exact .error rfl
        · exact (site.failsUnread_resolve literal).bind fun _ => (ih _).bind fun _ => .pure _

/-- A call fails only if it cannot be read. -/
theorem failsUnread_call (e : Element) : FailsFor (·.isUnread) (site.call e) := by
  unfold call
  split
  · exact .ok _
  split
  · exact .error rfl
  split
  · exact FailsFor.map_iff.mpr (site.failsUnread_resolveNamed e [] _)
  · exact FailsFor.map_iff.mpr (site.failsUnread_resolveAll _)

theorem failsLocally_call (e : Element) : FailsLocally (site.call e) := by
  refine (site.failsUnread_call e).mono fun error isUnread => ?_
  cases error <;> first | rfl | cases isUnread

theorem failsLocally_namedArguments (e : Element) : FailsLocally (site.namedArguments e) := by
  refine (site.failsLocally_call e).bind fun called => ?_
  match called with
  | .empty | .named _ => exact .pure _
  | .positional _ => exact .error rfl

theorem failsLocally_attributes (schema : Schema) (textParam : Option String) (e : Element) :
    FailsLocally (site.attributes schema textParam e) := by
  refine (site.failsLocally_call e).bind fun called => ?_
  split
  · exact .pure _
  · exact schema.failsLocally_check _ _ _
  · exact schema.failsLocally_check _ _ _
  · exact site.failsLocally_violation _

theorem failsLocally_blockTexts (e : Element) (items : List (Item Element)) :
    FailsLocally (site.blockTexts e items) := by
  induction items with
  | nil => exact .ok []
  | cons item items ih =>
      cases item with
      | text s => exact FailsFor.map_iff.mpr ih
      | element child => exact .error rfl

theorem failsLocally_textContent (e : Element) : FailsLocally (site.textContent e) := by
  have fromBlock {next : List String → Except BuildError String}
      (missing : next [] = site.violation (.missingText e.name))
      (joined : ∀ text texts, ∃ whole, next (text :: texts) = .ok whole) :
      FailsLocally (site.blockTexts e e.items >>= next) := by
    refine (site.failsLocally_blockTexts e e.items).bind fun texts => ?_
    cases texts with
    | nil => exact missing ▸ site.failsLocally_violation _
    | cons text texts =>
        obtain ⟨whole, same⟩ := joined text texts
        exact same ▸ .ok whole
  refine (site.failsLocally_call e).bind fun called => ?_
  match called with
  | .empty | .named [] => exact fromBlock rfl fun _ _ => ⟨_, rfl⟩
  | .positional [value] =>
      dsimp only
      split
      · exact .pure _
      · exact fromBlock rfl fun _ _ => ⟨_, rfl⟩
  | .positional [] | .positional (_ :: _ :: _) | .named (_ :: _) =>
      exact .error rfl

theorem failsLocally_onlyNamed (e : Element) (allowed : List String)
    (arguments : List (String × Value)) : FailsLocally (site.onlyNamed e allowed arguments) := by
  unfold onlyNamed
  split
  · exact .error rfl
  · exact .ok _

theorem failsLocally_demand (e : Element) (key : String) (text : Option String) :
    FailsLocally (site.demand e key text) := by
  unfold demand
  split
  · exact .ok _
  · exact .error rfl

theorem failsLocally_customParam (e : Element) : FailsLocally (site.customParam e) := by
  have rest (given : String → Option String) : FailsLocally (do
      let name ← site.demand e "name" (given "name")
      let value ← site.demand e "value" (given "value")
      return (name, value)) :=
    (site.failsLocally_demand e _ _).bind fun _ =>
      (site.failsLocally_demand e _ _).bind fun _ => .pure _
  refine (site.failsLocally_call e).bind fun called => ?_
  split
  · exact .bind (.pure _) rest
  · exact (site.failsLocally_onlyNamed e _ _).bind rest
  · exact .bind (.pure _) rest

theorem failsLocally_commandArgument (e : Element) : FailsLocally (site.commandArgument e) := by
  refine (site.failsLocally_call e).bind fun called => ?_
  split
  · exact .bind (.pure _) (site.failsLocally_demand e _)
  · exact (FailsFor.map_iff.mpr (site.failsLocally_onlyNamed e _ _)).bind
      (site.failsLocally_demand e _)
  · exact .bind (.pure _) (site.failsLocally_demand e _)

end Site

/-! ## Changes -/

variable (host : Host) (site : Site)

theorem Column.failsLocally_ofElement (form : ColumnForm) (e : Element) :
    FailsLocally (ofElement site form e) := by
  refine (site.failsLocally_attributes _ _ e).bind fun given => .foldlM (fun column item => ?_) _ _
  cases item with
  | text s => exact site.failsLocally_violation _
  | element child =>
      unfold takeItem
      dsimp only
      split
      · exact (site.failsLocally_attributes _ _ child).bind fun _ => .pure _
      · exact .error rfl

namespace Change

theorem failsLocally_takeWhereParam (change : Change) (item : Item Element) :
    FailsLocally (takeWhereParam site change item) := by
  cases item with
  | text s => exact site.failsLocally_violation _
  | element e =>
      unfold takeWhereParam
      dsimp only
      split
      · exact (Column.failsLocally_ofElement site _ e).bind fun _ => .pure _
      · exact .error rfl

theorem failsLocally_takeElement (kind : ChangeKind) (change : Change) (e : Element) :
    FailsLocally (takeElement site kind change e) := by
  unfold takeElement
  split
  · split
    · exact site.failsLocally_violation _
    · exact (Column.failsLocally_ofElement site _ e).bind fun _ => .pure _
  split
  · split
    · exact site.failsLocally_violation _
    split
    · exact (site.failsLocally_textContent e).bind fun _ => .pure _
    · exact .foldlM (failsLocally_takeWhereParam site) _ _
  split
  · exact (site.failsLocally_commandArgument e).bind fun _ => .pure _
  split
  · exact (site.failsLocally_customParam e).bind fun _ => .pure _
  split
  · exact (site.failsLocally_textContent e).bind fun _ => .pure _
  · exact .error rfl

theorem failsLocally_takeItem (kind : ChangeKind) (change : Change) (item : Item Element) :
    FailsLocally (takeItem site kind change item) := by
  cases item with
  | text s =>
      unfold takeItem
      dsimp only
      split
      · exact site.failsLocally_violation _
      · exact .ok _
  | element e => exact failsLocally_takeElement site kind change e

theorem failsLocally_ofCall (kind : ChangeKind) (e : Element) :
    FailsLocally (ofCall site kind e) := by
  refine (site.failsLocally_call e).bind fun called => ?_
  split
  · exact .pure _
  · exact (kind.params.failsLocally_check _ _ _).bind fun _ => .pure _
  · split
    · rename_i param value _ _
      refine FailsFor.bind ?_ fun _ => .pure _
      unfold Param.convert
      split
      · exact .ok _
      · exact .error rfl
    · exact site.failsLocally_violation _

theorem failsLocally_ofKind (kind : ChangeKind) (e : Element) :
    FailsLocally (ofKind host site kind e) := by
  refine (failsLocally_ofCall site kind e).bind fun called => ?_
  refine (FailsFor.foldlM (failsLocally_takeItem site kind) _ _).bind fun change => ?_
  split
  · exact (kind.params.failsLocally_checkRequired _ _ _).bind fun _ => .pure _
  · exact .pure _

variable {host}

theorem failsLocally_ofElement (finishes : host.catalog.FinishesLocally) (changeset : String)
    (e : Element) : FailsLocally (ofElement host site changeset e) := by
  unfold ofElement
  dsimp only
  split
  · exact .error rfl
  · rename_i kind found
    refine (failsLocally_ofKind host _ kind e).bind fun change => ?_
    split
    · exact .pure _
    · rename_i finish isFinish
      exact (finishes _ kind finish found isFinish changeset change).bind fun _ => .pure _

end Change

/-! ## Preconditions -/

theorem Check.failsLocally_ofElement (e : Element) : FailsLocally (ofElement host site e) := by
  unfold ofElement
  dsimp only
  split
  · exact .error rfl
  rename_i kind _
  refine (site.failsLocally_attributes _ _ e).bind fun given => ?_
  refine FailsFor.bind (.foldlM (fun check item => ?_) _ _) fun check => ?_
  · cases item with
    | text s =>
        unfold takeItem
        dsimp only
        split
        · exact .ok _
        · exact .error rfl
    | element child =>
        unfold takeItem
        dsimp only
        split
        · exact (site.failsLocally_customParam child).bind fun _ => .pure _
        · exact .error rfl
  · split
    · refine FailsFor.bind ?_ fun _ => .pure _
      refine (kind.params.failsLocally_checkRequired _ _ _).bind fun _ => ?_
      split
      · exact .error rfl
      · exact .pure _
    · exact .pure _

namespace Precondition

mutual
theorem failsLocally_ofElement : ∀ e, FailsLocally (ofElement host site e)
  | ⟨name, arguments, block, line⟩ => by
      unfold ofElement
      split
      · exact FailsFor.map_iff.mpr (Check.failsLocally_ofElement host site _)
      split
      · exact .error rfl
      split
      · exact .ok _
      · exact FailsFor.map_iff.mpr (failsLocally_ofItems name line _)

theorem failsLocally_ofItems (name : String) (line : Nat) :
    ∀ items, FailsLocally (ofItems host site name line items)
  | [] => .ok []
  | .text _ :: _ => .error rfl
  | .element e :: items =>
      (failsLocally_ofElement e).bind fun _ =>
        (failsLocally_ofItems name line items).bind fun _ => .pure _
end

end Precondition

/-- Policies are refused only for values that are none of the alternatives. -/
theorem PreconditionPolicy.failsForValue_ofAttributes (given : Attributes) :
    FailsFor (·.isInvalidValue) (ofAttributes given) := by
  have choose {α : Type} (key : String) (alternatives : List (String × α))
      {default : Except BuildError α} (otherwise : FailsFor (·.isInvalidValue) default) :
      FailsFor (·.isInvalidValue) (choice given key alternatives default) := by
    unfold choice
    split
    · exact failsForValue_oneOf key _ alternatives
    · exact otherwise
  refine (choose _ _ (.ok _)).bind fun onFail => ?_
  refine (choose _ _ (.ok _)).bind fun onError => ?_
  exact (choose _ _ (choose _ _ (.ok _))).bind fun onOutput => .pure _

theorem PreconditionContainer.failsLocally_ofElement (e : Element) :
    FailsLocally (ofElement host site e) := by
  refine (site.failsLocally_attributes _ _ e).bind fun given => ?_
  refine ((PreconditionPolicy.failsForValue_ofAttributes given).mono fun _ =>
    BuildError.isLocal_of_isInvalidValue).bind fun policy => ?_
  exact (Precondition.failsLocally_ofItems host site _ _ _).bind fun nested => .pure _

/-! ## Edits of SQL -/

namespace SqlEdit

theorem failsLocally_addedText (e : Element) : FailsLocally (addedText site e) :=
  (site.failsLocally_attributes _ _ e).bind fun _ =>
    (textSchema.failsLocally_checkRequired _ _ _).bind fun _ => .pure _

theorem failsLocally_replacement (e : Element) : FailsLocally (replacement site e) :=
  (site.failsLocally_attributes _ _ e).bind fun _ =>
    (replacementSchema.failsLocally_checkRequired _ _ _).bind fun _ => .pure _

theorem failsLocally_ofElement (isPattern : String → Bool) (e : Element) :
    FailsLocally (ofElement isPattern site e) := by
  unfold ofElement
  split
  · exact FailsFor.map_iff.mpr (failsLocally_addedText site e)
  split
  · exact FailsFor.map_iff.mpr (failsLocally_addedText site e)
  split
  · exact (failsLocally_replacement site e).bind fun _ => .pure _
  split
  · refine (failsLocally_replacement site e).bind fun _ => ?_
    dsimp only
    split
    · exact .pure _
    · exact .error rfl
  · exact .error rfl

theorem failsLocally_ofItems (isPattern : String → Bool) (items : List (Item Element)) :
    FailsLocally (ofItems isPattern site items) := by
  induction items with
  | nil => exact .ok []
  | cons item items ih =>
      cases item with
      | text s => exact site.failsLocally_violation _
      | element e =>
          exact (failsLocally_ofElement site isPattern e).bind fun _ => ih.bind fun _ => .pure _

end SqlEdit

theorem ScopedSqlEdit.failsLocally_ofElement (isPattern : String → Bool) (e : Element) :
    FailsLocally (ofElement isPattern site e) :=
  (site.failsLocally_attributes _ _ e).bind fun _ =>
    (SqlEdit.failsLocally_ofItems site isPattern _).bind fun _ => .pure _

/-! ## Changesets -/

namespace Changeset

theorem failsLocally_ofAttributes (log : Changelog) (given : Attributes) :
    FailsLocally (ofAttributes log given) := by
  unfold ofAttributes
  split <;> split
  · exact (failsLocally_oneOf _ _ _).bind fun _ => (failsLocally_oneOf _ _ _).bind fun _ => .pure _
  · exact .bind (.ok _) fun _ => (failsLocally_oneOf _ _ _).bind fun _ => .pure _
  · exact (failsLocally_oneOf _ _ _).bind fun _ => .bind (.ok _) fun _ => .pure _
  · exact .bind (.ok _) fun _ => .bind (.ok _) fun _ => .pure _

theorem failsLocally_ofArguments (log : Changelog) (arguments : List (String × Value)) :
    FailsLocally (ofArguments log arguments) := by
  unfold ofArguments
  split
  · exact .error rfl
  refine (schema.failsLocally_check _ _ _).bind fun given => ?_
  exact (schema.failsLocally_checkRequired _ _ _).bind fun _ => failsLocally_ofAttributes log given

variable {host}

theorem failsLocally_takeRollbackItems (finishes : host.catalog.FinishesLocally)
    (changeset : Changeset) (items : List (Item Element)) :
    FailsLocally (takeRollbackItems host site changeset items) := by
  induction items generalizing changeset with
  | nil => exact .ok _
  | cons item items ih =>
      cases item with
      | text s =>
          cases items with
          | nil => exact .ok _
          | cons => exact site.failsLocally_violation _
      | element e =>
          unfold takeRollbackItems
          split
          · exact site.failsLocally_violation _
          refine FailsFor.bind ?_ fun ⟨undone, _⟩ => (ih undone).bind fun _ => .pure _
          exact (Change.failsLocally_ofElement site finishes _ e).bind fun _ => .pure _

end Changeset

end Migration
