import Mathlib.Data.List.Infix
import Migration.Proofs.Declaration.Inside

/-!
# Failures that name their changeset

`failures_carry_changeset_iff` says for which `preConditions` elements every failure inside of a
changeset carries the changeset: those whose first fault is an argument that an element does not take
or lacks.  The faults of other kinds are relations over the element, its block and the blocks below,
one case for each way to come to them.
-/

namespace Migration

namespace BuildError

/-- The changeset that a cause names. -/
def changeset? : BuildError → Option String
  | .unknownChange id _ => some id
  | .invalidAttribute _ _ changeset => changeset
  | .missingAttribute _ _ changeset => changeset
  | .violation _ changeset => changeset
  | .rollbackMissingId id => some id
  | _ => none

/-- Whether a cause carries the name of a changeset, as the one that it names or in its message. -/
def Carries (id : String) (error : BuildError) : Prop :=
  error.changeset? = some id ∨ id.toList <:+: error.message.toList

instance (id : String) (error : BuildError) : Decidable (error.Carries id) :=
  inferInstanceAs (Decidable (_ ∨ _))

variable {error : BuildError}

theorem changeset?_inside (isAbout : error.isAboutArguments = true) (id : String) :
    (error.inside id).changeset? = some id := by
  unfold isAboutArguments at isAbout
  split at isAbout <;> first | rfl | cases isAbout

/-- No cause carries every name. -/
theorem exists_not_carries (error : BuildError) : ∃ id, ¬ error.Carries id := by
  -- A name that is longer than the message and than the name that the cause gives.
  refine ⟨error.changeset?.getD "" ++ error.message ++ "x", ?_⟩
  have one : "x".length = 1 := by decide
  rintro (named | inMessage)
  · have same := congrArg (fun changeset => (changeset.getD "").length) named
    simp only [Option.getD_some, String.length_append] at same
    omega
  · have le := inMessage.length_le
    simp only [String.length_toList, String.length_append] at le
    omega

end BuildError

/-! ## Faults of other kinds -/

/-- Whether the first of some arguments that a schema refuses is one that it declares, with a value of
another type. -/
inductive Schema.Misfits (schema : Schema) : List (String × Value) → Prop
  | here {argument : String × Value} {param : Param}
      (declared : schema.find? argument.1 = some param)
      (misfit : param.type.convert? argument.2 = none) (arguments : List (String × Value)) :
      Misfits schema (argument :: arguments)
  | later {argument : String × Value} {param : Param} {value : Value}
      (declared : schema.find? argument.1 = some param)
      (fits : param.type.convert? argument.2 = some value) {arguments : List (String × Value)}
      (rest : Misfits schema arguments) : Misfits schema (argument :: arguments)

/-- Whether the arguments of an element cannot be read, or the first one that a schema refuses has a
value of another type. -/
inductive Site.Misreads (site : Site) (schema : Schema) (e : Element) : Prop
  | call {cause : BuildError} (unread : site.call e = .error cause)
  | value {arguments : List (String × Value)} (called : site.call e = .ok (.named arguments))
      (misfits : schema.Misfits arguments)

namespace Check

/-- Whether an item has no place in the block of a check, or is a parameter whose arguments cannot be
read. -/
inductive Misplaces (site : Site) (kind : PreconditionKind) : Item Element → Prop
  | text (s : String) (noSql : kind.takesSql = false) : Misplaces site kind (.text s)
  | element (e : Element) (noParam : ¬ (kind.takesCustomParams ∧ e.name = "param")) :
      Misplaces site kind (.element e)
  | param (e : Element) (isParam : kind.takesCustomParams ∧ e.name = "param") {cause : BuildError}
      (unread : site.call e = .error cause) : Misplaces site kind (.element e)

/-- Whether the first item that the block of a check cannot take is misplaced. -/
inductive MisplacesFirst (site : Site) (kind : PreconditionKind) : List (Item Element) → Prop
  | here {item : Item Element} (misplaces : Misplaces site kind item) (items : List (Item Element)) :
      MisplacesFirst site kind (item :: items)
  | later {item : Item Element} {before after : Check}
      (taken : takeItem site kind before item = .ok after) {items : List (Item Element)}
      (rest : MisplacesFirst site kind items) : MisplacesFirst site kind (item :: items)

/-- Whether the first fault of an element that should be a check is that its kind is unknown, that its
arguments are misread or that something in its block is misplaced. -/
inductive FailsUnnamed (host : Host) (site : Site) (e : Element) : Prop
  | kind (unknown : host.catalog.preconditions.get? e.name = none)
  | arguments {kind : PreconditionKind} (found : host.catalog.preconditions.get? e.name = some kind)
      (misreads : site.Misreads kind.params e)
  | block {kind : PreconditionKind} {given : Attributes}
      (found : host.catalog.preconditions.get? e.name = some kind)
      (called : site.attributes kind.params none e = .ok given)
      (misplaces : MisplacesFirst site kind e.items)

end Check

namespace Precondition

mutual
/-- Whether the first fault at or below an element is one of a check that fails unnamed, or a text
where checks should stand. -/
inductive FailsUnnamed (host : Host) (site : Site) : Element → Prop
  | check {e : Element} (single : combination? e.name = none)
      (fails : Check.FailsUnnamed host site e) : FailsUnnamed host site e
  | block {e : Element} {combine : List Precondition → Precondition}
      (combined : combination? e.name = some combine) (bare : e.arguments = [])
      (fails : ItemsFailUnnamed host site e.items) : FailsUnnamed host site e

inductive ItemsFailUnnamed (host : Host) (site : Site) : List (Item Element) → Prop
  | text (s : String) (items : List (Item Element)) : ItemsFailUnnamed host site (.text s :: items)
  | here {e : Element} (fails : FailsUnnamed host site e) (items : List (Item Element)) :
      ItemsFailUnnamed host site (.element e :: items)
  | later {e : Element} {read : Precondition} (isRead : ofElement host site e = .ok read)
      {items : List (Item Element)} (rest : ItemsFailUnnamed host site items) :
      ItemsFailUnnamed host site (.element e :: items)
end

end Precondition

/-- Whether the first fault of a `preConditions` element is that its arguments are misread or name no
alternative, or one in its block that fails unnamed. -/
inductive PreconditionContainer.FailsUnnamed (host : Host) (site : Site) (e : Element) : Prop
  | arguments (misreads : site.Misreads PreconditionPolicy.schema e)
  | policy {given : Attributes} {cause : BuildError}
      (called : site.attributes PreconditionPolicy.schema none e = .ok given)
      (refused : PreconditionPolicy.ofAttributes given = .error cause)
  | block {given : Attributes} {policy : PreconditionPolicy}
      (called : site.attributes PreconditionPolicy.schema none e = .ok given)
      (chosen : PreconditionPolicy.ofAttributes given = .ok policy)
      (fails : Precondition.ItemsFailUnnamed host site e.items)

/-! ## Failures for other causes -/

/-- Whether a step fails, and not because of an argument that an element does not take or lacks. -/
def FailsOtherwise {α : Type} (step : Except BuildError α) : Prop :=
  ∃ cause, step = .error cause ∧ cause.isAboutArguments = false

namespace FailsOtherwise

variable {α β : Type}

@[simp]
theorem ok_iff {value : α} : FailsOtherwise (.ok value) ↔ False := by
  simp [FailsOtherwise]

@[simp]
theorem pure_iff {value : α} : FailsOtherwise (pure value) ↔ False :=
  ok_iff

@[simp]
theorem error_iff {cause : BuildError} :
    FailsOtherwise (.error cause : Except BuildError α) ↔ cause.isAboutArguments = false := by
  simp [FailsOtherwise]

theorem bind_iff {first : Except BuildError α} {next : α → Except BuildError β} :
    FailsOtherwise (first >>= next) ↔
      FailsOtherwise first ∨ ∃ value, first = .ok value ∧ FailsOtherwise (next value) := by
  cases first with
  | ok value => simp [bind, Except.bind]
  | error cause => simp [bind, Except.bind, FailsOtherwise]

theorem map_iff {first : Except BuildError α} {f : α → β} :
    FailsOtherwise (first.map f) ↔ FailsOtherwise first := by
  cases first <;> simp [Except.map]

/-- A step that never complains about arguments fails otherwise if it fails. -/
theorem of_failsFor {step : Except BuildError α}
    (others : FailsFor (fun cause => cause.isAboutArguments = false) step) :
    FailsOtherwise step ↔ ∃ cause, step = .error cause :=
  ⟨fun ⟨cause, failed, _⟩ => ⟨cause, failed⟩, fun ⟨cause, failed⟩ => ⟨cause, failed, others _ failed⟩⟩

end FailsOtherwise

section

variable {host : Host} {site : Site}

theorem Schema.failsOtherwise_addArguments {schema : Schema} {element : String}
    {changeset : Option String} {given : Attributes} {arguments : List (String × Value)} :
    FailsOtherwise (schema.addArguments element changeset given arguments) ↔
      schema.Misfits arguments := by
  induction arguments generalizing given with
  | nil =>
      rw [addArguments, FailsOtherwise.ok_iff, false_iff]
      intro misfits
      cases misfits
  | cons argument arguments ih =>
      rw [addArguments, convert]
      cases declared : schema.find? argument.1 with
      | none =>
          constructor
          · intro fails
            cases FailsOtherwise.error_iff.mp fails
          · intro misfits
            cases misfits with
            | here found | later found => cases declared.symm.trans found
      | some param =>
          dsimp only
          rw [Param.convert]
          cases fits : param.type.convert? argument.2 with
          | none =>
              exact ⟨fun _ => .here declared fits _, fun _ => FailsOtherwise.error_iff.mpr rfl⟩
          | some value =>
              refine ih.trans ⟨.later declared fits, fun misfits => ?_⟩
              cases misfits with
              | here found misfit =>
                  cases declared.symm.trans found
                  cases fits.symm.trans misfit
              | later _ _ rest => exact rest

theorem Schema.not_failsOtherwise_checkRequired {schema : Schema} {element : String}
    {changeset : Option String} {given : Attributes} :
    ¬ FailsOtherwise (schema.checkRequired element changeset given) := by
  unfold checkRequired
  split
  · simp [BuildError.isAboutArguments]
  · simp

namespace Site

theorem failsOtherwise_call {e : Element} :
    FailsOtherwise (site.call e) ↔ ∃ cause, site.call e = .error cause :=
  FailsOtherwise.of_failsFor ((site.failsUnread_call e).mono fun _ =>
    BuildError.not_isAboutArguments_of_isUnread)

theorem failsOtherwise_attributes {schema : Schema} {e : Element} :
    FailsOtherwise (site.attributes schema none e) ↔ site.Misreads schema e := by
  rw [attributes, FailsOtherwise.bind_iff, failsOtherwise_call]
  constructor
  · rintro (⟨cause, unread⟩ | ⟨called, isCall, fails⟩)
    · exact .call unread
    · cases called with
      | empty => cases FailsOtherwise.ok_iff.mp fails
      | positional values =>
          match values with
          | [] | [_] | _ :: _ :: _ => cases FailsOtherwise.error_iff.mp fails
      | named arguments => exact .value isCall (Schema.failsOtherwise_addArguments.mp fails)
  · rintro (unread | ⟨called, misfits⟩)
    · exact .inl ⟨_, unread⟩
    · exact .inr ⟨_, called, Schema.failsOtherwise_addArguments.mpr misfits⟩

theorem not_failsOtherwise_demand {e : Element} {key : String} {text : Option String} :
    ¬ FailsOtherwise (site.demand e key text) := by
  unfold demand
  split
  · simp
  · simp [BuildError.isAboutArguments]

theorem not_failsOtherwise_onlyNamed {e : Element} {allowed : List String}
    {arguments : List (String × Value)} :
    ¬ FailsOtherwise (site.onlyNamed e allowed arguments) := by
  unfold onlyNamed
  split
  · simp [BuildError.isAboutArguments]
  · simp

theorem failsOtherwise_customParam {e : Element} :
    FailsOtherwise (site.customParam e) ↔ ∃ cause, site.call e = .error cause := by
  have rest {given : Except BuildError (String → Option String)} (never : ¬ FailsOtherwise given) :
      ¬ FailsOtherwise (given >>= fun given => do
        let name ← site.demand e "name" (given "name")
        let value ← site.demand e "value" (given "value")
        return (name, value)) := by
    intro fails
    rcases FailsOtherwise.bind_iff.mp fails with fails | ⟨given, -, fails⟩
    · exact never fails
    rcases FailsOtherwise.bind_iff.mp fails with fails | ⟨name, -, fails⟩
    · exact not_failsOtherwise_demand fails
    rcases FailsOtherwise.bind_iff.mp fails with fails | ⟨value, -, fails⟩
    · exact not_failsOtherwise_demand fails
    · exact FailsOtherwise.pure_iff.mp fails
  rw [customParam, FailsOtherwise.bind_iff, failsOtherwise_call, or_iff_left]
  rintro ⟨called, -, fails⟩
  cases called with
  | empty => exact rest (FailsOtherwise.ok_iff.mp) fails
  | positional values =>
      match values with
      | [_, _] | [] | [_] | _ :: _ :: _ :: _ => exact rest (FailsOtherwise.ok_iff.mp) fails
  | named arguments => exact rest not_failsOtherwise_onlyNamed fails

end Site

namespace Check

variable {kind : PreconditionKind}

theorem failsOtherwise_takeItem {check : Check} {item : Item Element} :
    FailsOtherwise (takeItem site kind check item) ↔ Misplaces site kind item := by
  cases item with
  | text s =>
      rw [takeItem]
      cases takesSql : kind.takesSql with
      | false => exact ⟨fun _ => .text s takesSql, fun _ => FailsOtherwise.error_iff.mpr rfl⟩
      | true =>
          constructor
          · intro fails
            cases FailsOtherwise.ok_iff.mp fails
          · intro misplaces
            cases misplaces with
            | text _ noSql => cases takesSql.symm.trans noSql
  | element e =>
      rw [takeItem]
      by_cases isParam : kind.takesCustomParams ∧ e.name = "param"
      · rw [if_pos isParam, FailsOtherwise.bind_iff, Site.failsOtherwise_customParam, or_iff_left]
        · refine ⟨fun ⟨_, unread⟩ => .param e isParam unread, fun misplaces => ?_⟩
          cases misplaces with
          | element _ noParam => exact absurd isParam noParam
          | param _ _ unread => exact ⟨_, unread⟩
        · rintro ⟨param, -, fails⟩
          cases FailsOtherwise.ok_iff.mp fails
      · rw [if_neg isParam]
        exact ⟨fun _ => .element e isParam, fun _ => FailsOtherwise.error_iff.mpr rfl⟩

/-- An item that a check takes is taken by each check of the same kind. -/
theorem exists_takeItem {before after : Check} {item : Item Element}
    (taken : takeItem site kind before item = .ok after) (check : Check) :
    ∃ next, takeItem site kind check item = .ok next := by
  cases item with
  | text s =>
      unfold takeItem at taken ⊢
      dsimp only at taken ⊢
      split at taken
      · rename_i takesSql
        exact ⟨_, if_pos takesSql⟩
      · cases taken
  | element e =>
      unfold takeItem at taken ⊢
      dsimp only at taken ⊢
      split at taken
      · rename_i isParam
        obtain ⟨param, isRead, -⟩ := bind_eq_ok.mp taken
        rw [if_pos isParam]
        exact ⟨_, bind_eq_ok.mpr ⟨param, isRead, rfl⟩⟩
      · cases taken

/-- Whether an item is misplaced does not depend on what the check has taken before. -/
theorem failsOtherwise_takeItems {items : List (Item Element)} {check : Check} :
    FailsOtherwise (items.foldlM (takeItem site kind) check) ↔ MisplacesFirst site kind items := by
  induction items generalizing check with
  | nil =>
      rw [List.foldlM_nil, FailsOtherwise.pure_iff, false_iff]
      intro misplaces
      cases misplaces
  | cons item items ih =>
      rw [List.foldlM_cons, FailsOtherwise.bind_iff, failsOtherwise_takeItem]
      constructor
      · rintro (misplaces | ⟨next, taken, fails⟩)
        · exact .here misplaces items
        · exact .later taken (ih.mp fails)
      · rintro (misplaces | ⟨taken, rest⟩)
        · exact .inl misplaces
        · obtain ⟨next, isNext⟩ := exists_takeItem taken check
          exact .inr ⟨next, isNext, ih.mpr rest⟩

theorem not_failsOtherwise_checkRequired {check : Check} :
    ¬ FailsOtherwise (checkRequired site kind check) := by
  rw [checkRequired, FailsOtherwise.bind_iff]
  rintro (lacks | ⟨_, -, fails⟩)
  · exact Schema.not_failsOtherwise_checkRequired lacks
  · split at fails
    · cases FailsOtherwise.error_iff.mp fails
    · cases FailsOtherwise.ok_iff.mp fails

theorem failsOtherwise_ofElement {e : Element} :
    FailsOtherwise (ofElement host site e) ↔ FailsUnnamed host site e := by
  unfold ofElement
  cases found : host.catalog.preconditions.get? e.name with
  | none => exact ⟨fun _ => .kind found, fun _ => FailsOtherwise.error_iff.mpr rfl⟩
  | some kind =>
      dsimp only
      rw [FailsOtherwise.bind_iff, Site.failsOtherwise_attributes]
      constructor
      · rintro (misreads | ⟨given, called, fails⟩)
        · exact .arguments found misreads
        rcases FailsOtherwise.bind_iff.mp fails with misplaces | ⟨check, -, fails⟩
        · exact .block found called (failsOtherwise_takeItems.mp misplaces)
        · split at fails
          · rcases FailsOtherwise.bind_iff.mp fails with lacks | ⟨_, -, fails⟩
            · exact absurd lacks not_failsOtherwise_checkRequired
            · cases FailsOtherwise.ok_iff.mp fails
          · cases FailsOtherwise.ok_iff.mp fails
      · rintro (unknown | ⟨same, misreads⟩ | ⟨same, called, misplaces⟩)
        · cases found.symm.trans unknown
        · cases found.symm.trans same
          exact .inl misreads
        · cases found.symm.trans same
          exact .inr ⟨_, called, FailsOtherwise.bind_iff.mpr
            (.inl (failsOtherwise_takeItems.mpr misplaces))⟩

end Check

namespace Precondition

theorem failsUnnamed_of_single {e : Element} (single : combination? e.name = none) :
    FailsUnnamed host site e ↔ Check.FailsUnnamed host site e := by
  constructor
  · intro fails
    cases fails with
    | check _ fails => exact fails
    | block combined => cases single.symm.trans combined
  · intro fails
    exact .check single fails

theorem failsUnnamed_of_combined {e : Element} {combine : List Precondition → Precondition}
    (combined : combination? e.name = some combine) :
    FailsUnnamed host site e ↔ e.arguments = [] ∧ ItemsFailUnnamed host site e.items := by
  constructor
  · intro fails
    cases fails with
    | check single => cases combined.symm.trans single
    | block _ bare fails => exact ⟨bare, fails⟩
  · rintro ⟨bare, fails⟩
    exact .block combined bare fails

mutual
theorem failsOtherwise_ofElement : ∀ e : Element,
    FailsOtherwise (ofElement host site e) ↔ FailsUnnamed host site e
  | ⟨name, arguments, block, line⟩ => by
      unfold ofElement
      cases combined : combination? name with
      | none =>
          dsimp only
          rw [FailsOtherwise.map_iff, Check.failsOtherwise_ofElement, failsUnnamed_of_single combined]
      | some combine =>
          rw [failsUnnamed_of_combined combined]
          cases arguments with
          | cons argument arguments =>
              constructor
              · intro fails
                cases FailsOtherwise.error_iff.mp fails
              · rintro ⟨bare, -⟩
                cases bare
          | nil =>
              cases block with
              | none =>
                  constructor
                  · intro fails
                    cases FailsOtherwise.ok_iff.mp fails
                  · rintro ⟨-, fails⟩
                    cases fails
              | some items =>
                  dsimp only
                  rw [FailsOtherwise.map_iff, failsOtherwise_ofItems name line items]
                  exact (and_iff_right rfl).symm

theorem failsOtherwise_ofItems (name : String) (line : Nat) : ∀ items : List (Item Element),
    FailsOtherwise (ofItems host site name line items) ↔ ItemsFailUnnamed host site items
  | [] => by
      rw [ofItems, FailsOtherwise.ok_iff, false_iff]
      intro fails
      cases fails
  | .text s :: items => by
      rw [ofItems, FailsOtherwise.error_iff]
      exact ⟨fun _ => .text s items, fun _ => rfl⟩
  | .element e :: items => by
      rw [ofItems, FailsOtherwise.bind_iff, failsOtherwise_ofElement e]
      constructor
      · rintro (fails | ⟨read, isRead, fails⟩)
        · exact .here fails items
        rcases FailsOtherwise.bind_iff.mp fails with fails | ⟨_, -, fails⟩
        · exact .later isRead ((failsOtherwise_ofItems name line items).mp fails)
        · cases FailsOtherwise.ok_iff.mp fails
      · intro fails
        cases fails with
        | here fails => exact .inl fails
        | later isRead rest =>
            exact .inr ⟨_, isRead, FailsOtherwise.bind_iff.mpr
              (.inl ((failsOtherwise_ofItems name line items).mpr rest))⟩
end

end Precondition

namespace PreconditionContainer

theorem failsOtherwise_ofElement {e : Element} :
    FailsOtherwise (ofElement host site e) ↔ FailsUnnamed host site e := by
  rw [ofElement, FailsOtherwise.bind_iff, Site.failsOtherwise_attributes]
  constructor
  · rintro (misreads | ⟨given, called, fails⟩)
    · exact .arguments misreads
    rcases FailsOtherwise.bind_iff.mp fails with ⟨cause, refused, -⟩ | ⟨policy, chosen, fails⟩
    · exact .policy called refused
    rcases FailsOtherwise.bind_iff.mp fails with fails | ⟨_, -, fails⟩
    · exact .block called chosen ((Precondition.failsOtherwise_ofItems _ _ _).mp fails)
    · cases FailsOtherwise.ok_iff.mp fails
  · rintro (misreads | ⟨called, refused⟩ | ⟨called, chosen, fails⟩)
    · exact .inl misreads
    · refine .inr ⟨_, called, FailsOtherwise.bind_iff.mpr (.inl ⟨_, refused, ?_⟩)⟩
      exact PreconditionPolicy.failsUnnamed_ofAttributes _ _ refused
    · refine .inr ⟨_, called, FailsOtherwise.bind_iff.mpr (.inr ⟨_, chosen, ?_⟩)⟩
      exact FailsOtherwise.bind_iff.mpr
        (.inl ((Precondition.failsOtherwise_ofItems _ _ _).mpr fails))

/-- Every failure of a `preConditions` element in whatever changeset carries the changeset exactly if
the first fault of the element is an argument that an element does not take or lacks. -/
theorem failures_carry_changeset_iff (host : Host) (site : Site) (e : Element) :
    (∀ id cause, ofElement host (site.inside id) e = .error cause → cause.Carries id) ↔
      ¬ FailsUnnamed host site e := by
  rw [← failsOtherwise_ofElement]
  constructor
  · -- Other causes are the same in all changesets, and none carries the names of all of them.
    rintro carried ⟨cause, failed, others⟩
    obtain ⟨id, missing⟩ := cause.exists_not_carries
    have same : ofElement host (site.inside id) e = .error cause := by
      rw [inside_ofElement host site id e, failed]
      exact congrArg Except.error (BuildError.inside_of_not_isAboutArguments others id)
    exact missing (carried id cause same)
  · intro never id cause failed
    rw [inside_ofElement host site id e] at failed
    cases outer : ofElement host site e with
    | ok container =>
        rw [outer] at failed
        cases failed
    | error first =>
        rw [outer] at failed
        cases failed
        cases isAbout : first.isAboutArguments with
        | false => exact absurd ⟨first, outer, isAbout⟩ never
        | true => exact .inl (BuildError.changeset?_inside isAbout id)

/-- A `preConditions` element with one check. -/
def guard (check : Element) : Element :=
  ⟨"preConditions", [], some [.element check], 1⟩

/-- A check of a kind that is not in the catalogue. -/
def unknownCheck : Element :=
  ⟨"tableIsFull", [⟨some "tableName", .str "t"⟩], none, 1⟩

/-- A check below another element, with an argument that it does not take. -/
def overfullCheck : Element :=
  ⟨"or", [], some [.element
    ⟨"tableExists", [⟨some "tableName", .str "t"⟩, ⟨some "bogus", .int 1⟩], none, 2⟩], 1⟩

/-- The argument that the check does not take is the first fault, and the failure names the changeset. -/
theorem failures_of_overfullCheck :
    ¬ FailsUnnamed { store := MemoryStore.toStore {} } { properties := {}, path := "m.qcl" }
        (guard overfullCheck) ∧
      ∃ cause, ofElement { store := MemoryStore.toStore {} }
          (Site.inside { properties := {}, path := "m.qcl" } "c7") (guard overfullCheck) =
            .error cause ∧ cause.Carries "c7" := by
  have first : ¬ FailsUnnamed { store := MemoryStore.toStore {} }
      { properties := {}, path := "m.qcl" } (guard overfullCheck) := by
    rw [← failsOtherwise_ofElement]
    rintro ⟨cause, failed, others⟩
    have evaluated : ofElement { store := MemoryStore.toStore {} }
        { properties := {}, path := "m.qcl" } (guard overfullCheck) =
          .error (.invalidAttribute "tableExists" "bogus" none) := rfl
    cases evaluated.symm.trans failed
    cases others
  exact ⟨first, _, rfl, (failures_carry_changeset_iff _ _ _).mpr first _ _ rfl⟩

/-- Not every failure inside of a changeset carries the changeset: that of a check of an unknown kind
does not. -/
theorem not_failures_carry_changeset :
    ¬ ∀ (host : Host) (site : Site) (id : String) (e : Element) (cause : BuildError),
      ofElement host (site.inside id) e = .error cause → cause.Carries id := by
  intro claimed
  have carried := claimed { store := MemoryStore.toStore {} } { properties := {}, path := "m.qcl" }
    "c7" (guard unknownCheck) (.unknownPrecondition "tableIsFull") rfl
  exact absurd carried (by decide)

end PreconditionContainer

end

end Migration
