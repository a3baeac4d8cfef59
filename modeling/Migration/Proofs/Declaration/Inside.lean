import Migration.Proofs.Declaration.Causes

/-!
# Preconditions inside of a changeset

Inside of a changeset, the complaint that an element has an argument which it does not take, or lacks
one that it needs, names the changeset.  Apart from that a `preConditions` element succeeds and fails
there as it does elsewhere.
-/

namespace Migration

namespace BuildError

/-- Whether a cause is that an element has an argument that it does not take, or lacks one that it
needs. -/
def isAboutArguments : BuildError → Bool
  | .invalidAttribute _ _ _ => true
  | .missingAttribute _ _ _ => true
  | .violation (.bareValue _) _ => true
  | _ => false

/-- A cause as it is inside of a changeset. -/
def inside (id : String) : BuildError → BuildError
  | .invalidAttribute element key _ => .invalidAttribute element key (some id)
  | .missingAttribute element key _ => .missingAttribute element key (some id)
  | .violation (.bareValue element) _ => .violation (.bareValue element) (some id)
  | error => error

variable {error : BuildError}

theorem inside_of_not_isAboutArguments (others : error.isAboutArguments = false) (id : String) :
    error.inside id = error := by
  unfold inside
  split <;> first | rfl | cases others

theorem not_isAboutArguments_of_isInvalidValue (invalid : error.isInvalidValue = true) :
    error.isAboutArguments = false := by
  unfold isInvalidValue at invalid
  split at invalid <;> first | rfl | cases invalid

theorem not_isAboutArguments_of_isUnread (unread : error.isUnread = true) :
    error.isAboutArguments = false := by
  unfold isUnread at unread
  split at unread <;> first | rfl | cases unread

end BuildError

/-- A place as it is inside of a changeset. -/
def Site.inside (site : Site) (id : String) : Site :=
  { site with changeset := some id }

/-! ## Steps inside of a changeset -/

/-- Whether a step is what another one is inside of a changeset. -/
def IsInside {α : Type} (id : String) (outer inner : Except BuildError α) : Prop :=
  inner = outer.mapError (·.inside id)

namespace IsInside

variable {α β : Type} {id : String} {outer inner : Except BuildError α}

theorem ok (value : α) : IsInside id (.ok value) (.ok value) :=
  rfl

theorem error (cause : BuildError) :
    IsInside id (.error cause : Except BuildError α) (.error (cause.inside id)) :=
  rfl

/-- A step that does not complain about arguments stays the same. -/
theorem same (others : FailsFor (fun cause => cause.isAboutArguments = false) outer) :
    IsInside id outer outer := by
  cases outer with
  | ok value => rfl
  | error cause =>
      exact congrArg Except.error
        (BuildError.inside_of_not_isAboutArguments (others cause rfl) id).symm

theorem bind {next other : α → Except BuildError β} (front : IsInside id outer inner)
    (rest : ∀ value, IsInside id (next value) (other value)) :
    IsInside id (outer >>= next) (inner >>= other) := by
  obtain rfl := front
  cases outer with
  | ok value => exact rest value
  | error cause => rfl

theorem map {f : α → β} (front : IsInside id outer inner) :
    IsInside id (outer.map f) (inner.map f) := by
  obtain rfl := front
  cases outer <;> rfl

theorem foldlM {step other : α → β → Except BuildError α}
    (each : ∀ before item, IsInside id (step before item) (other before item)) (items : List β)
    (start : α) : IsInside id (items.foldlM step start) (items.foldlM other start) := by
  induction items generalizing start with
  | nil => rfl
  | cons item items ih =>
      rw [List.foldlM_cons, List.foldlM_cons]
      exact (each start item).bind ih

end IsInside

section

variable (host : Host) (site : Site) (id : String)

theorem Schema.inside_addArguments (schema : Schema) (element : String) (changeset : Option String)
    (given : Attributes) (arguments : List (String × Value)) :
    IsInside id (schema.addArguments element changeset given arguments)
      (schema.addArguments element (some id) given arguments) := by
  induction arguments generalizing given with
  | nil => exact .ok given
  | cons argument arguments ih =>
      rw [addArguments, addArguments, convert, convert]
      cases schema.find? argument.1 with
      | none => exact .error _
      | some param =>
          dsimp only
          cases converted : param.convert argument.2 with
          | ok value => exact ih _
          | error cause =>
              -- The complaint about the value names the parameter only.
              refine .same (.error ?_)
              unfold Param.convert at converted
              split at converted <;> cases converted
              rfl

theorem Schema.inside_checkRequired (schema : Schema) (element : String) (changeset : Option String)
    (given : Attributes) : IsInside id (schema.checkRequired element changeset given)
      (schema.checkRequired element (some id) given) := by
  unfold checkRequired
  split
  · exact .error _
  · exact .ok _

namespace Site

mutual
theorem resolve_inside : ∀ literal, (site.inside id).resolve literal = site.resolve literal
  | .str _ | .int _ | .float _ | .bool _ | .null | .reference _ => rfl
  | .list items => by rw [resolve, resolve, resolveAll_inside items]

theorem resolveAll_inside : ∀ literals, (site.inside id).resolveAll literals = site.resolveAll literals
  | [] => rfl
  | literal :: literals => by
      rw [resolveAll, resolveAll, resolve_inside literal, resolveAll_inside literals]
end

theorem resolveNamed_inside (e : Element) (before : List String) (arguments : List Argument) :
    (site.inside id).resolveNamed e before arguments = site.resolveNamed e before arguments := by
  induction arguments generalizing before with
  | nil => rfl
  | cons argument arguments ih =>
      obtain ⟨_ | key, literal⟩ := argument
      · exact ih before
      · simp only [resolveNamed, resolve_inside, ih]

/-- An element is called in the same way inside of a changeset. -/
theorem call_inside (e : Element) : (site.inside id).call e = site.call e := by
  simp only [call, resolveNamed_inside, resolveAll_inside]

theorem inside_call (e : Element) : IsInside id (site.call e) ((site.inside id).call e) := by
  rw [call_inside]
  exact .same ((site.failsUnread_call e).mono fun _ =>
    BuildError.not_isAboutArguments_of_isUnread)

theorem inside_attributes (schema : Schema) (e : Element) :
    IsInside id (site.attributes schema none e) ((site.inside id).attributes schema none e) := by
  refine (site.inside_call id e).bind fun called => ?_
  cases called with
  | empty => exact .ok _
  | positional values =>
      match values with
      | [] | [_] | _ :: _ :: _ => exact .error _
  | named arguments => exact schema.inside_addArguments id _ _ _ _

theorem inside_demand (e : Element) (key : String) (text : Option String) :
    IsInside id (site.demand e key text) ((site.inside id).demand e key text) := by
  unfold demand
  split
  · exact .ok _
  · exact .error _

theorem inside_onlyNamed (e : Element) (allowed : List String) (arguments : List (String × Value)) :
    IsInside id (site.onlyNamed e allowed arguments)
      ((site.inside id).onlyNamed e allowed arguments) := by
  unfold onlyNamed
  split
  · exact .error _
  · exact .ok _

theorem inside_customParam (e : Element) :
    IsInside id (site.customParam e) ((site.inside id).customParam e) := by
  have rest (given : String → Option String) : IsInside id
      (do
        let name ← site.demand e "name" (given "name")
        let value ← site.demand e "value" (given "value")
        return (name, value))
      (do
        let name ← (site.inside id).demand e "name" (given "name")
        let value ← (site.inside id).demand e "value" (given "value")
        return (name, value)) :=
    (site.inside_demand id e _ _).bind fun _ => (site.inside_demand id e _ _).bind fun _ => .ok _
  refine (site.inside_call id e).bind fun called => ?_
  cases called with
  | empty => exact .bind (.ok _) rest
  | positional values =>
      match values with
      | [_, _] | [] | [_] | _ :: _ :: _ :: _ => exact .bind (.ok _) rest
  | named arguments => exact (site.inside_onlyNamed id e _ _).bind rest

end Site

theorem Check.inside_ofElement (e : Element) :
    IsInside id (ofElement host site e) (ofElement host (site.inside id) e) := by
  unfold ofElement
  dsimp only
  split
  · exact .error _
  rename_i kind _
  refine (site.inside_attributes id _ e).bind fun given => ?_
  refine IsInside.bind (.foldlM (fun check item => ?_) _ _) fun check => ?_
  · cases item with
    | text s =>
        unfold takeItem
        dsimp only
        split
        · exact .ok _
        · exact .error _
    | element child =>
        unfold takeItem
        dsimp only
        split
        · exact (site.inside_customParam id child).bind fun _ => .ok _
        · exact .error _
  · split
    · refine IsInside.bind ?_ fun _ => .ok _
      refine (kind.params.inside_checkRequired id _ _ _).bind fun _ => ?_
      split
      · exact .error _
      · exact .ok _
    · exact .ok _

namespace Precondition

mutual
theorem inside_ofElement : ∀ e : Element,
    IsInside id (ofElement host site e) (ofElement host (site.inside id) e)
  | ⟨name, arguments, block, line⟩ => by
      unfold ofElement
      split
      · exact (Check.inside_ofElement host site id _).map
      split
      · exact .error _
      split
      · exact .ok _
      · exact (inside_ofItems name line _).map

theorem inside_ofItems (name : String) (line : Nat) : ∀ items : List (Item Element),
    IsInside id (ofItems host site name line items) (ofItems host (site.inside id) name line items)
  | [] => .ok []
  | .text _ :: _ => .error _
  | .element e :: items =>
      (inside_ofElement e).bind fun _ => (inside_ofItems name line items).bind fun _ => .ok _
end

end Precondition

/-- Policies are refused in the same way inside of a changeset. -/
theorem PreconditionPolicy.failsUnnamed_ofAttributes (given : Attributes) :
    FailsFor (fun cause => cause.isAboutArguments = false) (ofAttributes given) :=
  (failsForValue_ofAttributes given).mono fun _ =>
    BuildError.not_isAboutArguments_of_isInvalidValue

/-- What the failure of a `preConditions` element is inside of a changeset. -/
theorem PreconditionContainer.inside_ofElement (e : Element) :
    IsInside id (ofElement host site e) (ofElement host (site.inside id) e) := by
  refine (site.inside_attributes id _ e).bind fun given => ?_
  refine IsInside.bind (.same ?_) fun policy => ?_
  · exact PreconditionPolicy.failsUnnamed_ofAttributes given
  · exact (Precondition.inside_ofItems host site id _ _ _).bind fun _ => .ok _

end

end Migration
