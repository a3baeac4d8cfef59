import Migration.Proofs.Declaration.Agreement

/-!
# Changesets with reordered arguments

A changeset is declared in the same way, whatever the order of named arguments is in its element and
in those of its block, also where a rollback refers to another changeset by its arguments.
-/

namespace Migration.Changeset

variable {host : Host} {site : Site} {log : Changelog} {changeset : Changeset} {e f : Element}
  {xs ys : List (Item Element)} {first second : List (String × Value)}

/-! ## Rollback -/

theorem undoneBy_reorders (store : Store) (reorders : e.Reorders f) :
    Alike (undoneBy host site changeset e) (undoneBy { host with store } site changeset f) :=
  ((Site.Agrees.refl site).change host store changeset.id reorders).bind fun _ => .refl _

theorem takeRollbackItems_reorders (store : Store) (reorders : List.Forall₂ Item.Reorders xs ys) :
    Alike (takeRollbackItems host site changeset xs)
      (takeRollbackItems { host with store } site changeset ys) := by
  induction reorders generalizing changeset with
  | nil => exact .refl _
  | cons item rest ih =>
      cases item with
      | text s =>
          cases rest with
          | nil => exact .refl _
          | cons => exact .error _ _
      | element reorders =>
          unfold takeRollbackItems
          rw [reorders.name_eq]
          split
          · exact .refl _
          · exact (undoneBy_reorders store reorders).bind fun _ => ih.bind fun _ => .refl _

/-- A reference is refused for a renamed argument wherever that stands. -/
theorem referredBy_reorders (store : Store) (permutes : Call.Permutes first second) :
    Alike (referredBy host site log changeset first)
      (referredBy { host with store } site log changeset second) := by
  let renamed (argument : String × Value) : Option (String × String) :=
    renamedArguments.find? fun pair => pair.1 = argument.1
  have isSome : (first.findSome? renamed).isSome = (second.findSome? renamed).isSome := by
    rw [Bool.eq_iff_iff, List.findSome?_isSome_iff, List.findSome?_isSome_iff]
    simp only [permutes.perm.mem_iff]
  unfold referredBy
  dsimp only
  rcases none_or_some_of_isSome_eq isSome with ⟨found, again⟩ | ⟨pair, other, found, again⟩
  · rw [found, again]
    exact (Schema.check_perm permutes.perm permutes.distinct).bind fun _ => .refl _
  · rw [found, again]
    exact .error _ _

theorem takeRollback_reorders (store : Store) (reorders : e.Reorders f) :
    Alike (takeRollback host site log changeset e)
      (takeRollback { host with store } site log changeset f) := by
  refine (site.call_reorders reorders).bind_alike fun call other called => ?_
  cases called with
  | empty => exact takeRollbackItems_reorders store reorders.items
  | positional values =>
      cases reorders with
      | bare => exact .refl _
      | block =>
          match values with
          | [] | [_] | _ :: _ :: _ => exact .error _ _
  | named permutes =>
      dsimp only
      rw [reorders.isSome_block]
      split
      · exact .refl _
      · exact (referredBy_reorders store permutes).bind fun _ => .refl _

/-! ## Blocks -/

theorem takeElement_reorders (store : Store) (reorders : e.Reorders f) :
    Alike (takeElement host site log changeset e)
      (takeElement { host with store } site log changeset f) := by
  have agrees := Site.Agrees.refl site
  unfold takeElement
  rw [reorders.name_eq]
  split
  · exact (agrees.textContent reorders).bind fun _ => .refl _
  split
  · exact (agrees.textContent reorders).bind fun _ => .refl _
  split
  · exact (agrees.container host store reorders).bind fun _ => .refl _
  split
  · exact takeRollback_reorders store reorders
  split
  · exact (agrees.scopedSqlEdits host.isPattern reorders).bind fun _ => .refl _
  · exact (agrees.change host store changeset.id reorders).bind fun _ => .refl _

theorem takeItems_reorders (store : Store) (reorders : List.Forall₂ Item.Reorders xs ys) :
    Alike (takeItems host site log changeset xs)
      (takeItems { host with store } site log changeset ys) := by
  induction reorders generalizing changeset with
  | nil => exact .refl _
  | cons item _ ih =>
      cases item with
      | text s => exact .refl _
      | element reorders =>
          exact (takeElement_reorders store reorders).bind fun _ => ih.bind fun _ => .refl _

/-- The arguments of a changeset are accepted in every order. -/
theorem ofArguments_reorders (permutes : Call.Permutes first second) :
    Alike (ofArguments log first) (ofArguments log second) := by
  unfold ofArguments
  rw [permutes.any_eq]
  split
  · exact .refl _
  · exact (Schema.check_perm permutes.perm permutes.distinct).bind fun _ => .refl _

/-- A changeset is the same in every order of named arguments, wherever the host keeps its files. -/
theorem ofElement_reorders (store : Store) (properties : PropertyTable)
    (reorders : e.Reorders f) : Alike (ofElement host properties log e)
      (ofElement { host with store } properties log f) := by
  refine (Site.namedArguments_reorders _ reorders).bind_alike fun first second permutes => ?_
  exact (ofArguments_reorders permutes).bind fun _ => takeItems_reorders store reorders.items

end Migration.Changeset
