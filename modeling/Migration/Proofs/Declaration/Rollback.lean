import Migration.Proofs.Declaration.Causes
import Migration.Proofs.Declaration.Changeset

/-!
# Rollbacks that refer to changesets

A rollback with named arguments refers to the changeset with some identity, whose changes it takes
over.  It looks for that changeset in the changelog of its own script, as far as it has been built.
A `changeSet` element fails because of a reference exactly if it comes to one that finds nothing.
-/

namespace Migration.Changeset

/-- Whether an element in the block of a changeset refers to the changeset with an identity.  The
author is that of the referring changeset unless one is given, which a host may demand, and the path
that of its changelog. -/
structure RefersTo (host : Host) (site : Site) (log : Changelog) (changeset : Changeset)
    (e : Element) (path author id : String) : Prop where
  named : e.name = "rollback"
  noBlock : e.block = none
  reference : ∃ arguments given, site.call e = .ok (.named arguments) ∧
    (arguments.findSome? fun argument =>
      renamedArguments.find? fun pair => pair.1 = argument.1) = none ∧
    referenceSchema.check "rollback" site.changeset arguments = .ok given ∧
    given.text? "changeSetId" = some id ∧
    (given.text? "changeSetAuthor" = some author ∨
      given.text? "changeSetAuthor" = none ∧ author = changeset.author ∧
        host.configuration.strictRollbackReferences = false) ∧
    path = (given.text? "changeSetPath").getD log.filePath

/-- The identity to which an element refers, if it refers to a changeset. -/
def reference? (host : Host) (site : Site) (log : Changelog) (changeset : Changeset) (e : Element) :
    Option (String × String × String) :=
  match e.name, e.block, site.call e with
  | "rollback", none, .ok (.named arguments) =>
      if (arguments.findSome? fun argument =>
          renamedArguments.find? fun pair => pair.1 = argument.1).isSome then none
      else do
        let given ← (referenceSchema.check "rollback" site.changeset arguments).toOption
        let id ← given.text? "changeSetId"
        let author ← (given.text? "changeSetAuthor").or
          (if host.configuration.strictRollbackReferences then none else some changeset.author)
        return ((given.text? "changeSetPath").getD log.filePath, author, id)
  | _, _, _ => none

/-- A changeset that is undone by the changes of another one, if there is one. -/
def undoneLike (changeset : Changeset) (target? : Option Changeset) (path author id : String) :
    Except BuildError Changeset :=
  match target? with
  | some target => .ok { changeset with rollback := changeset.rollback ++ target.changes }
  | none => .error (.rollbackImpossible path author id)

variable {host : Host} {site : Site} {log : Changelog} {changeset after start own : Changeset}
  {warnings : List Warning} {e r : Element} {path author id : String}
  {items back : List (Item Element)}

theorem refersTo_of_reference?
    (found : reference? host site log changeset e = some (path, author, id)) :
    RefersTo host site log changeset e path author id := by
  unfold reference? at found
  split at found
  · rename_i arguments named noBlock called
    split at found
    · cases found
    rename_i current
    obtain ⟨given, checked, found⟩ := Option.bind_eq_some_iff.mp found
    obtain ⟨_, isId, found⟩ := Option.bind_eq_some_iff.mp found
    obtain ⟨_, isAuthor, found⟩ := Option.bind_eq_some_iff.mp found
    cases found
    refine ⟨named, noBlock, arguments, given, called,
      Option.not_isSome_iff_eq_none.mp current, eq_ok_of_toOption checked, isId, ?_, rfl⟩
    cases isGiven : given.text? "changeSetAuthor" with
    | some author =>
        rw [isGiven] at isAuthor
        exact .inl isAuthor
    | none =>
        rw [isGiven, Option.none_or] at isAuthor
        split at isAuthor
        · cases isAuthor
        · rename_i lax
          exact .inr ⟨rfl, (Option.some.inj isAuthor).symm, by simpa using lax⟩
  · cases found

theorem RefersTo.takeRollback_eq (refers : RefersTo host site log changeset r path author id) :
    takeRollback host site log changeset r =
      (undoneLike changeset (log.find? path author id) path author id).map fun undone =>
        (undone, []) := by
  obtain ⟨-, noBlock, arguments, given, called, current, checked, isId, isAuthor, rfl⟩ := refers
  have referred : referredBy host site log changeset arguments =
      (log.find? ((given.text? "changeSetPath").getD log.filePath) author id).elim
        (.error (.rollbackImpossible ((given.text? "changeSetPath").getD log.filePath) author id))
        .ok := by
    rcases isAuthor with isAuthor | ⟨isAuthor, rfl, lax⟩
    · simp only [referredBy, current, checked, isId, isAuthor, bind, Except.bind]
      cases log.find? _ author id <;> rfl
    · simp only [referredBy, current, checked, isId, isAuthor, lax, bind, Except.bind]
      cases log.find? _ changeset.author id <;> rfl
  simp only [takeRollback, called, noBlock, referred, bind, Except.bind]
  cases log.find? _ author id <;> rfl

theorem RefersTo.takeElement_eq (refers : RefersTo host site log changeset r path author id) :
    takeElement host site log changeset r =
      (undoneLike changeset (log.find? path author id) path author id).map fun undone =>
        (undone, []) := by
  rw [← refers.takeRollback_eq]
  simp [takeElement, refers.named]

/-- Whether a cause is that an element refers to a changeset that is not there. -/
def Unanswered (host : Host) (site : Site) (log : Changelog) (changeset : Changeset) (e : Element)
    (error : BuildError) : Prop :=
  ∃ path author id, error = .rollbackImpossible path author id ∧
    RefersTo host site log changeset e path author id ∧ log.find? path author id = none

theorem failsFor_referredBy {arguments : List (String × Value)} (named : e.name = "rollback")
    (noBlock : e.block = none) (called : site.call e = .ok (.named arguments)) :
    FailsFor (fun error => error.isLocal ∨ Unanswered host site log changeset e error)
      (referredBy host site log changeset arguments) := by
  unfold referredBy
  dsimp only
  split
  · exact (site.failsLocally_violation _).mono fun _ => .inl
  rename_i current
  refine ((referenceSchema.failsLocally_check _ _ _).mono fun _ => .inl).bind_of_ok
    fun given checked => ?_
  split
  · exact .error (.inl rfl)
  rename_i id isId
  have search {author : String} (isAuthor : given.text? "changeSetAuthor" = some author ∨
        given.text? "changeSetAuthor" = none ∧ author = changeset.author ∧
          host.configuration.strictRollbackReferences = false) :
      FailsFor (fun error => error.isLocal ∨ Unanswered host site log changeset e error)
        (match log.find? ((given.text? "changeSetPath").getD log.filePath) author id with
        | some target => .ok target
        | none => .error (.rollbackImpossible ((given.text? "changeSetPath").getD log.filePath)
            author id)) := by
    split
    · exact .ok _
    · rename_i absent
      refine .error (.inr ⟨_, author, id, rfl, ⟨named, noBlock, ?_⟩, absent⟩)
      exact ⟨arguments, given, called, current, checked, isId, isAuthor, rfl⟩
  split
  · rename_i isAuthor
    exact search (.inl isAuthor)
  · rename_i isAuthor
    split
    · exact .error (.inl rfl)
    · rename_i lax
      exact search (.inr ⟨isAuthor, rfl, by simpa using lax⟩)

/-- A rollback fails for a local cause, or because it refers to a changeset that is not there. -/
theorem failsFor_takeRollback (finishes : host.catalog.FinishesLocally)
    (named : e.name = "rollback") :
    FailsFor (fun error => error.isLocal ∨ Unanswered host site log changeset e error)
      (takeRollback host site log changeset e) := by
  refine ((site.failsLocally_call e).mono fun _ => .inl).bind_of_ok fun call called => ?_
  match call with
  | .empty => exact (failsLocally_takeRollbackItems site finishes changeset _).mono fun _ => .inl
  | .positional values =>
      refine .mono (?_ : FailsLocally _) fun _ => .inl
      dsimp only
      split
      · split <;> exact .pure _
      · exact site.failsLocally_violation _
  | .named arguments =>
      dsimp only
      split
      · exact .error (.inl rfl)
      · rename_i noBlock
        exact (failsFor_referredBy named (by simpa using noBlock) called).bind fun _ => .pure _

/-- An element of the block of a changeset fails for a local cause, or because it refers to a
changeset that is not there. -/
theorem failsFor_takeElement (finishes : host.catalog.FinishesLocally) :
    FailsFor (fun error => error.isLocal ∨ Unanswered host site log changeset e error)
      (takeElement host site log changeset e) := by
  have atHand {α β : Type} {step : Except BuildError α} {next : α → β} (fails : FailsLocally step) :
      FailsFor (fun error => error.isLocal ∨ Unanswered host site log changeset e error)
        (step >>= fun value => pure (next value)) :=
    (fails.mono fun _ => .inl).bind fun _ => .pure _
  unfold takeElement
  split
  · exact atHand (site.failsLocally_textContent e)
  split
  · exact atHand (site.failsLocally_textContent e)
  split
  · exact atHand (PreconditionContainer.failsLocally_ofElement host site e)
  split
  · rename_i named
    exact failsFor_takeRollback finishes named
  split
  · exact atHand (ScopedSqlEdit.failsLocally_ofElement site host.isPattern e)
  · exact atHand (Change.failsLocally_ofElement site finishes _ e)

/-! ## Blocks of changesets -/

/-- Whether a changeset comes to an element in what is left of its block, how far it has been
built by then, and what is left of the block after the element. -/
inductive ComesTo (host : Host) (site : Site) (log : Changelog) (r : Element) :
    Changeset → List (Item Element) → Changeset → List (Item Element) → Prop
  | here {changeset : Changeset} {back : List (Item Element)} :
      ComesTo host site log r changeset (.element r :: back) changeset back
  | later {before after last : Changeset} {e : Element} {items back : List (Item Element)}
      {warnings : List Warning}
      (taken : takeElement host site log before e = .ok (after, warnings))
      (rest : ComesTo host site log r after items last back) :
      ComesTo host site log r before (.element e :: items) last back

/-- A block fails where the changeset comes to an element that fails. -/
theorem ComesTo.takeItems_error {error : BuildError}
    (comes : ComesTo host site log r start items changeset back)
    (failed : takeElement host site log changeset r = .error error) :
    takeItems host site log start items = .error error := by
  induction comes with
  | here => rw [takeItems, failed]; rfl
  | later taken _ ih => rw [takeItems, taken]; simp only [bind, Except.bind, ih failed]

/-- A block that is taken is taken beyond each element to which it comes. -/
theorem ComesTo.takeItems_ok (comes : ComesTo host site log r start items changeset back)
    (taken : takeItems host site log start items = .ok (own, warnings)) :
    ∃ after first last, takeElement host site log changeset r = .ok (after, first) ∧
      takeItems host site log after back = .ok (own, last) := by
  induction comes generalizing warnings with
  | here =>
      obtain ⟨⟨after, first⟩, here, taken⟩ := bind_eq_ok.mp taken
      obtain ⟨⟨own, last⟩, rest, same⟩ := bind_eq_ok.mp taken
      cases same
      exact ⟨after, first, last, here, rest⟩
  | later before _ ih =>
      obtain ⟨⟨after, first⟩, here, taken⟩ := bind_eq_ok.mp taken
      obtain ⟨⟨own, last⟩, rest, same⟩ := bind_eq_ok.mp taken
      cases same
      cases before.symm.trans here
      exact ih rest

/-- A block that is refused for no local cause comes to a reference that is not answered. -/
theorem failsFor_takeItems (finishes : host.catalog.FinishesLocally) (start : Changeset)
    (items : List (Item Element)) :
    FailsFor (fun error => error.isLocal ∨ ∃ r changeset back,
        ComesTo host site log r start items changeset back ∧
        Unanswered host site log changeset r error)
      (takeItems host site log start items) := by
  induction items generalizing start with
  | nil => exact .ok _
  | cons item items ih =>
      cases item with
      | text s => exact .error (.inl rfl)
      | element e =>
          refine FailsFor.bind_of_ok ?_ fun ⟨after, first⟩ taken => ?_
          · refine .mono (?_ : FailsFor (fun error => error.isLocal ∨
              Unanswered host site log start e error) _) fun error => ?_
            · exact failsFor_takeElement finishes
            · exact Or.imp_right fun unanswered => ⟨e, start, items, .here, unanswered⟩
          · refine FailsFor.bind ((ih after).mono fun error => Or.imp_right ?_) fun _ => .pure _
            rintro ⟨r, changeset, back, comes, unanswered⟩
            exact ⟨r, changeset, back, .later taken comes, unanswered⟩

/-! ## Rollbacks only grow -/

theorem rollback_prefix_takeElement
    (taken : takeElement host site log start e = .ok (after, warnings)) :
    start.rollback <+: after.rollback := by
  cases takes_of_takeElement taken with
  | rollback _ taken =>
      obtain ⟨more, rfl⟩ := takeRollback_grows taken
      exact List.prefix_append _ more
  | _ => exact List.prefix_refl _

theorem rollback_prefix_takeItems
    (taken : takeItems host site log start items = .ok (own, warnings)) :
    start.rollback <+: own.rollback := by
  induction items generalizing start warnings with
  | nil =>
      cases taken
      exact List.prefix_refl _
  | cons item items ih =>
      cases item with
      | text s => cases taken
      | element e =>
          obtain ⟨⟨middle, first⟩, front, taken⟩ := bind_eq_ok.mp taken
          obtain ⟨⟨last, second⟩, rest, taken⟩ := bind_eq_ok.mp taken
          cases taken
          exact (rollback_prefix_takeElement front).trans (ih rest)

/-! ## Whole elements -/

/-- Whether the block of a `changeSet` element comes to an element, where that element stands, and
how far the changeset has been built by then. -/
def Meets (host : Host) (properties : PropertyTable) (log : Changelog) (e r : Element) (site : Site)
    (changeset : Changeset) : Prop :=
  ∃ arguments start back,
    Site.namedArguments { properties, path := log.physicalPath } e = .ok arguments ∧
    ofArguments log arguments = .ok start ∧
    site = { properties, path := log.physicalPath, changeset := some start.id } ∧
    ComesTo host site log r start e.items changeset back

variable {properties : PropertyTable}

/-- A changeset that comes to a reference without an answer fails for that reason. -/
theorem Meets.ofElement_error (meets : Meets host properties log e r site changeset)
    (refers : RefersTo host site log changeset r path author id)
    (absent : log.find? path author id = none) :
    ofElement host properties log e = .error (.rollbackImpossible path author id) := by
  obtain ⟨arguments, start, back, called, begun, rfl, comes⟩ := meets
  have taken := refers.takeElement_eq
  rw [absent] at taken
  have block := comes.takeItems_error taken
  simp only [ofElement, called, begun, bind, Except.bind]
  exact block

/-- A changeset that is built has an answer to each reference to which it came, and the changes of
that answer in its rollback, behind what was there before. -/
theorem Meets.ofElement_ok (meets : Meets host properties log e r site changeset)
    (refers : RefersTo host site log changeset r path author id)
    (built : ofElement host properties log e = .ok (own, warnings)) :
    ∃ target more, log.find? path author id = some target ∧
      own.rollback = changeset.rollback ++ target.changes ++ more := by
  obtain ⟨arguments, start, back, called, begun, rfl, comes⟩ := meets
  simp only [ofElement, called, begun, bind, Except.bind] at built
  obtain ⟨after, first, last, here, rest⟩ := comes.takeItems_ok built
  rw [refers.takeElement_eq] at here
  cases found : log.find? path author id with
  | none =>
      rw [found] at here
      cases here
  | some target =>
      rw [found] at here
      cases here
      obtain ⟨more, grown⟩ := rollback_prefix_takeItems rest
      exact ⟨target, more, rfl, grown.symm⟩

/-- A changeset that is refused for no local cause comes to a reference that is not answered. -/
theorem failsFor_ofElement (finishes : host.catalog.FinishesLocally) :
    FailsFor (fun error => error.isLocal ∨ ∃ r site changeset,
        Meets host properties log e r site changeset ∧ Unanswered host site log changeset r error)
      (ofElement host properties log e) := by
  refine ((Site.failsLocally_namedArguments _ e).mono fun _ => .inl).bind_of_ok
    fun arguments called => ?_
  refine ((failsLocally_ofArguments log arguments).mono fun _ => .inl).bind_of_ok
    fun start begun => ?_
  refine (failsFor_takeItems finishes start e.items).mono fun error => Or.imp_right ?_
  rintro ⟨r, changeset, back, comes, unanswered⟩
  exact ⟨r, _, changeset, ⟨arguments, start, back, called, begun, rfl, comes⟩, unanswered⟩

end Migration.Changeset
