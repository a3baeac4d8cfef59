import Migration.Proofs.Build.Task
import Migration.Proofs.Declaration.Rollback

/-!
# Causes of failed builds

Only two causes of failure are not found in the elements and files at hand: a script that is open is
included again, which is found when it is entered, and a rollback refers to a changeset that is not
there, which is found when a changeset is built.
-/

namespace Migration

theorem Store.failsLocally_text (store : Store) (path : String) : FailsLocally (store.text path) :=
  .mapError (fun _ => by rfl) (store.read path)

theorem Store.failsLocally_files (store : Store) (directory : String) (recursive : Bool) :
    FailsLocally (store.files directory recursive) :=
  .mapError (fun _ => by rfl) (store.list directory recursive)

theorem Listing.failsLocally_list (store : Store) (fixup : Bool) (base : String) (relative : Bool)
    (directory : String) (recursive : Bool) (options : Options) :
    FailsLocally (list store fixup base relative directory recursive options) := by
  refine (store.failsLocally_files _ _).bind fun listed => ?_
  have demanded (paths : List String) : FailsLocally
      (if paths = [] ∧ options.demanded then
        .error (.resource (Path.asDirectory directory) .emptyDirectory)
      else pure paths) := by
    split
    · exact .error rfl
    · exact .pure _
  exact demanded _

namespace Catalog

variable (catalog : Catalog)

theorem failsLocally_filter (name : String) : FailsLocally (catalog.filter name) := by
  unfold filter
  split
  · exact .ok _
  · exact .error rfl
  · exact .error rfl

theorem failsLocally_comparator (name : String) : FailsLocally (catalog.comparator name) := by
  unfold comparator
  split
  · exact .ok _
  · exact .error rfl
  · exact .error rfl

end Catalog

namespace Changelog

variable {host : Host} {log : Changelog} {session : Session} {site : Site} {e : Element}

theorem failsLocally_takeArguments (log : Changelog) (arguments : List (String × Value)) :
    FailsLocally (log.takeArguments arguments) := by
  refine (schema.failsLocally_check _ _ _).bind fun given => ?_
  split
  · exact (FailsFor.map_iff.mpr (failsLocally_oneOf _ _ _)).bind fun _ => .pure _
  · exact .bind (.ok _) fun _ => .pure _

theorem failsLocally_withoutBlock (e : Element) : FailsLocally (withoutBlock e) := by
  unfold withoutBlock
  split
  · exact .error rfl
  · exact .ok _

theorem failsLocally_declaredProperties (host : Host) (site : Site) (e : Element) :
    FailsLocally (declaredProperties host site e) := by
  refine (failsLocally_withoutBlock e).bind fun _ => ?_
  refine (site.failsLocally_attributes _ _ e).bind fun given => ?_
  dsimp only
  split
  · exact .error rfl
  · exact (host.store.failsLocally_text _).bind fun _ => .pure _
  · split
    · exact .pure _
    · exact .error rfl
  · exact .error rfl

theorem failsLocally_includedFile (host : Host) (site : Site) (e : Element) :
    FailsLocally (includedFile host site e) := by
  refine (failsLocally_withoutBlock e).bind fun _ => ?_
  refine (site.failsLocally_attributes _ _ e).bind fun given => ?_
  exact ((includeSchema host).failsLocally_checkRequired _ _ _).bind fun _ => .pure _

theorem failsLocally_plugin {α : Type} {lookUp : String → Except BuildError α}
    (known : ∀ name, FailsLocally (lookUp name)) (name : Option String) :
    FailsLocally (plugin lookUp name) := by
  cases name with
  | none => exact .ok none
  | some name => exact FailsFor.map_iff.mpr (known name)

theorem failsLocally_includedFiles (host : Host) (site : Site) (e : Element) :
    FailsLocally (includedFiles host site e) := by
  refine (failsLocally_withoutBlock e).bind fun _ => ?_
  refine (site.failsLocally_namedArguments e).bind fun arguments => ?_
  split
  · exact .error rfl
  refine (includeAllSchema.failsLocally_check _ _ _).bind fun given => ?_
  refine (includeAllSchema.failsLocally_checkRequired _ _ _).bind fun _ => ?_
  dsimp only
  split
  · exact .error rfl
  refine (failsLocally_plugin host.catalog.failsLocally_filter _).bind fun accepts => ?_
  refine (failsLocally_plugin host.catalog.failsLocally_comparator _).bind fun compare => ?_
  exact (Listing.failsLocally_list _ _ _ _ _ _ _).bind fun _ => .pure _

theorem failsLocally_readScript (host : Host) (path : String) (source : Option String) :
    FailsLocally (readScript host path source) := by
  have parsed (text : String) :
      FailsLocally ((Script.parse text).mapError (BuildError.malformed path)) :=
    .mapError (fun _ => by rfl) (Script.parse text)
  unfold readScript
  split
  · exact .bind (.ok _) parsed
  · exact (host.store.failsLocally_text path).bind parsed

/-! ## Steps of a build -/

def Outcome.isFailure : Outcome → Bool
  | .failure _ => true
  | _ => false

theorem Outcome.error_of_ofExcept {α : Type} {causes : BuildError → Prop}
    {result : Except BuildError α} {next : α → Outcome} {error : BuildError}
    (fails : FailsFor causes result) (goes : ∀ value, (next value).isFailure = false)
    (failed : Outcome.ofExcept result next = .failure error) : causes error := by
  cases result with
  | ok value =>
      have never := goes value
      rw [show next value = .failure error from failed] at never
      cases never
  | error cause =>
      cases failed
      exact fails error rfl

/-- Whether a cause is that the changeset of an element comes to a reference without an answer. -/
def HasUnanswered (host : Host) (log : Changelog) (session : Session) (e : Element)
    (error : BuildError) : Prop :=
  e.name = "changeSet" ∧ ∃ r site changeset,
    Changeset.Meets host session.properties log e r site changeset ∧
      Changeset.Unanswered host site log changeset r error

theorem performElement_failure_cases (finishes : host.catalog.FinishesLocally) {error : BuildError}
    (failed : performElement host log session e = .failure error) :
    error.isLocal ∨ HasUnanswered host log session e error := by
  unfold performElement at failed
  split at failed
  · rename_i named
    refine (Outcome.error_of_ofExcept (Changeset.failsFor_ofElement finishes) (fun _ => rfl)
      failed).imp_right
      fun unanswered => ⟨named, unanswered⟩
  refine .inl ?_
  split at failed
  · exact Outcome.error_of_ofExcept (failsLocally_includedFile _ _ e) (fun _ => rfl) failed
  split at failed
  · exact Outcome.error_of_ofExcept (failsLocally_includedFiles _ _ e) (fun _ => rfl) failed
  split at failed
  · exact Outcome.error_of_ofExcept (failsLocally_declaredProperties _ _ e) (fun _ => rfl) failed
  split at failed
  · exact Outcome.error_of_ofExcept (PreconditionContainer.failsLocally_ofElement _ _ e)
      (fun _ => rfl) failed
  · cases failed
    rfl

/-- A task fails for a local cause, or because its changeset refers to one that is not there. -/
theorem Task.failure_cases (finishes : host.catalog.FinishesLocally) {task : Task}
    {error : BuildError} (failed : task.perform host log session = .failure error) :
    error.isLocal ∨ ∃ line e, task = .item line (.element e) ∧
      HasUnanswered host log session e error := by
  cases task with
  | root e =>
      refine .inl ?_
      simp only [perform] at failed
      split at failed
      · have fails := (Site.failsLocally_namedArguments (log.siteIn session) e).bind
          (failsLocally_takeArguments log)
        exact Outcome.error_of_ofExcept fails (fun _ => rfl) failed
      · cases failed
        rfl
  | item line item =>
      cases item with
      | text s =>
          cases failed
          exact .inl rfl
      | element e =>
          exact (performElement_failure_cases finishes failed).imp_right fun unanswered =>
            ⟨line, e, rfl, unanswered⟩
  | file target inclusion =>
      simp only [perform] at failed
      split at failed
      · cases failed
      · cases failed
        exact .inl rfl

/-- A script that is not open is entered unless there is a local cause. -/
theorem failsLocally_begin (host : Host) (path : String) (source : Option String)
    (arguments : List (String × Value)) :
    FailsLocally (do
      let script ← readScript host path source
      let log ← takeArguments { physicalPath := path } arguments
      return (log, script.elements.map Task.root)) :=
  (failsLocally_readScript host path source).bind fun _ =>
    (failsLocally_takeArguments _ arguments).bind fun _ => .pure _

/-- A script cannot be entered for a local cause, or because it is open. -/
theorem enter_error_cases {path : String} {source : Option String}
    {arguments : List (String × Value)} {error : BuildError}
    (refused : enter host path source arguments session = .error error) :
    error.isLocal ∨ session.openFiles.any (Path.same · (Path.normalize path)) ∧
      error = .circularInclude (Path.normalize path)
        (session.openFiles ++ [Path.normalize path]) := by
  simp only [enter] at refused
  split at refused
  · rename_i isOpen
    cases refused
    exact .inr ⟨isOpen, rfl⟩
  · exact .inl (failsLocally_begin host _ source arguments error refused)

end Changelog

end Migration
