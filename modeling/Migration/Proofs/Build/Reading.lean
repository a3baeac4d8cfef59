import Migration.Proofs.Build.Files
import Migration.Proofs.Build.Machine
import Migration.Proofs.Declaration.Store

/-!
# What a build reads

A build takes three things from a store: the texts of scripts, the names of files in directories,
and files of properties.  A machine with another store therefore goes the same way as long as it
reads the same there.  The main statement, `build_eq_of_readsSame`, says that the builds have the
same outcome.
-/

namespace Migration

namespace Changelog

variable {host : Host} {store : Store} {rel : String → String → Prop} {site : Site}
  {log : Changelog} {session : Session} {e : Element}

/-! ## Elements -/

/-- The files of a directory depend on no more of a store than its listing. -/
theorem listed_eq (same : host.store.list = store.list) (fixup : Bool) (base : String)
    (relative : Bool) (directory : String) (recursive : Bool) (options : Listing.Options) :
    Listing.list host.store fixup base relative directory recursive options =
      Listing.list store fixup base relative directory recursive options := by
  simp only [Listing.list, Store.files, same]

theorem includedFiles_withStore (same : host.store.list = store.list) (site : Site)
    (e : Element) : includedFiles { host with store } site e = includedFiles host site e := by
  simp only [includedFiles, listed_eq same]

/-- Whether an element reads the same properties from two stores, if it reads a file. -/
def ReadsAlike (host : Host) (store : Store) (site : Site) (e : Element) : Prop :=
  e.name = "property" → ∀ given, site.attributes propertySchema none e = .ok given →
    ∀ file ∈ given.text? "file",
      Alike ((host.store.text file).map Property.parseFile)
        ((store.text file).map Property.parseFile)

instance (host : Host) (store : Store) (site : Site) (e : Element) :
    Decidable (ReadsAlike host store site e) :=
  inferInstanceAs (Decidable (e.name = "property" → ∀ given,
    site.attributes propertySchema none e = .ok given → ∀ file ∈ given.text? "file",
      Alike ((host.store.text file).map Property.parseFile)
        ((store.text file).map Property.parseFile)))

/-- Properties that are read from a file, as a step of its own. -/
theorem declare_parseFile (declare : String × String → Property)
    (step : Except BuildError String) :
    (step >>= fun text => pure ((Property.parseFile text).map declare)) =
      (step.map Property.parseFile).map (List.map declare) := by
  cases step <;> rfl

theorem declaredProperties_withStore (related : host.store.Relates rel store)
    (reads : ReadsAlike host store site e) (isProperty : e.name = "property") :
    declaredProperties { host with store } site e = declaredProperties host site e := by
  unfold declaredProperties
  refine bind_congr fun _ => ?_
  cases called : site.attributes propertySchema none e with
  | error error => rfl
  | ok given =>
      dsimp only [bind, Except.bind]
      split
      · rfl
      · rename_i file isFile _
        have same := (related.text file).map_eq_of_alike (reads isProperty given called file isFile)
        exact (declare_parseFile _ _).trans
          ((congrArg (Except.map _) same.symm).trans (declare_parseFile _ _).symm)
      · rfl
      · rfl

/-- What an element brings about is the same with another store from which it reads the same. -/
theorem performElement_withStore (related : host.store.Relates rel store)
    (reads : ReadsAlike host store (log.siteIn session) e) :
    performElement { host with store } log session e = performElement host log session e := by
  unfold performElement
  split
  · rw [Changeset.ofElement_withStore]
  split
  · rfl
  split
  · rw [includedFiles_withStore related.list]
  split
  · rename_i isProperty
    rw [declaredProperties_withStore related reads isProperty]
  · rw [PreconditionContainer.ofElement_withStore]

/-! ## Steps -/

namespace Machine

/-- Whether an element that a machine is about to take reads the same properties from two
stores. -/
def ReadsAlike (host : Host) (store : Store) : Machine → Prop
  | .working (.rest log (.item _ (.element e) :: _)) _ session =>
      Changelog.ReadsAlike host store (log.siteIn session) e
  | _ => True

instance (host : Host) (store : Store) : DecidablePred (ReadsAlike host store)
  | .working (.rest log (.item _ (.element e) :: _)) _ session =>
      inferInstanceAs (Decidable (Changelog.ReadsAlike host store (log.siteIn session) e))
  | .working (.rest _ (.item _ (.text _) :: _)) _ _ | .working (.rest _ (.root _ :: _)) _ _
  | .working (.rest _ (.file _ _ :: _)) _ _ | .working (.rest _ []) _ _
  | .working (.file _ _ _) _ _ | .returning _ _ _ => .isTrue trivial

/-- Whether a machine reads the same from two stores: the text of the script that it is about to
enter, or the properties of the file that it is about to take in. -/
def ReadsSame (host : Host) (store : Store) : Machine → Prop
  | .working (.file path none _) _ _ =>
      Alike (host.store.text (Path.normalize path)) (store.text (Path.normalize path))
  | machine => machine.ReadsAlike host store

instance (host : Host) (store : Store) : DecidablePred (ReadsSame host store)
  | .working (.file path none _) _ _ =>
      inferInstanceAs (Decidable
        (Alike (host.store.text (Path.normalize path)) (store.text (Path.normalize path))))
  | .working (.rest log tasks) frames session =>
      inferInstanceAs
        (Decidable (ReadsAlike host store (.working (.rest log tasks) frames session)))
  | .working (.file _ (some _) _) _ _ | .returning _ _ _ => .isTrue trivial

/-- Where the same script is read, the same is entered. -/
theorem step_file_eq {other : Host} {path : String} {source again : Option String}
    (same : readScript other (Path.normalize path) again =
      readScript host (Path.normalize path) source)
    (arguments : List (String × Value)) (frames : List Frame) (session : Session) :
    (working (.file path again arguments) frames session).step other =
      (working (.file path source arguments) frames session).step host := by
  simp only [step, enter, same]

/-- A machine takes the same step with another store from which it reads the same. -/
theorem step_withStore (related : host.store.Relates rel store) {machine : Machine}
    (reads : machine.ReadsSame host store) :
    machine.step { host with store } = machine.step host := by
  match machine with
  | .working (.file path none arguments) frames session =>
      have same : host.store.text (Path.normalize path) = store.text (Path.normalize path) :=
        (related.text _).eq_of_alike reads
      exact step_file_eq (by simp only [readScript, same]) arguments frames session
  | .working (.rest log (.item line (.element e) :: tasks)) frames session =>
      rw [step, step, Task.perform, performElement_withStore related reads, Task.perform]
  | .working (.file path (some text) arguments) frames session
  | .working (.rest log []) frames session
  | .working (.rest log (.root e :: tasks)) frames session
  | .working (.rest log (.item line (.text s) :: tasks)) frames session
  | .working (.rest log (.file target inclusion :: tasks)) frames session => rfl
  | .returning result frames session => cases result <;> cases frames <;> rfl

/-- A machine goes the same way with another store from which it reads the same at each moment. -/
theorem run_withStore (related : host.store.Relates rel store) {machine : Machine}
    (reads : ∀ steps, (machine.run host steps).ReadsSame host store) (steps : Nat) :
    machine.run { host with store } steps = machine.run host steps := by
  induction steps generalizing machine with
  | zero => rfl
  | succ steps ih =>
      have first : machine.step { host with store } = machine.step host :=
        step_withStore related (reads 0)
      rw [run, first]
      exact ih fun more => reads (more + 1)

end Machine

/-- A build has the same outcome with another store if the root script is the same, and everything
that is read after it is the same in both stores. -/
theorem build_eq_of_readsSame (bounded : host.store.IsBounded)
    (related : host.store.Relates rel store) {path : String} {source other : Option String}
    {arguments : List (String × Value)}
    (sameScript : readScript { host with store } (Path.normalize path) other =
      readScript host (Path.normalize path) source)
    (reads : ∀ steps, ((Machine.start host path source arguments).run host (steps + 1)).ReadsSame
      host store) :
    build { host with store } path other arguments = build host path source arguments := by
  obtain ⟨result, last, run, built⟩ := build_runs_of_isBounded bounded path source arguments
  obtain ⟨again, final, runAgain, rebuilt⟩ := @build_runs_of_isBounded
    { host with store } (related.isBounded bounded) path other arguments
  obtain ⟨steps, halted⟩ := run.reaches []
  have begins : (Machine.start { host with store } path other arguments).step { host with store } =
      (Machine.start host path source arguments).step host :=
    Machine.step_file_eq sameScript arguments [] _
  have reaches : Machine.Reaches { host with store }
      (Machine.start { host with store } path other arguments) (.returning result [] last) := by
    refine ⟨steps + 1, ?_⟩
    rw [Machine.run, begins, Machine.run_withStore related reads]
    -- One step more does not matter to a machine that has halted.
    show (Machine.start host path source arguments).run host (steps + 1) = _
    rw [Machine.run_add, Machine.start, halted]
    exact Machine.run_returning host result last 1
  obtain ⟨rfl, rfl⟩ := (runAgain.reaches []).unique reaches
  rw [built, rebuilt]
  rfl

end Changelog

end Migration
