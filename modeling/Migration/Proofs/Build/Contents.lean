import Migration.Proofs.Build.Run
import Migration.Proofs.Declaration.Contents

/-!
# What a build holds

Whether all changes and checks of a changelog are good is seen while it is built: a build that is
strict about single changes and checks gives what a lax build gives, if all that it holds is good,
and else fails.  The main statement is `filters_build`.
-/

namespace Migration

/-! ## Strict steps of a build -/

namespace Build

variable {α β : Type}

/-- The result of a step in a session, with the session after it. -/
def outcome (step : Build α) (session : Session) : Except BuildError (α × Session) :=
  match step session with
  | (.ok value, after) => .ok (value, after)
  | (.error error, _) => .error error

theorem outcome_bind (first : Build α) (next : α → Build β) (session : Session) :
    (first >>= next).outcome session =
      first.outcome session >>= fun (value, after) => (next value).outcome after := by
  unfold outcome
  rcases ran : first session with ⟨result, after⟩
  cases result with
  | error error => rw [Changelog.bind_run_error ran]; rfl
  | ok value => rw [Changelog.bind_run_ok ran]; rfl

theorem outcome_ofExcept (result : Except BuildError α) (session : Session) :
    (Build.ofExcept result).outcome session = result.map fun value => (value, session) := by
  cases result <;> rfl

theorem outcome_eq_ok {step : Build α} {session after : Session} {value : α} :
    step.outcome session = .ok (value, after) ↔ step session = (.ok value, after) := by
  unfold outcome
  rcases step session with ⟨result, later⟩
  constructor
  · cases result with
    | ok other =>
        intro same
        cases same
        rfl
    | error error => nofun
  · intro same
    cases same
    rfl

theorem outcome_ofExcept_bind (result : Except BuildError α) (next : α → Build β)
    (session : Session) : (Build.ofExcept result >>= next).outcome session =
      result >>= fun value => (next value).outcome session := by
  rw [outcome_bind]
  cases result <;> rfl

theorem outcome_site_bind (log : Changelog) (next : Site → Build β) (session : Session) :
    (Build.site log >>= next).outcome session = (next (log.siteIn session)).outcome session := by
  rw [outcome_bind]
  rfl

theorem outcome_refuseOpen_bind (path : String) (next : Unit → Build α) (session : Session) :
    (Build.refuseOpen path >>= next).outcome session =
      if session.openFiles.any (Path.same · path) then
        .error (.circularInclude path (session.openFiles ++ [path]))
      else (next ()).outcome session := by
  rw [outcome_bind]
  cases isOpen : session.openFiles.any (Path.same · path)
  · have passes : (Build.refuseOpen path).outcome session = .ok ((), session) := by
      simp only [outcome, Build.refuseOpen, isOpen]
      rfl
    rw [passes]
    rfl
  · have refused : (Build.refuseOpen path).outcome session =
        .error (.circularInclude path (session.openFiles ++ [path])) := by
      simp only [outcome, Build.refuseOpen, isOpen]
      rfl
    rw [refused]
    rfl

theorem outcome_opening (path : String) (body : Build α) (session : Session) :
    (Build.opening path body).outcome session =
      (body.outcome (session.opened path)).map fun result => (result.1, result.2.closed) := by
  unfold outcome
  rw [Changelog.opening_run]
  rcases body (session.opened path) with ⟨result, after⟩
  cases result <;> rfl

/-- Whether a strict step of a build filters a lax one, in every session. -/
def Filters (exact before : Prop) (strict lax : Build α) (good : α → Prop) : Prop :=
  ∀ session, Migration.Filters exact before (strict.outcome session) (lax.outcome session)
    fun result => good result.1

namespace Filters

variable {exact before : Prop} {strict lax : Build α} {good : α → Prop}

theorem bind {next other : α → Build β} {last : β → Prop}
    (first : Filters exact before strict lax good)
    (rest : ∀ value, Filters exact (good value) (next value) (other value) last) :
    Filters exact before (strict >>= next) (lax >>= other) last := by
  intro session
  rw [outcome_bind, outcome_bind]
  exact (first session).bind fun result _ => rest result.1 result.2

theorem ofExcept {strict lax : Except BuildError α}
    (first : Migration.Filters exact before strict lax good) :
    Filters exact before (Build.ofExcept strict) (Build.ofExcept lax) good := by
  intro session
  rw [outcome_ofExcept, outcome_ofExcept]
  exact first.map fun _ => Iff.rfl

/-- A result of a step without strictness, which is known in the steps behind it. -/
theorem known {result : Except BuildError α} {next other : α → Build β} {last : β → Prop}
    (rest : ∀ value, result = .ok value → Filters exact before (next value) (other value) last) :
    Filters exact before (Build.ofExcept result >>= next) (Build.ofExcept result >>= other)
      last := by
  intro session
  rw [outcome_bind, outcome_bind]
  refine (Migration.Filters.aside _).bind fun value ran => ?_
  rw [outcome_ofExcept] at ran
  obtain ⟨value, known, rfl⟩ := map_eq_ok.mp ran
  exact rest value known session

theorem aside (step : Build α) : Filters exact before step step fun _ => before :=
  fun _ => Migration.Filters.aside _

theorem given (first : before → Filters exact True strict lax good) :
    Filters exact before strict lax fun value => before ∧ good value :=
  fun session => Migration.Filters.given fun holds => first holds session

theorem done (value : α) (same : good value ↔ before) :
    Filters exact before (pure value) (pure value) good :=
  fun session => Migration.Filters.okOf (value, session) same

theorem congr {before' : Prop} (first : Filters exact before strict lax good)
    (same : before' ↔ before) : Filters exact before' strict lax good :=
  fun session => (first session).congr same fun _ => Iff.rfl

theorem error (error : BuildError) : Filters exact before (Build.ofExcept (.error error))
    (Build.ofExcept (.error error)) good :=
  ofExcept (.error error)

theorem opening (path : String) (first : Filters exact before strict lax good) :
    Filters exact before (Build.opening path strict) (Build.opening path lax) good := by
  intro session
  rw [outcome_opening, outcome_opening]
  exact (first (session.opened path)).map fun _ => Iff.rfl

end Filters

end Build

/-- Whether an item, if it declares a changeset, declares its preconditions once at most. -/
def Item.DeclaresOnce : Item Element → Prop
  | .text _ => True
  | .element e => e.name = "changeSet" → e.items.countP Changeset.isPreconditions ≤ 1

instance : DecidablePred Item.DeclaresOnce
  | .text _ => inferInstanceAs (Decidable True)
  | .element e => inferInstanceAs (Decidable (e.name = "changeSet" → _ ≤ 1))

/-- Whether no changeset of a script declares its preconditions twice. -/
def Script.DeclaresOnce (script : Script) : Prop :=
  ∀ root ∈ script.elements, ∀ item ∈ root.items, item.DeclaresOnce

instance (script : Script) : Decidable script.DeclaresOnce :=
  inferInstanceAs (Decidable (∀ root ∈ script.elements, ∀ item ∈ root.items, item.DeclaresOnce))

namespace Changelog

variable {exact : Prop} {goodChange : Change → Prop} {goodCheck : Check → Prop}
  {strict lax : Host} {log : Changelog}

/-! ## What changelogs hold -/

theorem holds_nothing {log : Changelog} (noChangesets : log.changesets = [])
    (noPreconditions : log.preconditions = none) : log.Holds goodChange goodCheck := by
  simp [Holds, noChangesets, noPreconditions]

theorem holds_addChangeset {own : Changeset} :
    Holds goodChange goodCheck { log with changesets := log.changesets ++ [own] } ↔
      log.Holds goodChange goodCheck ∧ own.Holds goodChange goodCheck := by
  simp only [Holds, List.forall_mem_append, List.forall_mem_singleton, and_assoc, and_comm]

theorem holds_add {own part : PreconditionContainer} :
    (own.add part.asPart).Holds goodCheck ↔ own.Holds goodCheck ∧ part.Holds goodCheck := by
  simp [PreconditionContainer.Holds, or_imp, forall_and]

theorem holds_addPreconditions {container : PreconditionContainer} :
    (log.addPreconditions container).Holds goodChange goodCheck ↔
      log.Holds goodChange goodCheck ∧ container.Holds goodCheck := by
  unfold addPreconditions Holds
  cases log.preconditions with
  | none => simp
  | some existing => simp [holds_add, and_assoc]

theorem holds_splice {child : Changelog} : (log.splice child).Holds goodChange goodCheck ↔
    log.Holds goodChange goodCheck ∧ child.Holds goodChange goodCheck := by
  have inherited (changeset : Changeset) :
      (child.inherit changeset).Holds goodChange goodCheck ↔
        changeset.Holds goodChange goodCheck := Iff.rfl
  have folded : (∀ container ∈ foldPreconditions log.preconditions child.preconditions,
        container.Holds goodCheck) ↔ (∀ container ∈ log.preconditions, container.Holds goodCheck) ∧
        ∀ container ∈ child.preconditions, container.Holds goodCheck := by
    unfold foldPreconditions
    cases child.preconditions with
    | none => simp
    | some included =>
        cases log.preconditions with
        | none =>
            have nothing : ({} : PreconditionContainer).Holds goodCheck := by
              simp [PreconditionContainer.Holds, PreconditionContainer.checks,
                Precondition.checksOf]
            simp [holds_add, nothing]
        | some existing => simp [holds_add]
  simp only [Holds, splice, List.forall_mem_append, List.forall_mem_map, inherited, folded,
    and_assoc, and_left_comm]

theorem holds_takeArguments {after : Changelog} {arguments : List (String × Value)}
    (taken : log.takeArguments arguments = .ok after) :
    log.Holds goodChange goodCheck ↔ after.Holds goodChange goodCheck := by
  obtain ⟨_, _, _, rfl⟩ := takeArguments_eq_ok taken
  exact Iff.rfl

/-! ## The functions of a build -/

section Functions

variable {strictLoad laxLoad : String → Build Changelog}

theorem attributes_append {site : Site} {schema more : Schema} {textParam : Option String}
    {e : Element} {given : Attributes} (accepted : site.attributes schema textParam e = .ok given) :
    site.attributes (schema ++ more) textParam e = .ok given := by
  unfold Site.attributes at accepted ⊢
  obtain ⟨call, called, accepted⟩ := bind_eq_ok.mp accepted
  refine bind_eq_ok.mpr ⟨call, called, ?_⟩
  split at accepted
  · exact accepted
  · exact Schema.check_append accepted
  · exact Schema.check_append accepted
  · cases accepted

/-- A host that knows of labels takes the inclusions that one takes which does not. -/
theorem includedFile_of_unlabelled {strict lax : Host} {site : Site} {e : Element}
    {inclusion : String × Inclusion} (unlabelled : strict.configuration.hostIncludeLabels = false)
    (labelled : lax.configuration.hostIncludeLabels = true)
    (included : includedFile strict site e = .ok inclusion) :
    includedFile lax site e = .ok inclusion := by
  have wider : includeSchema lax =
      includeSchema strict ++ (Schema.texts ["labels"] ++ Schema.bools ["ignore"]) := by
    rw [includeSchema, includeSchema, unlabelled, labelled]
    rfl
  have sameRequired : (includeSchema lax).required = (includeSchema strict).required := by
    rw [includeSchema, includeSchema, unlabelled, labelled]
    rfl
  obtain ⟨absent, noBlock, included⟩ := bind_eq_ok.mp included
  obtain ⟨given, called, included⟩ := bind_eq_ok.mp included
  refine bind_eq_ok.mpr ⟨absent, noBlock, bind_eq_ok.mpr ⟨given, ?_, ?_⟩⟩
  · rw [wider]
    exact attributes_append called
  · rw [Schema.checkRequired, sameRequired]
    exact included

/-- Labels of an inclusion may be refused, and any other inclusion is the same. -/
theorem filters_includedFile (narrower : Host.IsNarrower exact goodChange goodCheck strict lax)
    {before : Prop} (site : Site) (e : Element) : Filters exact before
      (includedFile strict site e) (includedFile lax site e) fun _ => before := by
  by_cases same : strict.configuration.hostIncludeLabels = lax.configuration.hostIncludeLabels
  · have sameSchema : includeSchema strict = includeSchema lax := by
      rw [includeSchema, includeSchema, same]
    rw [includedFile, includedFile, sameSchema]
    exact .aside _
  · obtain ⟨unlabelled, labelled⟩ : strict.configuration.hostIncludeLabels = false ∧
        lax.configuration.hostIncludeLabels = true := by
      have labels := narrower.labels
      revert same labels
      cases strict.configuration.hostIncludeLabels <;>
        cases lax.configuration.hostIncludeLabels <;> simp
    exact {
      passes := fun holds included =>
        ⟨includedFile_of_unlabelled unlabelled labelled included, holds⟩
      reflects := fun isExact => (same (narrower.policies isExact).2).elim }

theorem filters_includeFile
    (loads : ∀ target, Build.Filters exact True (strictLoad target) (laxLoad target)
      (Holds goodChange goodCheck)) (target : String) (inclusion : Inclusion) :
    Build.Filters exact (log.Holds goodChange goodCheck)
      (includeFile strictLoad log target inclusion) (includeFile laxLoad log target inclusion)
      (Holds goodChange goodCheck) := by
  unfold includeFile
  split
  · refine Build.Filters.bind (.given fun _ => loads target) fun child => ?_
    exact .done _ holds_splice
  · exact .error _

theorem filters_includeFiles
    (loads : ∀ target, Build.Filters exact True (strictLoad target) (laxLoad target)
      (Holds goodChange goodCheck)) (inclusion : Inclusion) (targets : List String) :
    Build.Filters exact (log.Holds goodChange goodCheck)
      (includeFiles strictLoad inclusion log targets) (includeFiles laxLoad inclusion log targets)
      (Holds goodChange goodCheck) := by
  induction targets generalizing log with
  | nil => exact .done _ Iff.rfl
  | cons target targets ih =>
      exact (filters_includeFile loads target inclusion).bind fun log => ih

theorem filters_takeElement (narrower : Host.IsNarrower exact goodChange goodCheck strict lax)
    (loads : ∀ target, Build.Filters exact True (strictLoad target) (laxLoad target)
      (Holds goodChange goodCheck)) {e : Element}
    (once : exact → e.name = "changeSet" → e.items.countP Changeset.isPreconditions ≤ 1) :
    Build.Filters exact (log.Holds goodChange goodCheck) (takeElement strict strictLoad log e)
      (takeElement lax laxLoad log e) (Holds goodChange goodCheck) := by
  refine (Build.Filters.aside (Build.site log)).bind fun site => ?_
  dsimp only
  split
  · rename_i named
    have own := Migration.Filters.given fun good : log.Holds goodChange goodCheck =>
      Changeset.filters_ofElement narrower good site.properties fun isExact => once isExact named
    refine (Build.Filters.ofExcept own).bind fun read => ?_
    refine (Build.Filters.aside (Build.warn read.2)).bind fun _ => ?_
    exact .done _ holds_addChangeset
  split
  · refine Build.Filters.bind (.ofExcept (filters_includedFile narrower site e)) fun read => ?_
    exact filters_includeFile loads read.1 read.2
  obtain ⟨flag, _, _, rfl⟩ := narrower.same
  split
  · exact .known fun read _ => filters_includeFiles loads read.2 read.1
  split
  · refine .known fun properties _ => ?_
    exact (Build.Filters.aside (Build.addProperties properties)).bind fun _ => .done _ Iff.rfl
  split
  · refine Build.Filters.bind (.ofExcept (.given fun _ => ?_)) fun read =>
      .done _ holds_addPreconditions
    exact PreconditionContainer.filters_ofElement (narrower.checks site) e
  · exact .error _

theorem filters_takeItems (narrower : Host.IsNarrower exact goodChange goodCheck strict lax)
    (loads : ∀ target, Build.Filters exact True (strictLoad target) (laxLoad target)
      (Holds goodChange goodCheck)) (line : Nat) {items : List (Item Element)}
    (once : exact → ∀ item ∈ items, item.DeclaresOnce) :
    Build.Filters exact (log.Holds goodChange goodCheck)
      (takeItems strict strictLoad line log items) (takeItems lax laxLoad line log items)
      (Holds goodChange goodCheck) := by
  induction items generalizing log with
  | nil => exact .done _ Iff.rfl
  | cons item items ih =>
      cases item with
      | text s => exact .error _
      | element e =>
          refine Build.Filters.bind (filters_takeElement narrower loads
            fun isExact => once isExact (.element e) List.mem_cons_self) fun log => ?_
          exact ih fun isExact other member => once isExact other (List.mem_cons_of_mem _ member)

theorem filters_takeRoots (narrower : Host.IsNarrower exact goodChange goodCheck strict lax)
    (loads : ∀ target, Build.Filters exact True (strictLoad target) (laxLoad target)
      (Holds goodChange goodCheck)) {roots : List Element}
    (once : exact → (Script.mk roots).DeclaresOnce) :
    Build.Filters exact (log.Holds goodChange goodCheck) (takeRoots strict strictLoad log roots)
      (takeRoots lax laxLoad log roots) (Holds goodChange goodCheck) := by
  induction roots generalizing log with
  | nil => exact .done _ Iff.rfl
  | cons e roots ih =>
      unfold takeRoots
      split
      · refine (Build.Filters.aside (Build.site log)).bind fun site => ?_
        refine .known fun arguments _ => .known fun start taken => ?_
        have block : Build.Filters exact (start.Holds goodChange goodCheck) _ _ _ :=
          filters_takeItems narrower loads e.line fun isExact => once isExact e List.mem_cons_self
        refine (block.congr (holds_takeArguments taken)).bind fun log => ih fun isExact => ?_
        exact fun root member => once isExact root (List.mem_cons_of_mem e member)
      · exact .error _

theorem filters_buildScript (narrower : Host.IsNarrower exact goodChange goodCheck strict lax)
    (loads : ∀ target, Build.Filters exact True (strictLoad target) (laxLoad target)
      (Holds goodChange goodCheck)) {path : String} {source : Option String}
    (arguments : List (String × Value))
    (once : exact → ∀ script, readScript lax (Path.normalize path) source = .ok script →
      script.DeclaresOnce) :
    Build.Filters exact True (buildScript strict strictLoad path source arguments)
      (buildScript lax laxLoad path source arguments) (Holds goodChange goodCheck) := by
  obtain ⟨flag, _, _, rfl⟩ := narrower.same
  refine (Build.Filters.aside (Build.refuseOpen _)).bind fun _ => ?_
  refine .known fun script read => .opening _ (.known fun start taken => ?_)
  have nothing : start.Holds goodChange goodCheck :=
    (holds_takeArguments taken).mp (holds_nothing rfl rfl)
  have roots : Build.Filters exact (start.Holds goodChange goodCheck) _ _ _ :=
    filters_takeRoots narrower loads fun isExact => once isExact script read
  exact roots.congr (iff_of_true trivial nothing)

end Functions

theorem filters_load (narrower : Host.IsNarrower exact goodChange goodCheck strict lax)
    (once : exact → ∀ path script, readScript lax path none = .ok script → script.DeclaresOnce)
    (depth : Nat) (target : String) :
    Build.Filters exact True (load strict depth target) (load lax depth target)
      (Holds goodChange goodCheck) := by
  induction depth generalizing target with
  | zero =>
      intro session
      exact .error _
  | succ depth ih =>
      exact filters_buildScript narrower ih [] fun isExact => once isExact (Path.normalize target)

theorem build_eq_map (host : Host) (path : String) (source : Option String)
    (arguments : List (String × Value)) : build host path source arguments =
      ((buildScript host (load host host.store.depth) path source arguments).outcome
        (startSession host)).map fun result => finish result.2 result.1 := by
  rw [build_eq]
  unfold Build.outcome
  rcases buildScript host (load host host.store.depth) path source arguments (startSession host)
    with ⟨result, last⟩
  cases result <;> rfl

/-- A build by a narrower host gives what the other one gives, as far as all is good that it holds,
and nothing else.  No good result is lost, if the policies are the same and no changeset declares
preconditions that are replaced later on. -/
theorem filters_build_of_isNarrower
    (narrower : Host.IsNarrower exact goodChange goodCheck strict lax) {path : String}
    {source : Option String} (arguments : List (String × Value))
    (onceRoot : exact → ∀ script, readScript lax (Path.normalize path) source = .ok script →
      script.DeclaresOnce)
    (once : exact → ∀ path script, readScript lax path none = .ok script → script.DeclaresOnce) :
    Filters exact True (build strict path source arguments) (build lax path source arguments)
      (Holds goodChange goodCheck) := by
  have script := filters_buildScript narrower
    (filters_load narrower once lax.store.depth) arguments onceRoot
  obtain ⟨flag, _, _, rfl⟩ := narrower.same
  rw [build_eq_map, build_eq_map]
  exact (script (startSession lax)).map fun _ => Iff.rfl

/-- A build that is strict about single changes and checks gives what the lax build gives, as far as
all is good that it holds, and nothing else.  No good result is lost, if no changeset declares
preconditions that are replaced later on. -/
theorem filters_build (stricter : Host.IsStricter exact goodChange goodCheck strict lax)
    {path : String} {source : Option String} (arguments : List (String × Value))
    (onceRoot : exact → ∀ script, readScript lax (Path.normalize path) source = .ok script →
      script.DeclaresOnce)
    (once : exact → ∀ path script, readScript lax path none = .ok script → script.DeclaresOnce) :
    Filters exact True (build strict path source arguments) (build lax path source arguments)
      (Holds goodChange goodCheck) :=
  filters_build_of_isNarrower stricter.isNarrower arguments onceRoot once

end Changelog

end Migration
