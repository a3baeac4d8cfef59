import Migration.Proofs.Build.Circle
import Migration.Proofs.Build.Moved

/-!
# Directories

To include a directory is to include its files one after the other, in the order in which they are
listed.  The one difference is when contexts, labels and the flag to ignore are evaluated: those of
a directory once, those of an inclusion of a file when it is reached.  The main statement,
`takeElement_includeAll`, holds where this makes no difference; `not_takeElement_includeAll` shows
where it does.
-/

namespace Migration

/-! ## Arguments that both kinds of inclusion have -/

/-- Whether an attribute tells how files are included, and not which. -/
def tellsHow (name : String) : Bool :=
  name ∈ ["context", "labels", "ignore"]

def Argument.tellsHow (argument : Argument) : Bool :=
  argument.key.any Migration.tellsHow

/-- The inclusion of a file in the way in which an element includes a directory. -/
def Element.including (all : Element) (file : String) : Element where
  name := "include"
  arguments := ⟨some "file", .str file⟩ :: all.arguments.filter (·.tellsHow)
  block := none
  line := all.line

namespace Site

variable {site other : Site} {e : Element} {arguments : List (String × Value)}

/-- Arguments that are picked by their names have the values that they have among the others. -/
theorem resolveNamed_filter (keep : String → Bool) (e : Element) {all : Element}
    {taken before : List String} {written : List Argument} {given : List (String × Value)}
    (known : ∀ key ∈ taken, keep key → key ∈ before)
    (alike : ∀ argument ∈ written, argument.key.any keep →
      other.resolve argument.value = site.resolve argument.value)
    (resolved : site.resolveNamed all before written = .ok given) :
    other.resolveNamed e taken (written.filter fun argument => argument.key.any keep) =
      .ok (given.filter fun argument => keep argument.1) := by
  induction written generalizing taken before given with
  | nil =>
      cases resolved
      rfl
  | cons argument written ih =>
      obtain ⟨here, later⟩ := List.forall_mem_cons.mp alike
      obtain ⟨key, literal⟩ := argument
      cases key with
      | none => exact ih known later resolved
      | some key =>
          rw [resolveNamed] at resolved
          split at resolved
          · cases resolved
          rename_i fresh
          obtain ⟨value, found, resolved⟩ := bind_eq_ok.mp resolved
          obtain ⟨values, rest, resolved⟩ := bind_eq_ok.mp resolved
          cases resolved
          cases kept : keep key with
          | false =>
              simp only [List.filter_cons, Option.any_some, kept, Bool.false_eq_true, ↓reduceIte]
              exact ih (fun name member keeps => .tail key (known name member keeps)) later rest
          | true =>
              simp only [List.filter_cons, Option.any_some, kept, ↓reduceIte]
              rw [resolveNamed, if_neg fun member => fresh (known key member kept)]
              refine bind_eq_ok.mpr ⟨value, (here kept).trans found, ?_⟩
              refine bind_eq_ok.mpr ⟨_, ih ?_ later rest, rfl⟩
              rintro name (_ | ⟨_, member⟩) keeps
              · exact .head before
              · exact .tail key (known name member keeps)

/-- Arguments that an element has are named ones. -/
theorem namedArguments_eq_ok (called : site.namedArguments e = .ok arguments) :
    site.resolveNamed e [] e.arguments = .ok arguments := by
  obtain ⟨call, found, called⟩ := bind_eq_ok.mp called
  unfold Site.call at found
  split at found
  · rename_i isEmpty
    cases found
    cases called
    rw [List.isEmpty_iff.mp isEmpty]
    rfl
  split at found
  · cases found
  split at found
  · obtain ⟨values, resolved, rfl⟩ := map_eq_ok.mp found
    cases called
    exact resolved
  · obtain ⟨values, -, rfl⟩ := map_eq_ok.mp found
    cases called

end Site

/-- A schema that declares picked attributes in the same way accepts picked arguments, with the same
values. -/
theorem Schema.addArguments_filter (keep : String → Bool) {schema other : Schema}
    (declares : ∀ name, keep name → other.find? name = schema.find? name)
    {element : String} {changeset : Option String} {before start : Attributes}
    (same : ∀ name, keep name → start.get? name = before.get? name)
    {arguments : List (String × Value)} {given : Attributes}
    (accepted : schema.addArguments element changeset before arguments = .ok given)
    (also : String) (place : Option String) :
    ∃ kept, other.addArguments also place start
        (arguments.filter fun argument => keep argument.1) = .ok kept ∧
      (∀ name, keep name → kept.get? name = given.get? name) ∧
      ∀ name, ¬ keep name → kept.get? name = start.get? name := by
  induction arguments generalizing before start with
  | nil =>
      cases accepted
      exact ⟨start, rfl, same, fun _ _ => rfl⟩
  | cons argument arguments ih =>
      rw [addArguments] at accepted
      split at accepted
      case h_2 => cases accepted
      rename_i value converted
      cases kept : keep argument.1 with
      | false =>
          simp only [List.filter_cons, kept, Bool.false_eq_true, ↓reduceIte]
          refine ih (fun name keeps => ?_) accepted
          rw [NameMap.get?_insert, if_neg (by rintro rfl; simp [kept] at keeps), same name keeps]
      | true =>
          have converted' : other.convert also place argument = .ok value := by
            unfold convert at converted ⊢
            rw [declares _ kept]
            split at converted
            · exact converted
            · cases converted
          have alike : ∀ name, keep name → (start.insert argument.1 value).get? name =
              (before.insert argument.1 value).get? name := by
            intro name keeps
            rw [NameMap.get?_insert, NameMap.get?_insert, same name keeps]
          obtain ⟨last, accepted, keeps, leaves⟩ := ih alike accepted
          refine ⟨last, ?_, keeps, fun name skips => ?_⟩
          · simp only [List.filter_cons, kept, ↓reduceIte, addArguments, converted', accepted]
          · rw [leaves name skips, NameMap.get?_insert, if_neg]
            rintro rfl
            exact skips kept

namespace Changelog

variable {host : Host}

/-! ## One file of a directory -/

/-- The paths that the directory of an element lists, as the listing has them. -/
def listedFiles (host : Host) (site : Site) (all : Element) : Except BuildError (List String) := do
  let arguments ← site.namedArguments all
  let given ← includeAllSchema.check "includeAll" none arguments
  let accepts ← plugin host.catalog.filter (given.text? "filter")
  let compare ← plugin host.catalog.comparator (given.text? "resourceComparator")
  Listing.list host.store host.configuration.relativePathFixup site.path
    ((given.flag? "relativeToChangelogFile").getD false) ((given.text? "path").getD "") true
    { accepts, compare, demanded := (given.flag? "errorIfMissingOrEmpty").getD true }

/-- The files that are included are the listed ones. -/
theorem listedFiles_of_includedFiles {site : Site} {all : Element} {targets : List String}
    {inclusion : Inclusion} (accepted : includedFiles host site all = .ok (targets, inclusion)) :
    ∃ listed, listedFiles host site all = .ok listed ∧ targets = listed.map Path.normalize := by
  obtain ⟨-, arguments, given, accepts, compare, listed, called, -, checked, -, -, isFilter,
    isComparator, isList, rfl, -⟩ := includedFiles_eq_ok.mp accepted
  refine ⟨listed, ?_, rfl⟩
  refine bind_eq_ok.mpr ⟨arguments, called, bind_eq_ok.mpr ⟨given, checked, ?_⟩⟩
  exact bind_eq_ok.mpr ⟨accepts, isFilter, bind_eq_ok.mpr ⟨compare, isComparator, isList⟩⟩

theorem find?_includeSchema (labelled : host.configuration.hostIncludeLabels = true) (name : String)
    (shared : tellsHow name) :
    (includeSchema host).find? name = includeAllSchema.find? name := by
  rw [includeSchema, if_pos labelled]
  simp only [tellsHow, List.mem_cons, List.not_mem_nil, or_false, decide_eq_true_eq] at shared
  obtain rfl | rfl | rfl := shared <;> rfl

/-- A file of a directory is found, and is included as the directory is, wherever the arguments
that tell how have the same values. -/
theorem includedFile_including (labelled : host.configuration.hostIncludeLabels = true)
    {first site : Site} {all : Element} {targets : List String} {inclusion : Inclusion}
    (accepted : includedFiles host first all = .ok (targets, inclusion))
    (steady : ∀ argument ∈ all.arguments, argument.tellsHow →
      site.resolve argument.value = first.resolve argument.value)
    {file : String} (plain : ¬ Property.opening <:+: file.toList) :
    includedFile host site (all.including file) = .ok (Path.normalize file, inclusion) := by
  obtain ⟨-, arguments, given, accepts, compare, listed, called, -, checked, -, -, -, -, -, -,
    rfl⟩ := includedFiles_eq_ok.mp accepted
  have resolved : site.resolveNamed (all.including file) [] (all.including file).arguments =
      .ok (("file", .text file) :: arguments.filter fun argument => tellsHow argument.1) := by
    have known : ∀ key ∈ ["file"], tellsHow key → key ∈ [] := by decide
    have rest := Site.resolveNamed_filter tellsHow (all.including file) known steady
      (Site.namedArguments_eq_ok called)
    have text : site.resolve (.str file) = .ok (.text file) := by
      rw [Site.resolve, Site.expand, PropertyTable.expand_of_not_infix _ plain]
    rw [Element.including, Site.resolveNamed, if_neg List.not_mem_nil]
    exact bind_eq_ok.mpr ⟨_, text, bind_eq_ok.mpr ⟨_, rest, rfl⟩⟩
  have called : site.call (all.including file) =
      .ok (.named (
        ("file", .text file) :: arguments.filter fun argument => tellsHow argument.1)) := by
    have noBare : (all.including file).hasPositional = false := by
      simp only [Element.hasPositional, Element.including, List.any_cons, List.any_filter]
      simp only [Bool.or_eq_false_iff, List.any_eq_false]
      refine ⟨rfl, fun argument _ => ?_⟩
      cases found : argument.key <;> simp [Argument.tellsHow, found]
    have hasNamed : (all.including file).hasNamed = true := rfl
    have nonempty : (all.including file).arguments.isEmpty = false := rfl
    rw [Site.call, nonempty, noBare, hasNamed, resolved]
    rfl
  have start : ∀ name, tellsHow name →
      (NameMap.empty.insert "file" (.text file) : Attributes).get? name =
        (NameMap.empty : Attributes).get? name := by
    intro name keeps
    rw [NameMap.get?_insert, if_neg (by rintro rfl; cases keeps)]
  obtain ⟨kept, accepted, keeps, leaves⟩ := Schema.addArguments_filter tellsHow
    (find?_includeSchema labelled) start checked "include" site.changeset
  have attributes : site.attributes (includeSchema host) (some "file") (all.including file) =
      .ok kept := by
    rw [Site.attributes, called]
    exact accepted
  have isFile : kept.text? "file" = some file := by
    rw [Attributes.text?, leaves "file" (by decide)]
    rfl
  have isRelative : kept.flag? "relativeToChangelogFile" = none := by
    rw [Attributes.flag?, leaves _ (by decide)]
    rfl
  have same : inclusionOf kept = inclusionOf given := by
    simp only [inclusionOf, Attributes.text?, Attributes.flag?, keeps "context" rfl,
      keeps "labels" rfl, keeps "ignore" rfl]
  have complete := checkRequired_includeSchema host (has_of_text? isFile)
  have noBlock : withoutBlock (all.including file) = .ok () := rfl
  simp only [includedFile, noBlock, attributes, complete, isFile, isRelative, same, bind,
    Except.bind]
  rfl

/-! ## The files of a directory -/

section Files

variable {load : String → Build Changelog} {inclusion : Inclusion} {all : Element}

theorem takeElement_of_includedFile (load : String → Build Changelog) {log : Changelog}
    {session : Session} {e : Element} {target : String} (named : e.name = "include")
    (found : includedFile host (log.siteIn session) e = .ok (target, inclusion)) :
    takeElement host load log e session = includeFile load log target inclusion session := by
  rw [takeElement, bind_run_site, if_neg (by simp [named]), if_pos named,
    bind_run_ofExcept_ok found]

theorem takeElement_of_includedFiles {log : Changelog} {session : Session} {e : Element}
    {targets : List String} (named : e.name = "includeAll")
    (found : includedFiles host (log.siteIn session) e = .ok (targets, inclusion)) :
    takeElement host load log e session = includeFiles load inclusion log targets session := by
  rw [takeElement, bind_run_site, if_neg (by simp [named]), if_neg (by simp [named]), if_pos named,
    bind_run_ofExcept_ok found]

/-- Whether the arguments of an element that tell how files are included have the values that they
have at a first site whenever one of some files is reached. -/
def StaysSteady (load : String → Build Changelog) (inclusion : Inclusion) (all : Element)
    (first : Site) (log : Changelog) (targets : List String) (session : Session) : Prop :=
  ∀ front target back after later, targets = front ++ target :: back →
    includeFiles load inclusion log front session = (.ok after, later) →
    ∀ argument ∈ all.arguments, argument.tellsHow →
      (after.siteIn later).resolve argument.value = first.resolve argument.value

namespace StaysSteady

variable {first : Site} {log after : Changelog} {target : String} {targets : List String}
  {session later : Session}

theorem head (steady : StaysSteady load inclusion all first log (target :: targets) session) :
    ∀ argument ∈ all.arguments, argument.tellsHow →
      (log.siteIn session).resolve argument.value = first.resolve argument.value :=
  steady [] target targets log session rfl rfl

theorem tail (steady : StaysSteady load inclusion all first log (target :: targets) session)
    (included : includeFile load log target inclusion session = (.ok after, later)) :
    StaysSteady load inclusion all first after targets later := by
  rintro front other back last final rfl ran
  exact steady (target :: front) other back last final rfl ((bind_run_ok included).trans ran)

/-- Texts in which no token begins, truth values and numbers have the same values everywhere. -/
theorem of_constant (constant : ∀ argument ∈ all.arguments, argument.tellsHow →
      ∃ value, ∀ site : Site, site.resolve argument.value = .ok value) :
    StaysSteady load inclusion all first log targets session := by
  intro front target back after later _ _ argument member shared
  obtain ⟨value, always⟩ := constant argument member shared
  rw [always, always]

end StaysSteady

/-- The files of a directory are included as the elements include them that name them. -/
theorem includeFiles_eq_takeItems (labelled : host.configuration.hostIncludeLabels = true)
    {first : Site} {targets : List String}
    (accepted : includedFiles host first all = .ok (targets, inclusion)) (line : Nat)
    {listed : List String} (plain : ∀ file ∈ listed, ¬ Property.opening <:+: file.toList)
    {log : Changelog} {session : Session}
    (steady : StaysSteady load inclusion all first log (listed.map Path.normalize) session) :
    includeFiles load inclusion log (listed.map Path.normalize) session =
      takeItems host load line log (listed.map fun file => .element (all.including file))
        session := by
  induction listed generalizing log session with
  | nil => rfl
  | cons file listed ih =>
      obtain ⟨here, later⟩ := List.forall_mem_cons.mp plain
      have found := includedFile_including labelled accepted steady.head here
      have step := takeElement_of_includedFile load rfl found
      rw [List.map_cons, List.map_cons, includeFiles, takeItems]
      cases included : includeFile load log (Path.normalize file) inclusion session with
      | mk result after =>
          cases result with
          | error error => rw [bind_run_error included, bind_run_error (step.trans included)]
          | ok next =>
              rw [bind_run_ok included, bind_run_ok (step.trans included)]
              exact ih later (steady.tail included)

/-- Including a directory has the outcome of including, in the order of the listing, each listed
file with the same context, labels and flag to ignore, if these have the same values whenever a
file is reached. -/
theorem takeElement_includeAll (labelled : host.configuration.hostIncludeLabels = true)
    (load : String → Build Changelog) {log : Changelog} {session : Session}
    (named : all.name = "includeAll") {targets listed : List String}
    (accepted : includedFiles host (log.siteIn session) all = .ok (targets, inclusion))
    (lists : listedFiles host (log.siteIn session) all = .ok listed)
    (plain : ∀ file ∈ listed, ¬ Property.opening <:+: file.toList)
    (steady : StaysSteady load inclusion all (log.siteIn session) log targets session)
    (line : Nat) :
    takeElement host load log all session =
      takeItems host load line log (listed.map fun file => .element (all.including file))
        session := by
  obtain ⟨_, found, rfl⟩ := listedFiles_of_includedFiles accepted
  obtain rfl := Except.ok.inj (lists.symm.trans found)
  rw [takeElement_of_includedFiles named accepted]
  exact includeFiles_eq_takeItems labelled accepted line plain steady

end Files

/-! ## A directory whose first file declares a property -/

/-- The inclusion of a directory with a context. -/
def directoryElement (context : String) : Element where
  name := "includeAll"
  arguments := [⟨some "path", .str "d"⟩, ⟨some "context", .str context⟩]
  block := none
  line := 1

def directoryHost : Host :=
  .ofMemory {} .builtin (.ofList [
    ("d/a.qcl", r"databaseChangeLog { property(name: 'c', value: 'x') " ++
      r"changeSet(id: '1', author: 'm') { } }"),
    ("d/b.qcl", r"databaseChangeLog { changeSet(id: '2', author: 'm') { } }")])

/-- The contexts that changesets inherit, if a build succeeds. -/
def inheritedContexts (outcome : Except BuildError Changelog × Session) :
    Option (List (List ContextExpression)) :=
  outcome.1.toOption.map fun log => log.changesets.map (·.inheritedContexts)

/-- The changelog that includes the directory, before it does. -/
def directoryLog : Changelog := { physicalPath := "main.qcl" }

def directorySession : Session := { properties := {} }

/-- What the inclusion of the directory with a context gives. -/
def directoryOutcome (context : String) : Except BuildError Changelog × Session :=
  takeElement directoryHost (load directoryHost directoryHost.store.depth) directoryLog
    (directoryElement context) directorySession

/-- What the inclusions of its files with that context give. -/
def filesOutcome (context : String) : Except BuildError Changelog × Session :=
  takeItems directoryHost (load directoryHost directoryHost.store.depth) 1 directoryLog
    (["d/a.qcl", "d/b.qcl"].map fun file => .element ((directoryElement context).including file))
    directorySession

/-- Both files are found, whatever the context. -/
theorem includedFiles_directoryElement : ∀ context ∈ ["k", "${c}"],
    (∃ inclusion, includedFiles directoryHost (directoryLog.siteIn directorySession)
      (directoryElement context) = .ok (["d/a.qcl", "d/b.qcl"], inclusion)) ∧
    listedFiles directoryHost (directoryLog.siteIn directorySession) (directoryElement context) =
      .ok ["d/a.qcl", "d/b.qcl"] := by
  have evaluated : ∀ context ∈ ["k", "${c}"],
      (includedFiles directoryHost (directoryLog.siteIn directorySession)
        (directoryElement context)).toOption.map (·.1) = some ["d/a.qcl", "d/b.qcl"] ∧
      (listedFiles directoryHost (directoryLog.siteIn directorySession)
        (directoryElement context)).toOption = some ["d/a.qcl", "d/b.qcl"] := by
    decide +kernel
  intro context member
  obtain ⟨accepted, lists⟩ := evaluated context member
  obtain ⟨⟨targets, inclusion⟩, included, rfl⟩ := exists_ok_of_toOption accepted
  exact ⟨⟨inclusion, included⟩, eq_ok_of_toOption lists⟩

/-- With a constant context, both changesets inherit it, as they do from single inclusions. -/
theorem takeElement_directoryElement :
    directoryOutcome "k" = filesOutcome "k" ∧
      inheritedContexts (directoryOutcome "k") = some [[⟨"k"⟩], [⟨"k"⟩]] := by
  obtain ⟨⟨inclusion, accepted⟩, lists⟩ := includedFiles_directoryElement "k" (by decide)
  refine ⟨?_, by decide +kernel⟩
  refine takeElement_includeAll rfl (load directoryHost directoryHost.store.depth) rfl accepted
    lists (by decide +kernel) (.of_constant fun argument member shared => ?_) 1
  obtain rfl | rfl :
      argument = ⟨some "path", .str "d"⟩ ∨ argument = ⟨some "context", .str "k"⟩ := by
    simpa [directoryElement] using member
  · cases shared
  · refine ⟨.text "k", fun site => ?_⟩
    rw [Site.resolve, Site.expand, PropertyTable.expand_of_not_infix _ (by decide +kernel)]

/-- Where the context is a token, and the first file declares its property, the second file
inherits another context if it is included by itself. -/
theorem not_takeElement_includeAll :
    ¬ ∀ (host : Host) (load : String → Build Changelog) (log : Changelog) (session : Session)
        (all : Element) (targets listed : List String) (inclusion : Inclusion) (line : Nat),
      host.configuration.hostIncludeLabels = true → all.name = "includeAll" →
      includedFiles host (log.siteIn session) all = .ok (targets, inclusion) →
      listedFiles host (log.siteIn session) all = .ok listed →
      (∀ file ∈ listed, ¬ Property.opening <:+: file.toList) →
      takeElement host load log all session =
        takeItems host load line log (listed.map fun file => .element (all.including file))
          session := by
  intro claimed
  obtain ⟨⟨inclusion, accepted⟩, lists⟩ :=
    includedFiles_directoryElement "${c}" (by decide)
  have same : directoryOutcome "${c}" = filesOutcome "${c}" :=
    claimed directoryHost (load directoryHost directoryHost.store.depth) directoryLog
      directorySession (directoryElement "${c}") _ _ inclusion 1 rfl rfl accepted lists
      (by decide +kernel)
  have directory : inheritedContexts (directoryOutcome "${c}") =
      some [[⟨"${c}"⟩], [⟨"${c}"⟩]] := by
    decide +kernel
  have files : inheritedContexts (filesOutcome "${c}") =
      some [[⟨"${c}"⟩], [⟨"x"⟩]] := by
    decide +kernel
  rw [same, files] at directory
  exact absurd directory (by decide)

end Changelog

end Migration
