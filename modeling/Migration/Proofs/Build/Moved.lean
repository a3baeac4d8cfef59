import Migration.Proofs.Build.Machine
import Migration.Proofs.Declaration.Moved

/-!
# Steps of a build in another directory

An element that names files from where its changelog is does the same after all files have been
moved into a directory.  The main statements are `enter_moved`, about a script that is entered, and
`Task.Advances.moved`, about a task that is done: each gives the same changelog as before, in which
only the paths of files have gained the directory in front.
-/

namespace Migration

/-! ## Moved states -/

def Session.moved (directory : String) (session : Session) : Session :=
  { session with
    properties := session.properties.moved directory
    openFiles := session.openFiles.map (directory ++ ·) }

theorem Session.opened_moved (directory path : String) (session : Session) :
    (session.opened path).moved directory = (session.moved directory).opened (directory ++ path) := by
  simp [moved, opened]

theorem Session.closed_moved (directory : String) (session : Session) :
    session.closed.moved directory = (session.moved directory).closed := by
  simp [moved, closed, List.map_dropLast]

/-- A session in which more properties are declared. -/
theorem Session.declared_moved (directory : String) (session : Session)
    (declared : List Property) :
    ({ session with properties :=
        { session.properties with entries := session.properties.entries ++ declared } } :
          Session).moved directory =
      { session.moved directory with properties :=
        { (session.moved directory).properties with
          entries := (session.moved directory).properties.entries ++
            declared.map (Property.moved directory) } } := by
  simp [moved, PropertyTable.moved]

namespace Changelog

/-- A moved changelog.  The marks say which changesets are where the file of their changelog is. -/
def moved (directory : String) (marks : List Bool) (log : Changelog) : Changelog :=
  { log with
    physicalPath := directory ++ log.physicalPath
    changesets := List.zipWith (Changeset.moved directory) marks log.changesets
    properties := log.properties.moved directory }

def Task.moved (directory : String) : Task → Task
  | .file target inclusion => .file (directory ++ target) inclusion
  | task => task

/-! ## Elements that name files from where they are -/

/-- Whether an element names files as seen from its changelog and from nowhere else, in a directory
that stays inside, and no changeset by its path. -/
structure IsPortable (host : Host) (site : Site) (e : Element) : Prop where
  included : e.name = "include" → ∀ given,
    site.attributes (includeSchema host) (some "file") e = .ok given →
      given.flag? "relativeToChangelogFile" = some true
  listed : e.name = "includeAll" → ∀ arguments, site.namedArguments e = .ok arguments →
    ∀ given, includeAllSchema.check "includeAll" none arguments = .ok given →
      given.flag? "relativeToChangelogFile" = some true ∧
        Path.IsInside (Path.parent site.path ++ Path.asDirectory ((given.text? "path").getD ""))
  declared : e.name = "property" → ∀ given,
    site.attributes propertySchema none e = .ok given → given.text? "file" = none
  undone : e.name = "changeSet" → ∀ item ∈ e.items, Changeset.RefersToNone item

instance (host : Host) (site : Site) (e : Element) : Decidable (IsPortable host site e) :=
  decidable_of_iff (_ ∧ _ ∧ _ ∧ _)
    ⟨fun ⟨included, listed, declared, undone⟩ => ⟨included, listed, declared, undone⟩,
      fun ⟨included, listed, declared, undone⟩ => ⟨included, listed, declared, undone⟩⟩

/-! ## Plug-ins that look at no directory -/

theorem plugins_builtin : Catalog.builtin.plugins =
    (NameMap.empty.insert "lexical" (.comparator lexical)).insert "reverse"
      (.comparator reversed) := by
  have changes (kinds : List ChangeKind) (catalog : Catalog) :
      (kinds.foldl Catalog.addChange catalog).plugins = catalog.plugins := by
    induction kinds generalizing catalog with
    | nil => rfl
    | cons kind kinds ih => exact ih _
  have preconditions (kinds : List PreconditionKind) (catalog : Catalog) :
      (kinds.foldl Catalog.addPrecondition catalog).plugins = catalog.plugins := by
    induction kinds generalizing catalog with
    | nil => rfl
    | cons kind kinds ih => exact ih _
  simp only [Catalog.builtin, Catalog.extend, List.foldl_cons, List.foldl_nil, Catalog.addPlugin,
    changes, preconditions]

theorem plugin_builtin {name : String} {plugin : Plugin}
    (found : Catalog.builtin.plugins.get? name = some plugin) :
    plugin = .comparator lexical ∨ plugin = .comparator reversed := by
  rw [plugins_builtin, NameMap.get?_insert, NameMap.get?_insert, NameMap.get?_empty] at found
  split at found
  · exact .inr (Option.some.inj found).symm
  split at found
  · exact .inl (Option.some.inj found).symm
  · cases found

/-- There are no filters without extensions. -/
theorem plugin_filter {catalog : Catalog} (builtin : catalog.plugins = Catalog.builtin.plugins)
    {name : Option String} {accepts : Option (String → Bool)}
    (found : plugin catalog.filter name = .ok accepts) : accepts = none := by
  cases name with
  | none =>
      cases found
      rfl
  | some name =>
      obtain ⟨known, found, -⟩ := map_eq_ok.mp found
      unfold Catalog.filter at found
      rw [builtin] at found
      split at found
      · rename_i isFilter
        rcases plugin_builtin isFilter with same | same <;> cases same
      · cases found
      · cases found

/-- The comparators without extensions look at what follows a common front. -/
theorem plugin_comparator {catalog : Catalog}
    (builtin : catalog.plugins = Catalog.builtin.plugins) {name : Option String}
    {compare : Option (String → String → Ordering)}
    (found : plugin catalog.comparator name = .ok compare) (front : String) :
    ∀ compare' ∈ compare, ∀ a b, compare' (front ++ a) (front ++ b) = compare' a b := by
  rintro known isKnown a b
  cases name with
  | none =>
      cases found
      cases isKnown
  | some name =>
      obtain ⟨own, isOwn, rfl⟩ := map_eq_ok.mp found
      cases isKnown
      unfold Catalog.comparator at isOwn
      rw [builtin] at isOwn
      split at isOwn
      · rename_i isComparator
        cases isOwn
        rcases plugin_builtin isComparator with same | same
        · cases same
          exact lexical_append front a b
        · cases same
          exact lexical_append front b a
      · cases isOwn
      · cases isOwn

section Elements

variable {configuration : Configuration} {catalog : Catalog} {files : MemoryStore}
  {isPattern : String → Bool}
  {directory : String} {site other : Site} {e : Element}

/-- An included file moves with the changelog that names it. -/
theorem includedFile_moved (isDirectory : Path.IsDirectory directory) (agrees : site.Agrees other)
    (path : other.path = directory ++ site.path)
    (unmarked : ¬ Path.virtualRoot.isPrefixOf site.path.toList)
    (relative : ∀ given,
      site.attributes (includeSchema (.ofMemory configuration catalog files isPattern))
        (some "file") e = .ok given → given.flag? "relativeToChangelogFile" = some true)
    {target : String} {inclusion : Inclusion}
    (found : includedFile (.ofMemory configuration catalog files isPattern) site e =
      .ok (target, inclusion))
    (plain : Path.IsPlain target) :
    includedFile (.ofMemory configuration catalog (files.moved directory) isPattern) other e =
      .ok (directory ++ target, inclusion) := by
  obtain ⟨nothing, noBlock, found⟩ := bind_eq_ok.mp found
  obtain ⟨given, called, found⟩ := bind_eq_ok.mp found
  obtain ⟨done, required, found⟩ := bind_eq_ok.mp found
  have flag := relative given called
  obtain ⟨isTarget, isInclusion⟩ := Prod.mk.inj (Except.ok.inj found)
  simp only [flag, Option.getD_some, if_true] at isTarget
  rw [← isTarget] at plain
  have moved := Path.relativeTo_append isDirectory unmarked (Path.IsPlain.of_normalize plain)
  rw [isTarget] at moved
  refine bind_eq_ok.mpr ⟨nothing, noBlock, bind_eq_ok.mpr ⟨given,
    (agrees.attributes _ _ (.refl e) _).mp called, bind_eq_ok.mpr ⟨done, required, ?_⟩⟩⟩
  simp only [flag, path, moved, Option.getD_some, if_true, isInclusion]
  rfl

/-- What is known of a directory that is included. -/
theorem includedFiles_eq_ok {host : Host} {targets : List String} {inclusion : Inclusion} :
    includedFiles host site e = .ok (targets, inclusion) ↔
      withoutBlock e = .ok () ∧ ∃ arguments given accepts compare listed,
        site.namedArguments e = .ok arguments ∧
        ¬ arguments.any (·.1 = "resourceFilter") ∧
        includeAllSchema.check "includeAll" none arguments = .ok given ∧
        includeAllSchema.checkRequired "includeAll" none given = .ok () ∧
        ¬ Property.hasToken ((given.text? "path").getD "") ∧
        plugin host.catalog.filter (given.text? "filter") = .ok accepts ∧
        plugin host.catalog.comparator (given.text? "resourceComparator") = .ok compare ∧
        Listing.list host.store host.configuration.relativePathFixup site.path
          ((given.flag? "relativeToChangelogFile").getD false) ((given.text? "path").getD "") true
          { accepts, compare, demanded := (given.flag? "errorIfMissingOrEmpty").getD true } =
            .ok listed ∧
        targets = listed.map Path.normalize ∧ inclusion = inclusionOf given := by
  constructor
  · intro found
    simp only [includedFiles] at found
    obtain ⟨_, noBlock, found⟩ := bind_eq_ok.mp found
    obtain ⟨arguments, called, found⟩ := bind_eq_ok.mp found
    split at found
    · cases found
    rename_i noResourceFilter
    obtain ⟨given, checked, found⟩ := bind_eq_ok.mp found
    obtain ⟨_, required, found⟩ := bind_eq_ok.mp found
    split at found
    · cases found
    rename_i noToken
    obtain ⟨accepts, isFilter, found⟩ := bind_eq_ok.mp found
    obtain ⟨compare, isComparator, found⟩ := bind_eq_ok.mp found
    obtain ⟨listed, isList, found⟩ := bind_eq_ok.mp found
    obtain ⟨rfl, rfl⟩ := Prod.mk.inj (Except.ok.inj found)
    exact ⟨noBlock, arguments, given, accepts, compare, listed, called, noResourceFilter, checked,
      required, noToken, isFilter, isComparator, isList, rfl, rfl⟩
  · rintro ⟨noBlock, arguments, given, accepts, compare, listed, called, noResourceFilter, checked,
      required, noToken, isFilter, isComparator, isList, rfl, rfl⟩
    simp only [includedFiles]
    refine bind_eq_ok.mpr ⟨(), noBlock, bind_eq_ok.mpr ⟨arguments, called, ?_⟩⟩
    rw [if_neg noResourceFilter]
    refine bind_eq_ok.mpr ⟨given, checked, bind_eq_ok.mpr ⟨(), required, ?_⟩⟩
    rw [if_neg noToken]
    exact bind_eq_ok.mpr ⟨accepts, isFilter, bind_eq_ok.mpr ⟨compare, isComparator,
      bind_eq_ok.mpr ⟨listed, isList, rfl⟩⟩⟩

/-- The files of a listed directory move with the changelog that names it. -/
theorem includedFiles_moved (isDirectory : Path.IsDirectory directory)
    (agrees : site.Agrees other) (path : other.path = directory ++ site.path)
    (unmarked : ¬ Path.virtualRoot.isPrefixOf site.path.toList)
    (builtin : catalog.plugins = Catalog.builtin.plugins) (plain : files.IsPlain)
    (named : ∀ key ∈ files.contents.keys, Path.isBareExtension key = false)
    (relative : ∀ arguments, site.namedArguments e = .ok arguments →
      ∀ given, includeAllSchema.check "includeAll" none arguments = .ok given →
        given.flag? "relativeToChangelogFile" = some true ∧
          Path.IsInside (Path.parent site.path ++ Path.asDirectory ((given.text? "path").getD "")))
    {targets : List String} {inclusion : Inclusion}
    (found : includedFiles (.ofMemory configuration catalog files isPattern) site e =
      .ok (targets, inclusion)) :
    includedFiles (.ofMemory configuration catalog (files.moved directory) isPattern) other e =
      .ok (targets.map (directory ++ ·), inclusion) := by
  obtain ⟨noBlock, arguments, given, accepts, compare, listed, called, noResourceFilter, checked,
    required, noToken, isFilter, isComparator, isList, rfl, rfl⟩ := includedFiles_eq_ok.mp found
  obtain ⟨flag, inside⟩ := relative arguments called given checked
  have noFilter := plugin_filter builtin isFilter
  have keeps := plugin_comparator builtin isComparator directory
  have moved := Listing.list_moved isDirectory unmarked inside named
    { accepts, compare, demanded := (given.flag? "errorIfMissingOrEmpty").getD true } noFilter keeps
    configuration.relativePathFixup true
  rw [flag] at isList
  have isFile := Listing.mem_of_list_eq_ok inside isList
  have normalized : (listed.map (directory ++ ·)).map Path.normalize =
      (listed.map Path.normalize).map (directory ++ ·) := by
    simp only [List.map_map]
    refine List.map_congr_left fun script member => ?_
    exact Path.normalize_append isDirectory (plain script (isFile script member)).1
  rw [← normalized]
  refine includedFiles_eq_ok.mpr ⟨noBlock, arguments, given, accepts, compare, _,
    (agrees.namedArguments e _).mp called, noResourceFilter, checked, required, noToken, isFilter,
    isComparator, ?_, rfl, rfl⟩
  rw [flag, path]
  exact moved.trans (congrArg (Except.map _) isList)

/-- Properties that are declared in the script itself move with its changelog. -/
theorem declaredProperties_moved {host : Host} (store : Store) (agrees : site.Agrees other)
    (path : other.path = directory ++ site.path)
    (noFile : ∀ given, site.attributes propertySchema none e = .ok given →
      given.text? "file" = none) {declared : List Property}
    (found : declaredProperties host site e = .ok declared) :
    declaredProperties { host with store } other e =
      .ok (declared.map (Property.moved directory)) := by
  obtain ⟨nothing, noBlock, found⟩ := bind_eq_ok.mp found
  obtain ⟨given, called, found⟩ := bind_eq_ok.mp found
  refine bind_eq_ok.mpr ⟨nothing, noBlock,
    bind_eq_ok.mpr ⟨given, (agrees.attributes _ _ (.refl e) _).mp called, ?_⟩⟩
  rw [noFile given called] at found ⊢
  cases named : given.text? "name" with
  | none =>
      rw [named] at found
      cases found
  | some name =>
      rw [named] at found
      cases valued : given.text? "value" with
      | none =>
          simp only [valued] at found
          cases found
      | some value =>
          simp only [valued] at found ⊢
          cases found
          rw [path]
          rfl

end Elements

/-! ## Changelogs -/

theorem takeArguments_moved {directory : String} {marks : List Bool} {log after : Changelog}
    {arguments : List (String × Value)} (taken : log.takeArguments arguments = .ok after) :
    (log.moved directory marks).takeArguments arguments = .ok (after.moved directory marks) := by
  simp only [takeArguments] at taken ⊢
  obtain ⟨given, checked, taken⟩ := bind_eq_ok.mp taken
  refine bind_eq_ok.mpr ⟨given, checked, ?_⟩
  split at taken
  · obtain ⟨quoting, isQuoting, taken⟩ := bind_eq_ok.mp taken
    cases taken
    exact bind_eq_ok.mpr ⟨quoting, isQuoting, rfl⟩
  · cases taken
    rfl

/-- One more changeset of a moved changelog. -/
theorem addChangeset_moved {directory : String} {marks : List Bool} {log : Changelog}
    (all : marks.length = log.changesets.length) (mark : Bool) (own : Changeset) :
    { log.moved directory marks with
      changesets := (log.moved directory marks).changesets ++ [own.moved directory mark] } =
      moved directory (marks ++ [mark]) { log with changesets := log.changesets ++ [own] } := by
  simp [moved, List.zipWith_append all]

/-- What a moved changelog takes from another one. -/
theorem splice_moved {directory : String} {marks more : List Bool} {log child : Changelog}
    (all : marks.length = log.changesets.length) :
    (log.moved directory marks).splice (child.moved directory more) =
      (log.splice child).moved directory (marks ++ more) := by
  have inherited : (List.zipWith (Changeset.moved directory) more child.changesets).map
        (child.moved directory more).inherit =
      List.zipWith (Changeset.moved directory) more (child.changesets.map child.inherit) := by
    rw [List.map_zipWith, List.zipWith_map_right]
    rfl
  have joined : List.zipWith (Changeset.moved directory) (marks ++ more)
        (log.changesets ++ child.changesets.map child.inherit) =
      List.zipWith (Changeset.moved directory) marks log.changesets ++
        (List.zipWith (Changeset.moved directory) more child.changesets).map
          (child.moved directory more).inherit := by
    rw [List.zipWith_append all, inherited]
  exact congrArg (fun changesets => ({ log.splice child with
    physicalPath := directory ++ log.physicalPath
    changesets
    properties := log.properties.moved directory } : Changelog)) joined.symm

/-! ## Scripts -/

section Scripts

variable {configuration : Configuration} {catalog : Catalog} {files : MemoryStore}
  {isPattern : String → Bool}
  {directory : String}

/-- A script that can be read is a file. -/
theorem isPlain_of_readScript (plain : files.IsPlain) {path : String} {script : Script}
    (read : readScript (.ofMemory configuration catalog files isPattern) path none = .ok script) :
    Path.IsPlain path := by
  obtain ⟨text, isText, -⟩ := bind_eq_ok.mp read
  simp only [Store.text, Host.ofMemory, MemoryStore.toStore, MemoryStore.read] at isText
  split at isText
  · rename_i content present
    exact Path.IsPlain.of_normalize (plain _ (NameMap.mem_keys_of_get? present)).1
  · cases isText

theorem readScript_moved (isDirectory : Path.IsDirectory directory) (plain : files.IsPlain)
    {path : String} {script : Script}
    (read : readScript (.ofMemory configuration catalog files isPattern) path none = .ok script) :
    readScript (.ofMemory configuration catalog (files.moved directory) isPattern)
      (directory ++ path) none = .ok script := by
  have here := isPlain_of_readScript plain read
  obtain ⟨text, isText, parsed⟩ := bind_eq_ok.mp read
  have content : files.read path = .ok text := mapError_eq_ok.mp isText
  rw [← MemoryStore.read_moved isDirectory here] at content
  exact bind_eq_ok.mpr ⟨text, mapError_eq_ok.mpr content,
    mapError_eq_ok.mpr (mapError_eq_ok.mp parsed)⟩

/-- A moved script is entered as it was before. -/
theorem enter_moved (isDirectory : Path.IsDirectory directory) (plain : files.IsPlain)
    {path : String} {arguments : List (String × Value)} {session : Session} {log : Changelog}
    {tasks : List Task}
    (entry : enter (.ofMemory configuration catalog files isPattern) path none arguments session =
      .ok (log, tasks)) :
    Path.IsPlain path ∧ enter (.ofMemory configuration catalog (files.moved directory) isPattern)
        (directory ++ path) none arguments (session.moved directory) =
      .ok (log.moved directory [], tasks.map (Task.moved directory)) := by
  obtain ⟨fresh, taken, script, read, rfl⟩ := enter_eq_ok entry
  have here := Path.IsPlain.of_normalize (isPlain_of_readScript plain read)
  have moved := @takeArguments_moved directory [] _ _ _ taken
  have read' := readScript_moved isDirectory plain read
  have fresh' : (session.moved directory).openFiles.any
      (Path.same · (directory ++ Path.normalize path)) = false := by
    simpa [Session.moved, Path.same_append] using fresh
  rw [← Path.normalize_append isDirectory here] at read' fresh'
  have start : ({ physicalPath := Path.normalize path } : Changelog).moved directory [] =
      { physicalPath := Path.normalize (directory ++ path) } := by
    rw [Path.normalize_append isDirectory here]
    rfl
  rw [start] at moved
  refine ⟨here, (enter_of_readScript fresh' read' moved).trans ?_⟩
  rw [List.map_map]
  rfl

end Scripts

/-! ## Steps -/

/-- The mark of the changeset that a task declares, if it declares one: whether it is where the file
of its changelog is. -/
def Task.marks (log : Changelog) (session : Session) : Task → List Bool
  | .item _ (.element e) =>
      if e.name = "changeSet" then [Changeset.takesPhysicalPath session.properties log e] else []
  | _ => []

section Steps

variable {configuration : Configuration} {catalog : Catalog} {files : MemoryStore}
  {isPattern : String → Bool}
  {directory : String} {log after : Changelog} {session later : Session} {task : Task}
  {more : List Task} {marks : List Bool}

/-- A task declares as many changesets as it has marks. -/
theorem Task.Advances.length_changesets {host : Host}
    (step : Task.Advances host log session task after more later) :
    after.changesets.length = log.changesets.length + (task.marks log session).length := by
  cases step with
  | root isRoot given taken =>
      obtain ⟨_, _, _, rfl⟩ := takeArguments_eq_ok taken
      rfl
  | changeset isChangeset => simp [Task.marks, isChangeset]
  | inclusion isOther | inclusions isOther | properties isOther | preconditions isOther =>
      simp [Task.marks, isOther, addPreconditions]

/-- A task of a moved changelog does what it did before. -/
theorem Task.Advances.moved
    (step : Task.Advances (.ofMemory configuration catalog files isPattern) log session task after
      more later)
    (isDirectory : Path.IsDirectory directory) (builtin : catalog.plugins = Catalog.builtin.plugins)
    (plain : files.IsPlain)
    (named : ∀ key ∈ files.contents.keys, Path.isBareExtension key = false)
    (unmarked : ¬ Path.virtualRoot.isPrefixOf log.physicalPath.toList)
    (all : marks.length = log.changesets.length)
    (portable : ∀ line e, task = .item line (.element e) →
      IsPortable (.ofMemory configuration catalog files isPattern) (log.siteIn session) e)
    (targets : ∀ target inclusion, Task.file target inclusion ∈ more → Path.IsPlain target) :
    Task.Advances (.ofMemory configuration catalog (files.moved directory) isPattern)
      (log.moved directory marks) (session.moved directory) (task.moved directory)
      (after.moved directory (marks ++ task.marks log session)) (more.map (Task.moved directory))
      (later.moved directory) := by
  have agrees : (log.siteIn session).Agrees
      ((log.moved directory marks).siteIn (session.moved directory)) :=
    Site.agrees_moved directory session.properties log.physicalPath none
  have noMark {line : Nat} {e : Element} (other : e.name ≠ "changeSet") :
      Task.marks log session (.item line (.element e)) = [] := if_neg other
  cases step with
  | @root e arguments _ isRoot given taken =>
      have noMark : Task.marks log session (.root e) = [] := rfl
      rw [noMark, List.append_nil, List.map_map]
      exact .root isRoot ((agrees.namedArguments _ _).mp given) (takeArguments_moved taken)
  | @changeset line e own warnings isChangeset built =>
      have moved := @Changeset.ofElement_moved _ _ _ (log.moved directory marks) _ _ _
        (files.moved directory).toStore directory rfl rfl rfl
        ((portable line e rfl).undone isChangeset) built
      rw [Task.marks, if_pos isChangeset, ← addChangeset_moved all]
      exact .changeset isChangeset moved
  | @inclusion line e target inclusion isInclude found =>
      have moved := includedFile_moved isDirectory agrees rfl unmarked
        ((portable line e rfl).included isInclude) found
        (targets target inclusion List.mem_cons_self)
      rw [noMark (by simp [isInclude]), List.append_nil]
      exact .inclusion isInclude moved
  | @inclusions line e files' inclusion isIncludeAll found =>
      have moved := includedFiles_moved isDirectory agrees rfl unmarked builtin plain named
        ((portable line e rfl).listed isIncludeAll) found
      have tasks : (files'.map fun target => Task.file target inclusion).map
            (Task.moved directory) =
          (files'.map (directory ++ ·)).map fun target => Task.file target inclusion := by
        rw [List.map_map, List.map_map]
        rfl
      rw [noMark (by simp [isIncludeAll]), List.append_nil, tasks]
      exact .inclusions isIncludeAll moved
  | @properties line e declared isProperty found =>
      have moved := declaredProperties_moved (files.moved directory).toStore agrees rfl
        ((portable line e rfl).declared isProperty) found
      rw [noMark (by simp [isProperty]), List.append_nil, Session.declared_moved]
      exact .properties isProperty moved
  | @preconditions line e container isPreconditions found =>
      have moved := (agrees.container _ (files.moved directory).toStore (.refl e) _).mp found
      rw [noMark (by simp [isPreconditions]), List.append_nil]
      exact .preconditions isPreconditions moved

end Steps

end Changelog

end Migration
