import Migration.Changelog.Session
import Migration.Declaration.Changeset
import Migration.Listing
import Migration.Property.File
import Migration.Script.Grammar

/-!
# Building changelogs

A changelog is built from its script, one element after the other. An included script is built with
the same session, and its changesets take the place of the inclusion.
-/

namespace Migration

open Schema (texts bools needed)

namespace Changelog

/-! ## The root element -/

def schema : Schema :=
  texts ["logicalFilePath", "context", "objectQuotingStrategy"]

/-- A changelog with some arguments. What is not given stays as it is. -/
def takeArguments (log : Changelog) (arguments : List (String × Value)) :
    Except BuildError Changelog := do
  let given ← schema.check "databaseChangeLog" none arguments
  let quoting ←
    match given.text? "objectQuotingStrategy" with
    | some raw => (oneOf "objectQuotingStrategy" raw QuotingStrategy.all).map some
    | none => .ok log.quoting
  return {
    log with
    logicalPath := (given.text? "logicalFilePath").or log.logicalPath
    contexts := ((given.text? "context").map .ofText).or log.contexts
    quoting }

/-- Refuses a block where none belongs. -/
def withoutBlock (e : Element) : Except BuildError Unit :=
  if e.block.isSome then .error (.violation (.unwantedBlock e.name e.line) none) else .ok ()

/-! ## Properties -/

def propertySchema : Schema :=
  texts ["name", "value", "context", "labels", "dbms"] ++ bools ["global"] ++ texts ["file"]

def propertyScope (given : Attributes) : PropertyScope where
  contexts := (given.text? "context").map .ofText
  labels := (given.text? "labels").map .ofText
  dbms := Text.names ((given.text? "dbms").getD "")
  isGlobal := (given.flag? "global").getD true

/-- The properties that a `property` element declares, one of its own or those of a file. -/
def declaredProperties (host : Host) (site : Site) (e : Element) :
    Except BuildError (List Property) := do
  withoutBlock e
  let given ← site.attributes propertySchema none e
  let declare (pair : String × String) : Property :=
    { name := pair.1, value := pair.2, changelog := site.path, scope := propertyScope given }
  match given.text? "file", given.text? "name" with
  | some _, some _ => .error (.violation .propertyFileAndName none)
  | some file, none =>
      let text ← host.store.text file
      return (Property.parseFile text).map declare
  | none, some name =>
      match given.text? "value" with
      | some value => return [declare (name, value)]
      | none => .error (.missingAttribute "property" "value" none)
  | none, none => .error (.violation .propertyWithoutName none)

/-! ## Inclusions -/

def inclusionOf (given : Attributes) : Inclusion where
  contexts := (given.text? "context").map .ofText
  labels := (given.text? "labels").map .ofText
  ignore := (given.flag? "ignore").getD false

/-- The arguments of `include`; a host may not know of labels and of ignoring. -/
def includeSchema (host : Host) : Schema :=
  needed (texts ["file"]) ++ bools ["relativeToChangelogFile"] ++ texts ["context"] ++
    if host.configuration.hostIncludeLabels then texts ["labels"] ++ bools ["ignore"] else []

def includeAllSchema : Schema :=
  needed (texts ["path"]) ++ bools ["relativeToChangelogFile", "errorIfMissingOrEmpty"] ++
    texts ["resourceComparator", "filter", "context", "labels"] ++ bools ["ignore"]

/-- The file that an `include` element names, and how it is included. -/
def includedFile (host : Host) (site : Site) (e : Element) :
    Except BuildError (String × Inclusion) := do
  withoutBlock e
  let given ← site.attributes (includeSchema host) (some "file") e
  (includeSchema host).checkRequired "include" none given
  let file := (given.text? "file").getD ""
  let relative := (given.flag? "relativeToChangelogFile").getD false
  return (if relative then Path.relativeTo site.path file else Path.normalize file,
    inclusionOf given)

/-- The plug-in that an attribute names, if it is given. -/
def plugin {α : Type} (lookUp : String → Except BuildError α) (name : Option String) :
    Except BuildError (Option α) :=
  match name with
  | some name => (lookUp name).map some
  | none => .ok none

/-- The files that an `includeAll` element stands for, and how they are included. -/
def includedFiles (host : Host) (site : Site) (e : Element) :
    Except BuildError (List String × Inclusion) := do
  withoutBlock e
  let arguments ← site.namedArguments e
  if arguments.any (·.1 = "resourceFilter") then
    .error (.violation .resourceFilter none)
  let given ← includeAllSchema.check "includeAll" none arguments
  includeAllSchema.checkRequired "includeAll" none given
  let directory := (given.text? "path").getD ""
  if Property.hasToken directory then
    .error (.unresolvedPath directory)
  let accepts ← plugin host.catalog.filter (given.text? "filter")
  let compare ← plugin host.catalog.comparator (given.text? "resourceComparator")
  let files ←
    Listing.list host.store host.configuration.relativePathFixup site.path
      ((given.flag? "relativeToChangelogFile").getD false) directory true
      { accepts, compare, demanded := (given.flag? "errorIfMissingOrEmpty").getD true }
  return (files.map Path.normalize, inclusionOf given)

/-- Builds a script with `load` and splices it into the changelog. -/
def includeFile (load : String → Build Changelog) (log : Changelog) (target : String)
    (inclusion : Inclusion) : Build Changelog :=
  if Path.isScript target then do
    let child ← load target
    return log.splice { child with inclusion }
  else .ofExcept (.error (.resource target .notScript))

/-- Includes files one after the other. -/
def includeFiles (load : String → Build Changelog) (inclusion : Inclusion) :
    Changelog → List String → Build Changelog
  | log, [] => pure log
  | log, target :: targets => do
      let log ← includeFile load log target inclusion
      includeFiles load inclusion log targets

/-! ## Elements -/

/-- A changelog with one more container of preconditions, which is a part of the one it has. -/
def addPreconditions (log : Changelog) (container : PreconditionContainer) : Changelog :=
  { log with
    preconditions :=
      match log.preconditions with
      | some existing => some (existing.add container.asPart)
      | none => some container }

/-- Takes an element of the block of a changelog. Included scripts are built with `load`. -/
def takeElement (host : Host) (load : String → Build Changelog) (log : Changelog) (e : Element) :
    Build Changelog := do
  let site ← Build.site log
  if e.name = "changeSet" then
    let (changeset, warnings) ← Build.ofExcept (Changeset.ofElement host site.properties log e)
    Build.warn warnings
    return { log with changesets := log.changesets ++ [changeset] }
  else if e.name = "include" then
    let (target, inclusion) ← Build.ofExcept (includedFile host site e)
    includeFile load log target inclusion
  else if e.name = "includeAll" then
    let (targets, inclusion) ← Build.ofExcept (includedFiles host site e)
    includeFiles load inclusion log targets
  else if e.name = "property" then
    let properties ← Build.ofExcept (declaredProperties host site e)
    Build.addProperties properties
    return log
  else if e.name = "preConditions" then
    let container ← Build.ofExcept (PreconditionContainer.ofElement host site e)
    return log.addPreconditions container
  else Build.ofExcept (.error (.unknownElement e.name "databaseChangeLog"))

/-- Takes the block of the root element on a line. -/
def takeItems (host : Host) (load : String → Build Changelog) (line : Nat) :
    Changelog → List (Item Element) → Build Changelog
  | log, [] => pure log
  | _, .text _ :: _ => .ofExcept (.error (.violation (.textInLog line) none))
  | log, .element e :: items => do
      let log ← takeElement host load log e
      takeItems host load line log items

/-- Takes the elements of a script, all of which are root elements. -/
def takeRoots (host : Host) (load : String → Build Changelog) :
    Changelog → List Element → Build Changelog
  | log, [] => pure log
  | log, e :: roots =>
      if e.name = "databaseChangeLog" then do
        let site ← Build.site log
        let arguments ← Build.ofExcept (site.namedArguments e)
        let log ← Build.ofExcept (log.takeArguments arguments)
        let log ← takeItems host load e.line log e.items
        takeRoots host load log roots
      else .ofExcept (.error (.unknownElement e.name "a changelog script"))

/-! ## Scripts -/

/-- Reads a script, from its file or from a text that stands for it. -/
def readScript (host : Host) (path : String) (source : Option String) :
    Except BuildError Script := do
  let text ←
    match source with
    | some text => .ok text
    | none => host.store.text path
  (Script.parse text).mapError (.malformed path)

/-- Builds the script at a path. Included scripts are built with `load`. -/
def buildScript (host : Host) (load : String → Build Changelog) (path : String)
    (source : Option String) (arguments : List (String × Value)) : Build Changelog := do
  let path := Path.normalize path
  Build.refuseOpen path
  let script ← Build.ofExcept (readScript host path source)
  Build.opening path do
    let log ← Build.ofExcept (takeArguments { physicalPath := path } arguments)
    takeRoots host load log script.elements

/-- Builds an included script. No more scripts than `depth` can include one another in a row. -/
def load (host : Host) : (depth : Nat) → String → Build Changelog
  | 0, path => fun session =>
      (.error (.circularInclude path (session.openFiles ++ [path])), session)
  | depth + 1, path => buildScript host (load host depth) path none []

/-- Builds the changelog at a path, or from a text that stands for its script. The arguments go
before those that the script gives itself. -/
def build (host : Host) (path : String) (source : Option String)
    (arguments : List (String × Value)) : Except BuildError Changelog :=
  let properties : PropertyTable :=
    { environment := host.configuration.environment
      maxPasses := host.configuration.maxExpansionPasses }
  let (result, session) :=
    buildScript host (load host host.store.depth) path source arguments { properties }
  result.map fun log =>
    { log with properties := session.properties, warnings := session.warnings }

end Changelog

end Migration
