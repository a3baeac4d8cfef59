import Migration.Declaration.Change
import Migration.Declaration.Precondition
import Migration.Declaration.SqlEdit

/-!
# Declared changesets

A `changeSet` element holds changes, and elements that say how they are undone, what is checked
before, and how their SQL is edited. It is read with the changelog as far as it has been built,
because a rollback may refer to the changesets there.
-/

namespace Migration.Changeset

open Schema (texts bools needed)

/-! ## Arguments -/

def schema : Schema :=
  needed (texts ["id", "author"]) ++ texts ["dbms"] ++ bools ["runAlways", "runOnChange"] ++
    texts ["context", "labels"] ++ bools ["runInTransaction", "failOnError"] ++
    texts ["onValidationFail", "objectQuotingStrategy", "logicalFilePath", "filePath", "created",
      "runOrder"] ++
    bools ["ignore"]

/-- The changeset with some attributes in a changelog, before its block is read. -/
def ofAttributes (log : Changelog) (given : Attributes) : Except BuildError Changeset := do
  let quoting ←
    match given.text? "objectQuotingStrategy" with
    | some raw => oneOf "objectQuotingStrategy" raw QuotingStrategy.all
    | none => .ok (log.quoting.getD .legacy)
  let onValidationFail ←
    match given.text? "onValidationFail" with
    | some raw => oneOf "onValidationFail" raw ValidationFailOption.all
    | none => .ok .halt
  let ownPath := (given.text? "filePath").or (given.text? "logicalFilePath")
  return {
    id := (given.text? "id").getD ""
    author := (given.text? "author").getD ""
    filePath := ownPath.getD log.filePath
    changelogPath := log.physicalPath
    alwaysRun := (given.flag? "runAlways").getD false
    runOnChange := (given.flag? "runOnChange").getD false
    runInTransaction := (given.flag? "runInTransaction").getD true
    contexts := (given.text? "context").map .ofText
    labels := (given.text? "labels").map .ofText
    dbms := Text.names ((given.text? "dbms").getD "")
    failOnError := given.flag? "failOnError"
    onValidationFail, quoting
    created := given.text? "created"
    runOrder := given.text? "runOrder"
    ignore := (given.flag? "ignore").getD false }

/-- The changeset with some arguments in a changelog, before its block is read. -/
def ofArguments (log : Changelog) (arguments : List (String × Value)) :
    Except BuildError Changeset := do
  if arguments.any (·.1 = "alwaysRun") then
    .error (.violation .alwaysRun none)
  let given ← schema.check "changeSet" none arguments
  schema.checkRequired "changeSet" none given
  ofAttributes log given

/-! ## Rollback -/

/-- A changeset with a declared change among those that undo it. -/
def undoneBy (host : Host) (site : Site) (changeset : Changeset) (e : Element) :
    Except BuildError (Changeset × List Warning) := do
  let (change, warnings) ← Change.ofElement host site changeset.id e
  return ({ changeset with rollback := changeset.rollback ++ [change] }, warnings)

/-- Takes the block of a rollback: changes, and perhaps a text at the end, which is SQL. -/
def takeRollbackItems (host : Host) (site : Site) (changeset : Changeset) :
    List (Item Element) → Except BuildError (Changeset × List Warning)
  | [] => .ok (changeset, [])
  | [.text sql] => .ok (changeset.addRollbackSql (site.expand sql), [])
  | .text _ :: _ :: _ => site.violation .rollbackTextBeforeEnd
  | .element e :: items =>
      if e.name = "rollback" then site.violation .nestedRollback
      else do
        let (changeset, warnings) ← undoneBy host site changeset e
        let (changeset, further) ← takeRollbackItems host site changeset items
        return (changeset, warnings ++ further)

/-- The arguments of a rollback that were renamed, and their names now. -/
def renamedArguments : List (String × String) :=
  [("id", "changeSetId"), ("author", "changeSetAuthor")]

def referenceSchema : Schema :=
  texts ["changeSetId", "changeSetAuthor", "changeSetPath"]

/-- The changeset that a rollback with some arguments refers to: the first in the changelog that
has the given identity. Its path and author are those of the referring changelog and changeset
where they are not given. -/
def referredBy (host : Host) (site : Site) (log : Changelog) (changeset : Changeset)
    (arguments : List (String × Value)) : Except BuildError Changeset := do
  let renamed? := arguments.findSome? fun argument =>
    renamedArguments.find? fun pair => pair.1 = argument.1
  match renamed? with
  | some (old, new) => site.violation (.rollbackAttribute old new)
  | none =>
      let given ← referenceSchema.check "rollback" site.changeset arguments
      match given.text? "changeSetId" with
      | none => .error (.rollbackMissingId changeset.id)
      | some id =>
          let author ←
            match given.text? "changeSetAuthor" with
            | some author => .ok author
            | none =>
                if host.configuration.strictRollbackReferences then
                  .error (.missingAttribute "rollback" "changeSetAuthor" site.changeset)
                else .ok changeset.author
          let path := (given.text? "changeSetPath").getD log.filePath
          match log.find? path author id with
          | some target => .ok target
          | none => .error (.rollbackImpossible path author id)

/-- Takes a `rollback` element: nothing, a piece of SQL, a block, or a reference to a changeset
whose changes undo this one. -/
def takeRollback (host : Host) (site : Site) (log : Changelog) (changeset : Changeset)
    (e : Element) : Except BuildError (Changeset × List Warning) := do
  match ← site.call e with
  | .empty => takeRollbackItems host site changeset e.items
  | .positional values =>
      match values, e.block with
      | [value], none =>
          match value.plain? with
          | some sql => return (changeset.addRollbackSql sql, [])
          | none => return (changeset, [])
      | _, _ => site.violation .rollbackForm
  | .named arguments =>
      if e.block.isSome then site.violation .rollbackReferenceWithBlock
      else
        let target ← referredBy host site log changeset arguments
        return ({ changeset with rollback := changeset.rollback ++ target.changes }, [])

/-! ## Blocks -/

/-- Takes an element of the block of a changeset. What is no part with a name of its own is a
change. -/
def takeElement (host : Host) (site : Site) (log : Changelog) (changeset : Changeset)
    (e : Element) : Except BuildError (Changeset × List Warning) :=
  if e.name = "comment" then do
    let text ← site.textContent e
    return ({ changeset with comments := some text }, [])
  else if e.name = "validCheckSum" then do
    let text ← site.textContent e
    return ({ changeset with validChecksums := changeset.validChecksums ++ [text] }, [])
  else if e.name = "preConditions" then do
    let container ← PreconditionContainer.ofElement host site e
    return ({ changeset with preconditions := some container }, [])
  else if e.name = "rollback" then takeRollback host site log changeset e
  else if e.name = "modifySql" then do
    let edits ← ScopedSqlEdit.ofElement host.isPattern site e
    return ({ changeset with sqlEdits := changeset.sqlEdits ++ edits }, [])
  else do
    let (change, warnings) ← Change.ofElement host site changeset.id e
    return ({ changeset with changes := changeset.changes ++ [change] }, warnings)

/-- Takes the block of a changeset, and collects the warnings about its changes in order. -/
def takeItems (host : Host) (site : Site) (log : Changelog) (changeset : Changeset) :
    List (Item Element) → Except BuildError (Changeset × List Warning)
  | [] => .ok (changeset, [])
  | .text _ :: _ => site.violation .textInChangeset
  | .element e :: items => do
      let (changeset, warnings) ← takeElement host site log changeset e
      let (changeset, further) ← takeItems host site log changeset items
      return (changeset, warnings ++ further)

/-- The changeset that an element declares in a changelog, and warnings about its changes. -/
def ofElement (host : Host) (properties : PropertyTable) (log : Changelog) (e : Element) :
    Except BuildError (Changeset × List Warning) := do
  let site : Site := { properties, path := log.physicalPath }
  let arguments ← site.namedArguments e
  let changeset ← ofArguments log arguments
  takeItems host { site with changeset := some changeset.id } log changeset e.items

end Migration.Changeset
