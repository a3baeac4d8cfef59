import Migration.Change
import Migration.Filter.Labels
import Migration.Path
import Migration.Precondition

/-!
# Changesets

A changeset is what is run as a whole, and once. The path of its changelog, its author and its id
identify it.
-/

namespace Migration

/-- Which names of database objects are quoted. -/
inductive QuotingStrategy where
  | legacy
  | allObjects
  | reservedWords
  deriving DecidableEq, Inhabited

def QuotingStrategy.name : QuotingStrategy → String
  | .legacy => "LEGACY"
  | .allObjects => "QUOTE_ALL_OBJECTS"
  | .reservedWords => "QUOTE_ONLY_RESERVED_WORDS"

def QuotingStrategy.all : List (String × QuotingStrategy) :=
  [QuotingStrategy.legacy, .allObjects, .reservedWords].map fun strategy =>
    (strategy.name, strategy)

/-- What happens when a changeset is found invalid. -/
inductive ValidationFailOption where
  | halt
  | markRan
  deriving DecidableEq, Inhabited

def ValidationFailOption.name : ValidationFailOption → String
  | .halt => "HALT"
  | .markRan => "MARK_RAN"

def ValidationFailOption.all : List (String × ValidationFailOption) :=
  [ValidationFailOption.halt, .markRan].map fun option => (option.name, option)

inductive SqlEdit where
  | append (text : String)
  | prepend (text : String)
  | replace (old new : String)
  /-- Replaces what matches a regular expression. -/
  | replaceMatches (pattern new : String)
  deriving DecidableEq

/-- An edit of the SQL that is generated for a changeset, and where it applies. -/
structure ScopedSqlEdit where
  edit : SqlEdit
  dbms : List String
  contexts : Option ContextExpression
  labels : Option Labels
  applyToRollback : Bool
  deriving DecidableEq

structure Changeset where
  id : String
  author : String
  filePath : String
  /-- The path of the changelog that declares the changeset. -/
  changelogPath : String
  alwaysRun : Bool := false
  runOnChange : Bool := false
  runInTransaction : Bool := true
  contexts : Option ContextExpression := none
  labels : Option Labels := none
  dbms : List String := []
  failOnError : Option Bool := none
  onValidationFail : ValidationFailOption := .halt
  quoting : QuotingStrategy := .legacy
  created : Option String := none
  runOrder : Option String := none
  ignore : Bool := false
  comments : Option String := none
  changes : List Change := []
  rollback : List Change := []
  preconditions : Option PreconditionContainer := none
  validChecksums : List String := []
  sqlEdits : List ScopedSqlEdit := []
  /-- The contexts of the inclusions and changelogs around it, the outermost first. -/
  inheritedContexts : List ContextExpression := []
  inheritedLabels : List Labels := []

namespace Changeset

/-- Whether a changeset has an identity. Paths may differ in the kind of their separators. -/
def isIdentifiedBy (changeset : Changeset) (path author id : String) : Bool :=
  changeset.id = id && changeset.author = author && Path.same changeset.filePath path

def addRollbackSql (changeset : Changeset) (sql : String) : Changeset :=
  { changeset with rollback := changeset.rollback ++ [.rawSql sql] }

/-- The SQL of the rollback changes that are plain SQL. -/
def rollbackSql (changeset : Changeset) : List String :=
  (changeset.rollback.filter fun change => change.kind = "sql").filterMap fun change =>
    change.params.text? "sql"

/-- Whether the own and all inherited contexts match the active ones. -/
def runsIn (changeset : Changeset) (active : List String) : Bool :=
  (changeset.contexts.toList ++ changeset.inheritedContexts).all (·.isMatch active)

end Changeset

end Migration
