import Migration.Changelog
import Migration.Report.Json

/-!
# Changelogs as documents

The JSON form of a changelog and of its parts. What is absent is null, except for the parts of a
change that only some kinds have, which are left out.
-/

namespace Migration

namespace Json

def optional {α : Type} (form : α → Json) : Option α → Json
  | some value => form value
  | none => null

def list {α : Type} (form : α → Json) (values : List α) : Json :=
  array (values.map form)

def optionalText : Option String → Json :=
  optional text

def optionalBool : Option Bool → Json :=
  optional bool

def optionalInt : Option Int64 → Json :=
  optional fun n => int n.toInt

/-- A pair as a list of two texts. -/
def pair (pair : String × String) : Json :=
  array [text pair.1, text pair.2]

/-- A member that is left out when its list is empty. -/
def memberUnlessEmpty {α : Type} (name : String) (form : α → Json) (values : List α) :
    List (String × Json) :=
  if values.isEmpty then [] else [(name, list form values)]

/-- A member that is left out when it has no value. -/
def memberIfPresent (name : String) (value : Option String) : List (String × Json) :=
  value.toList.map fun value => (name, text value)

mutual
/-- The document of an attribute value. -/
def ofValue : Value → Json
  | .null => null
  | .bool b => bool b
  | .int n => int n.toInt
  | .float x => float x
  | .text s => text s
  | .list items => array (ofValues items)

def ofValues : List Value → List Json
  | [] => []
  | item :: items => ofValue item :: ofValues items
end

def ofAttributes (attributes : Attributes) : Json :=
  object (attributes.entries.map fun entry => (entry.1, ofValue entry.2))

end Json

open Json (optional list optionalText optionalBool optionalInt pair memberUnlessEmpty
  memberIfPresent)

def ContextExpression.document (expression : ContextExpression) : Json :=
  .text expression.text

def Labels.document (labels : Labels) : Json :=
  list .text labels.names

def PropertyScope.document (scope : PropertyScope) : Json :=
  .object [
    ("contexts", optional ContextExpression.document scope.contexts),
    ("labels", optional Labels.document scope.labels),
    ("dbms", list .text scope.dbms),
    ("global", .bool scope.isGlobal)]

def Property.document (property : Property) : Json :=
  .object [
    ("name", .text property.name),
    ("value", .text property.value),
    ("changelog", .text property.changelog),
    ("scope", property.scope.document)]

/-- The name of the kind of a column value. -/
def ColumnValue.kind : ColumnValue → String
  | .text _ => "text"
  | .numeric _ => "numeric"
  | .boolean _ => "boolean"
  | .date _ => "date"
  | .computed _ => "computed"
  | .sequenceNext _ => "sequenceNext"
  | .sequenceCurrent _ => "sequenceCurrent"
  | .blobFile _ => "blobFile"
  | .clobFile _ => "clobFile"

def ColumnValue.content : ColumnValue → Json
  | .text s => .text s
  | .numeric s => .text s
  | .boolean b => .bool b
  | .date moment => .text moment.text
  | .computed s => .text s
  | .sequenceNext s => .text s
  | .sequenceCurrent s => .text s
  | .blobFile s => .text s
  | .clobFile s => .text s

def ColumnValue.document (value : ColumnValue) : Json :=
  .object [("kind", .text value.kind), ("value", value.content)]

def Constraints.document (constraints : Constraints) : Json :=
  .object [
    ("nullable", optionalBool constraints.nullable),
    ("notNullConstraintName", optionalText constraints.notNullConstraintName),
    ("primaryKey", optionalBool constraints.primaryKey),
    ("primaryKeyName", optionalText constraints.primaryKeyName),
    ("primaryKeyTablespace", optionalText constraints.primaryKeyTablespace),
    ("unique", optionalBool constraints.unique),
    ("uniqueConstraintName", optionalText constraints.uniqueConstraintName),
    ("references", optionalText constraints.references),
    ("referencedTableCatalogName", optionalText constraints.referencedTableCatalogName),
    ("referencedTableSchemaName", optionalText constraints.referencedTableSchemaName),
    ("referencedTableName", optionalText constraints.referencedTableName),
    ("referencedColumnNames", optionalText constraints.referencedColumnNames),
    ("foreignKeyName", optionalText constraints.foreignKeyName),
    ("deleteCascade", optionalBool constraints.deleteCascade),
    ("deferrable", optionalBool constraints.deferrable),
    ("initiallyDeferred", optionalBool constraints.initiallyDeferred),
    ("checkConstraint", optionalText constraints.checkConstraint),
    ("validateNullable", optionalBool constraints.validateNullable),
    ("validateUnique", optionalBool constraints.validateUnique),
    ("validatePrimaryKey", optionalBool constraints.validatePrimaryKey),
    ("validateForeignKey", optionalBool constraints.validateForeignKey)]

def Column.document (column : Column) : Json :=
  .object [
    ("name", optionalText column.name),
    ("computed", optionalBool column.computed),
    ("columnType", optionalText column.columnType),
    ("value", optional ColumnValue.document column.value),
    ("defaultValue", optional ColumnValue.document column.defaultValue),
    ("defaultValueConstraintName", optionalText column.defaultValueConstraintName),
    ("autoIncrement", optionalBool column.autoIncrement),
    ("startWith", optionalInt column.startWith),
    ("incrementBy", optionalInt column.incrementBy),
    ("generationType", optionalText column.generationType),
    ("defaultOnNull", optionalBool column.defaultOnNull),
    ("remarks", optionalText column.remarks),
    ("descending", optionalBool column.descending),
    ("encoding", optionalText column.encoding),
    ("beforeColumn", optionalText column.beforeColumn),
    ("afterColumn", optionalText column.afterColumn),
    ("position", optionalInt column.position),
    ("header", optionalText column.header),
    ("index", optionalInt column.index),
    ("constraints", optional Constraints.document column.constraints)]

def Change.document (change : Change) : Json :=
  .object (
    [("kind", .text change.kind), ("params", .ofAttributes change.params)] ++
    memberUnlessEmpty "columns" Column.document change.columns ++
    memberIfPresent "whereClause" change.whereClause ++
    memberUnlessEmpty "whereParams" Column.document change.whereParams ++
    memberUnlessEmpty "args" .text change.arguments ++
    memberUnlessEmpty "customParams" pair change.customParams ++
    memberIfPresent "comment" change.comment)

def Check.document (check : Check) : Json :=
  .object (
    [("kind", .text check.kind), ("params", .ofAttributes check.params)] ++
    memberIfPresent "sql" check.sql ++
    memberUnlessEmpty "customParams" pair check.customParams)

/-- The document of a container whose parts have the given documents. -/
def PreconditionPolicy.document (policy : PreconditionPolicy) (nested : List Json) : Json :=
  .object [
    ("onFail", .text policy.onFail.name),
    ("onError", .text policy.onError.name),
    ("onSqlOutput", .text policy.onOutput.name),
    ("onFailMessage", optionalText policy.failMessage),
    ("onErrorMessage", optionalText policy.errorMessage),
    ("nested", .array nested)]

namespace Precondition

mutual
def document : Precondition → Json
  | .check leaf => .object [("check", leaf.document)]
  | .and children => .object [("and", .array (documents children))]
  | .or children => .object [("or", .array (documents children))]
  | .not children => .object [("not", .array (documents children))]
  | .container policy children => .object [("container", policy.document (documents children))]

def documents : List Precondition → List Json
  | [] => []
  | child :: children => document child :: documents children
end

end Precondition

def PreconditionContainer.document (container : PreconditionContainer) : Json :=
  container.policy.document (Precondition.documents container.nested)

def SqlEdit.document : SqlEdit → Json
  | .append text => .object [("append", .text text)]
  | .prepend text => .object [("prepend", .text text)]
  | .replace old new =>
      .object [("replace", .object [("replace", .text old), ("with", .text new)])]
  | .replaceMatches pattern new =>
      .object [("regExpReplace", .object [("replace", .text pattern), ("with", .text new)])]

def ScopedSqlEdit.document (declared : ScopedSqlEdit) : Json :=
  .object [
    ("action", declared.edit.document),
    ("dbms", list .text declared.dbms),
    ("contexts", optional ContextExpression.document declared.contexts),
    ("labels", optional Labels.document declared.labels),
    ("applyToRollback", .bool declared.applyToRollback)]

def Changeset.document (changeset : Changeset) : Json :=
  .object [
    ("id", .text changeset.id),
    ("author", .text changeset.author),
    ("filePath", .text changeset.filePath),
    ("alwaysRun", .bool changeset.alwaysRun),
    ("runOnChange", .bool changeset.runOnChange),
    ("runInTransaction", .bool changeset.runInTransaction),
    ("contexts", optional ContextExpression.document changeset.contexts),
    ("labels", optional Labels.document changeset.labels),
    ("dbms", list .text changeset.dbms),
    ("failOnError", optionalBool changeset.failOnError),
    ("onValidationFail", .text changeset.onValidationFail.name),
    ("objectQuotingStrategy", .text changeset.quoting.name),
    ("created", optionalText changeset.created),
    ("runOrder", optionalText changeset.runOrder),
    ("ignore", .bool changeset.ignore),
    ("comments", optionalText changeset.comments),
    ("changes", list Change.document changeset.changes),
    ("rollback", list Change.document changeset.rollback),
    ("preconditions", optional PreconditionContainer.document changeset.preconditions),
    ("validChecksums", list .text changeset.validChecksums),
    ("sqlVisitors", list ScopedSqlEdit.document changeset.sqlEdits),
    ("changelogPath", .text changeset.changelogPath),
    ("inheritedContexts", list ContextExpression.document changeset.inheritedContexts),
    ("inheritedLabels", list Labels.document changeset.inheritedLabels)]

def Warning.document (warning : Warning) : Json :=
  .object [
    ("change_set", optionalText warning.changeset),
    ("message", .text warning.message)]

def Changelog.document (log : Changelog) : Json :=
  .object [
    ("physicalPath", .text log.physicalPath),
    ("logicalPath", optionalText log.logicalPath),
    ("contexts", optional ContextExpression.document log.contexts),
    ("objectQuotingStrategy", optional (fun quoting => .text quoting.name) log.quoting),
    ("changeSets", list Changeset.document log.changesets),
    ("preconditions", optional PreconditionContainer.document log.preconditions),
    ("properties", .object [("entries", list Property.document log.properties.entries)]),
    ("includeContexts", optional ContextExpression.document log.inclusion.contexts),
    ("includeLabels", optional Labels.document log.inclusion.labels),
    ("includeIgnore", .bool log.inclusion.ignore),
    ("warnings", list Warning.document log.warnings)]

end Migration
