import Migration.BuildError
import Migration.Change

/-!
# Kinds of changes

A kind of changes has a schema, says what may stand in the block of such a change, and may finish
a change in ways that no schema can express.
-/

namespace Migration

/-- Which attributes the columns of a change have. -/
inductive ColumnForm where
  | standard
  /-- Columns that are added, which have a place among the others. -/
  | added
  /-- Columns that are loaded, which have a place in the loaded file. -/
  | loaded
  deriving DecidableEq

/-- The last step of building a change of the changeset with an id. It may warn. -/
abbrev Finish := String → Change → Except BuildError (Change × List String)

structure ChangeKind where
  name : String
  params : Schema := []
  /-- The parameter that a bare value stands for. -/
  textParam : Option String := none
  columns : Option ColumnForm := none
  takesWhere : Bool := false
  /-- The parameter to which the texts of the block are added. -/
  body : Option String := none
  takesArguments : Bool := false
  takesCustomParams : Bool := false
  takesComment : Bool := false
  finish : Option Finish := none

namespace ChangeKind

open Schema (texts bools integers numbers needed)

/-! ## Steps that finish a change -/

/-- Messages go to the standard error output unless something else is said. -/
def defaultTarget : Finish := fun _ change =>
  .ok (if change.params.has "target" then change else change.set "target" (.text "STDERR"), [])

/-- A cascading deletion is what happens on deletion unless something else is said. -/
def finishForeignKey : Finish := fun _ change =>
  let cascades := change.params.flag? "deleteCascade" = some true
  let warnings :=
    if change.params.has "referencesUniqueColumn" then
      ["addForeignKeyConstraint's referencesUniqueColumn parameter has been deprecated, " ++
        "and may be removed in a future release. " ++
        "Consider removing it, as the host ignores it anyway."]
    else []
  .ok (if cascades ∧ !change.params.has "onDelete" then
      change.set "onDelete" (.text "CASCADE")
    else change, warnings)

/-- A definition comes from a file or stands in the script, but not both. -/
def eitherPathOr (inline : String) : Finish := fun changeset change =>
  if change.params.has "path" && change.params.has inline then
    .error (.violation (.pathAndInline change.kind inline) (some changeset))
  else .ok (change, [])

def demandClass : Finish := fun changeset change =>
  if change.params.has "class" then .ok (change, [])
  else .error (.missingAttribute "customChange" "class" (some changeset))

/-! ## The kinds that are always there -/

/-- The place of a database object. -/
def place : Schema :=
  texts ["catalogName", "schemaName"]

/-- The place and name of a table. -/
def table : Schema :=
  place ++ needed (texts ["tableName"])

def baseTable : Schema :=
  texts ["baseTableCatalogName", "baseTableSchemaName"] ++ needed (texts ["baseTableName"])

def existingIndex : Schema :=
  texts ["forIndexCatalogName", "forIndexSchemaName", "forIndexName"] ++ bools ["validate"]

def fileFormat : Schema :=
  needed (texts ["file"]) ++ bools ["relativeToChangelogFile"] ++
    texts ["encoding", "separator", "quotchar", "commentLineStartsWith"] ++
    bools ["usePreparedStatements"]

def statements : Schema :=
  texts ["dbms", "endDelimiter"] ++ bools ["splitStatements", "stripComments"]

/-- The old and the new name of an object that is renamed. -/
def oldAndNew (noun : String) : Schema :=
  needed (texts ["old" ++ noun ++ "Name", "new" ++ noun ++ "Name"])

def ofTables : List ChangeKind :=
  [{ name := "createTable"
     params := table ++ texts ["tablespace", "remarks"] ++ bools ["ifNotExists"]
     columns := some .standard },
   { name := "dropTable", params := table ++ bools ["cascadeConstraints"] },
   { name := "renameTable", params := place ++ oldAndNew "Table" },
   { name := "setTableRemarks", params := table ++ texts ["remarks"] },
   { name := "addLookupTable"
     params := texts ["existingTableCatalogName", "existingTableSchemaName"] ++
       needed (texts ["existingTableName", "existingColumnName"]) ++
       texts ["newTableCatalogName", "newTableSchemaName"] ++
       needed (texts ["newTableName", "newColumnName"]) ++
       texts ["newColumnDataType", "constraintName"] }]

def ofColumns : List ChangeKind :=
  [{ name := "addColumn", params := table, columns := some .added },
   { name := "dropColumn", params := table ++ texts ["columnName"], columns := some .standard },
   { name := "renameColumn"
     params := table ++ oldAndNew "Column" ++ texts ["columnDataType", "remarks"] },
   { name := "mergeColumns"
     params := table ++ needed (texts ["column1Name"]) ++ texts ["joinString"] ++
       needed (texts ["column2Name", "finalColumnName", "finalColumnType"]) },
   { name := "modifyDataType"
     params := table ++ needed (texts ["columnName", "newDataType"]) },
   { name := "setColumnRemarks"
     params := table ++ needed (texts ["columnName"]) ++
       texts ["remarks", "columnDataType", "columnParentType"] },
   { name := "addAutoIncrement"
     params := table ++ needed (texts ["columnName"]) ++ texts ["columnDataType"] ++
       integers ["startWith", "incrementBy"] ++ bools ["defaultOnNull"] ++
       texts ["generationType"] },
   { name := "addDefaultValue"
     params := table ++ needed (texts ["columnName"]) ++
       texts ["columnDataType", "defaultValue"] ++ numbers ["defaultValueNumeric"] ++
       bools ["defaultValueBoolean"] ++
       texts ["defaultValueDate", "defaultValueComputed", "defaultValueSequenceNext",
         "defaultValueConstraintName"] },
   { name := "dropDefaultValue"
     params := table ++ needed (texts ["columnName"]) ++ texts ["columnDataType"] }]

def ofConstraints : List ChangeKind :=
  [{ name := "addForeignKeyConstraint"
     params := baseTable ++ needed (texts ["baseColumnNames", "constraintName"]) ++
       texts ["referencedTableCatalogName", "referencedTableSchemaName"] ++
       needed (texts ["referencedTableName", "referencedColumnNames"]) ++
       bools ["deferrable", "initiallyDeferred"] ++ texts ["onDelete", "onUpdate"] ++
       bools ["deleteCascade", "referencesUniqueColumn", "validate"]
     finish := some finishForeignKey },
   { name := "dropForeignKeyConstraint", params := baseTable ++ needed (texts ["constraintName"]) },
   { name := "dropAllForeignKeyConstraints", params := baseTable },
   { name := "addNotNullConstraint"
     params := table ++ needed (texts ["columnName"]) ++
       texts ["defaultNullValue", "columnDataType", "constraintName"] ++ bools ["validate"] },
   { name := "dropNotNullConstraint"
     params := table ++ needed (texts ["columnName"]) ++
       texts ["columnDataType", "constraintName"] },
   { name := "addPrimaryKey"
     params := table ++ needed (texts ["columnNames"]) ++
       texts ["constraintName", "tablespace"] ++ bools ["clustered"] ++ existingIndex },
   { name := "dropPrimaryKey"
     params := table ++ texts ["constraintName"] ++ bools ["dropIndex"] },
   { name := "addUniqueConstraint"
     params := table ++ needed (texts ["columnNames"]) ++
       texts ["constraintName", "tablespace"] ++
       bools ["deferrable", "initiallyDeferred", "disabled", "clustered"] ++ existingIndex },
   { name := "dropUniqueConstraint"
     params := table ++ texts ["constraintName", "uniqueColumns"] }]

def ofOtherObjects : List ChangeKind :=
  [{ name := "createIndex"
     params := table ++ texts ["indexName"] ++ bools ["unique"] ++ texts ["tablespace"] ++
       bools ["clustered"] ++ texts ["associatedWith"]
     columns := some .standard },
   { name := "dropIndex"
     params := place ++ texts ["tableName"] ++ needed (texts ["indexName"]) ++
       texts ["associatedWith"] },
   { name := "createSequence"
     params := place ++ needed (texts ["sequenceName"]) ++
       numbers ["startValue", "incrementBy", "maxValue", "minValue"] ++
       bools ["ordered", "cycle"] ++ numbers ["cacheSize"] ++ texts ["dataType"] },
   { name := "alterSequence"
     params := place ++ needed (texts ["sequenceName"]) ++
       numbers ["incrementBy", "maxValue", "minValue"] ++ bools ["ordered"] ++
       numbers ["cacheSize"] ++ bools ["cycle"] ++ texts ["dataType"] },
   { name := "dropSequence", params := place ++ needed (texts ["sequenceName"]) },
   { name := "renameSequence", params := place ++ oldAndNew "Sequence" },
   { name := "createView"
     params := place ++ needed (texts ["viewName"]) ++ texts ["selectQuery"] ++
       bools ["replaceIfExists", "fullDefinition"] ++ texts ["path"] ++
       bools ["relativeToChangelogFile"] ++ texts ["encoding", "remarks"]
     body := some "selectQuery"
     finish := some (eitherPathOr "selectQuery") },
   { name := "dropView"
     params := place ++ needed (texts ["viewName"]) ++ bools ["ifExists"] },
   { name := "renameView", params := place ++ oldAndNew "View" },
   { name := "createProcedure"
     params := place ++ texts ["procedureName", "procedureText", "path"] ++
       bools ["relativeToChangelogFile"] ++ texts ["encoding", "dbms", "comments"] ++
       bools ["replaceIfExists"]
     textParam := some "procedureText"
     body := some "procedureText"
     takesComment := true
     finish := some (eitherPathOr "procedureText") },
   { name := "dropProcedure", params := place ++ needed (texts ["procedureName"]) }]

def ofData : List ChangeKind :=
  [{ name := "insert", params := table ++ texts ["dbms"], columns := some .standard },
   { name := "update", params := table, columns := some .standard, takesWhere := true },
   { name := "delete", params := table, takesWhere := true },
   { name := "loadData", params := table ++ fileFormat, columns := some .loaded },
   { name := "loadUpdateData"
     params := table ++ fileFormat ++ needed (texts ["primaryKey"]) ++ bools ["onlyUpdate"]
     columns := some .loaded }]

def ofScripts : List ChangeKind :=
  [{ name := "sql"
     params := needed (texts ["sql"]) ++ statements
     textParam := some "sql"
     body := some "sql"
     takesComment := true },
   { name := "sqlFile"
     params := needed (texts ["path"]) ++ bools ["relativeToChangelogFile"] ++
       texts ["encoding"] ++ statements
     takesComment := true },
   { name := "customChange"
     params := texts ["class"]
     takesCustomParams := true
     finish := some demandClass },
   { name := "executeCommand"
     params := needed (texts ["executable"]) ++ texts ["os", "timeout"]
     takesArguments := true },
   { name := "output"
     params := texts ["message", "target"]
     textParam := some "message"
     finish := some defaultTarget },
   { name := "stop", params := texts ["message"], textParam := some "message" },
   { name := "tagDatabase", params := needed (texts ["tag"]), textParam := some "tag" },
   { name := "empty" }]

def builtin : List ChangeKind :=
  ofTables ++ ofColumns ++ ofConstraints ++ ofOtherObjects ++ ofData ++ ofScripts

example : builtin.length = 47 := by decide

end ChangeKind

end Migration
