import Migration.Schema

/-!
# Kinds of checks

A kind of checks has a schema, and says whether the block of such a check may hold SQL or further
parameters.
-/

namespace Migration

structure PreconditionKind where
  name : String
  params : Schema := []
  /-- Texts in the block are the SQL of the check. -/
  takesSql : Bool := false
  takesCustomParams : Bool := false
  deriving DecidableEq

namespace PreconditionKind

open Schema (texts integers needed)

/-- The place of a database object. -/
def place : Schema :=
  texts ["catalogName", "schemaName"]

/-- The place and name of a table. -/
def table : Schema :=
  place ++ needed (texts ["tableName"])

def builtin : List PreconditionKind :=
  [{ name := "dbms", params := needed (texts ["type"]) },
   { name := "runningAs", params := needed (texts ["username"]) },
   { name := "changeSetExecuted", params := needed (texts ["id", "author", "changeLogFile"]) },
   { name := "columnExists", params := table ++ needed (texts ["columnName"]) },
   { name := "tableExists", params := table },
   { name := "viewExists", params := place ++ needed (texts ["viewName"]) },
   { name := "foreignKeyConstraintExists"
     params := place ++ texts ["foreignKeyTableName"] ++ needed (texts ["foreignKeyName"]) },
   { name := "indexExists", params := place ++ texts ["tableName", "columnNames", "indexName"] },
   { name := "sequenceExists", params := place ++ needed (texts ["sequenceName"]) },
   { name := "primaryKeyExists", params := place ++ texts ["tableName", "primaryKeyName"] },
   { name := "uniqueConstraintExists", params := table ++ texts ["columnNames", "constraintName"] },
   { name := "sqlCheck"
     params := needed (texts ["expectedResult"]) ++ texts ["sql"]
     takesSql := true },
   { name := "changeLogPropertyDefined"
     params := needed (texts ["property"]) ++ texts ["value"] },
   { name := "customPrecondition"
     params := needed (texts ["className"])
     takesCustomParams := true },
   { name := "tableIsEmpty", params := table },
   { name := "rowCount", params := table ++ needed (integers ["expectedRows"]) },
   { name := "expectedQuotingStrategy", params := needed (texts ["strategy"]) }]

example : builtin.length = 17 := by decide

end PreconditionKind

end Migration
