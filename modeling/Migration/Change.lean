import Migration.Column
import Migration.Schema

/-!
# Changes

One change to a database, such as the creation of a table or a piece of SQL.
-/

namespace Migration

structure Change where
  kind : String
  params : Attributes := .empty
  columns : List Column := []
  whereClause : Option String := none
  whereParams : List Column := []
  /-- The arguments of a command. -/
  arguments : List String := []
  customParams : List (String × String) := []
  comment : Option String := none

namespace Change

def set (change : Change) (name : String) (value : Value) : Change :=
  { change with params := change.params.insert name value }

/-- A change that runs a piece of SQL as it is. -/
def rawSql (sql : String) : Change :=
  { kind := "sql", params := .ofList [("sql", .text sql)] }

end Change

end Migration
