import Migration.Moment.Reading
import Migration.Number.Binary64
import Migration.Text.Case

/-!
# Columns

Descriptions of columns, with the values and constraints that changes give to them. A value that
does not read as the number, boolean or date that it should be is an expression of the database.
-/

namespace Migration

inductive ColumnValue where
  | text (s : String)
  /-- A number as it was written, so that its precision survives. -/
  | numeric (s : String)
  | boolean (b : Bool)
  | date (moment : Moment)
  /-- A function or expression of the database, kept as it was written. -/
  | computed (s : String)
  | sequenceNext (s : String)
  | sequenceCurrent (s : String)
  | blobFile (s : String)
  | clobFile (s : String)
  deriving DecidableEq

namespace ColumnValue

/-- A number, or else an expression. -/
def ofNumber (raw : String) : ColumnValue :=
  let trimmed := Text.trim raw.toList
  if (Number.Binary64.read? trimmed).isSome then .numeric (String.ofList trimmed)
  else .computed raw

/-- A truth value or one of the digits 1 and 0, or else an expression. -/
def ofBoolean (raw : String) : ColumnValue :=
  let word := Text.lower (Text.trim raw.toList)
  if word = "true".toList ∨ word = ['1'] then .boolean true
  else if word = "false".toList ∨ word = ['0'] then .boolean false
  else .computed raw

/-- A date or time, or else an expression. -/
def ofDate (raw : String) : ColumnValue :=
  match Moment.read? (Text.trim raw.toList) with
  | some moment => .date moment
  | none => .computed raw

end ColumnValue

/-- Constraints that are declared with a column. -/
structure Constraints where
  nullable : Option Bool
  notNullConstraintName : Option String
  primaryKey : Option Bool
  primaryKeyName : Option String
  primaryKeyTablespace : Option String
  unique : Option Bool
  uniqueConstraintName : Option String
  references : Option String
  referencedTableCatalogName : Option String
  referencedTableSchemaName : Option String
  referencedTableName : Option String
  referencedColumnNames : Option String
  foreignKeyName : Option String
  deleteCascade : Option Bool
  deferrable : Option Bool
  initiallyDeferred : Option Bool
  checkConstraint : Option String
  validateNullable : Option Bool
  validateUnique : Option Bool
  validatePrimaryKey : Option Bool
  validateForeignKey : Option Bool
  deriving DecidableEq

structure Column where
  name : Option String
  computed : Option Bool
  columnType : Option String
  value : Option ColumnValue
  defaultValue : Option ColumnValue
  defaultValueConstraintName : Option String
  autoIncrement : Option Bool
  startWith : Option Int64
  incrementBy : Option Int64
  generationType : Option String
  defaultOnNull : Option Bool
  remarks : Option String
  descending : Option Bool
  encoding : Option String
  /-- Where an added column stands, before or after another one or at a position. -/
  beforeColumn : Option String
  afterColumn : Option String
  position : Option Int64
  /-- Where loaded data come from, a header of the file or an index. -/
  header : Option String
  index : Option Int64
  constraints : Option Constraints
  deriving DecidableEq

end Migration
