import Migration.Catalog.ChangeKind
import Migration.Declaration.Call

/-!
# Declared columns

Columns are read from `column` and `param` elements and from the `constraints` in their blocks.
-/

namespace Migration

open Schema (texts bools integers)

namespace Column

def standardSchema : Schema :=
  texts ["name"] ++ bools ["computed"] ++
    texts ["type", "value", "valueNumeric", "valueBoolean", "valueDate", "valueComputed",
      "valueSequenceNext", "valueSequenceCurrent", "valueBlobFile", "valueClobFile",
      "defaultValue", "defaultValueNumeric", "defaultValueBoolean", "defaultValueDate",
      "defaultValueComputed", "defaultValueSequenceNext", "defaultValueConstraintName"] ++
    bools ["autoIncrement"] ++ integers ["startWith", "incrementBy"] ++
    texts ["generationType"] ++ bools ["defaultOnNull"] ++ texts ["remarks"] ++
    bools ["descending"] ++ texts ["encoding"]

end Column

/-- The schema of the columns of a form. -/
def ColumnForm.schema : ColumnForm → Schema
  | .standard => Column.standardSchema
  | .added =>
      Column.standardSchema ++ texts ["beforeColumn", "afterColumn"] ++ integers ["position"]
  | .loaded => Column.standardSchema ++ texts ["header"] ++ integers ["index"]

namespace Constraints

def schema : Schema :=
  bools ["nullable"] ++ texts ["notNullConstraintName"] ++ bools ["primaryKey"] ++
    texts ["primaryKeyName", "primaryKeyTablespace"] ++ bools ["unique"] ++
    texts ["uniqueConstraintName", "references", "referencedTableCatalogName",
      "referencedTableSchemaName", "referencedTableName", "referencedColumnNames",
      "foreignKeyName"] ++
    bools ["deleteCascade", "deferrable", "initiallyDeferred"] ++ texts ["checkConstraint"] ++
    bools ["validateNullable", "validateUnique", "validatePrimaryKey", "validateForeignKey"]

def ofAttributes (given : Attributes) : Constraints where
  nullable := given.flag? "nullable"
  notNullConstraintName := given.text? "notNullConstraintName"
  primaryKey := given.flag? "primaryKey"
  primaryKeyName := given.text? "primaryKeyName"
  primaryKeyTablespace := given.text? "primaryKeyTablespace"
  unique := given.flag? "unique"
  uniqueConstraintName := given.text? "uniqueConstraintName"
  references := given.text? "references"
  referencedTableCatalogName := given.text? "referencedTableCatalogName"
  referencedTableSchemaName := given.text? "referencedTableSchemaName"
  referencedTableName := given.text? "referencedTableName"
  referencedColumnNames := given.text? "referencedColumnNames"
  foreignKeyName := given.text? "foreignKeyName"
  deleteCascade := given.flag? "deleteCascade"
  deferrable := given.flag? "deferrable"
  initiallyDeferred := given.flag? "initiallyDeferred"
  checkConstraint := given.text? "checkConstraint"
  validateNullable := given.flag? "validateNullable"
  validateUnique := given.flag? "validateUnique"
  validatePrimaryKey := given.flag? "validatePrimaryKey"
  validateForeignKey := given.flag? "validateForeignKey"

end Constraints

namespace Column

/-- The attributes that give a column its value, and how each is read. -/
def valueReaders : List (String × (String → ColumnValue)) :=
  [("value", .text), ("valueNumeric", .ofNumber), ("valueBoolean", .ofBoolean),
    ("valueDate", .ofDate), ("valueComputed", .computed), ("valueSequenceNext", .sequenceNext),
    ("valueSequenceCurrent", .sequenceCurrent), ("valueBlobFile", .blobFile),
    ("valueClobFile", .clobFile)]

/-- The attributes that give a column its default value, and how each is read. -/
def defaultReaders : List (String × (String → ColumnValue)) :=
  [("defaultValue", .text), ("defaultValueNumeric", .ofNumber),
    ("defaultValueBoolean", .ofBoolean), ("defaultValueDate", .ofDate),
    ("defaultValueComputed", .computed), ("defaultValueSequenceNext", .sequenceNext)]

/-- The value by the last of the readers whose attribute is given. -/
def lastValue (given : Attributes) (readers : List (String × (String → ColumnValue))) :
    Option ColumnValue :=
  readers.reverse.findSome? fun reader => (given.text? reader.1).map reader.2

def ofAttributes (given : Attributes) : Column where
  name := given.text? "name"
  computed := given.flag? "computed"
  columnType := given.text? "type"
  value := lastValue given valueReaders
  defaultValue := lastValue given defaultReaders
  defaultValueConstraintName := given.text? "defaultValueConstraintName"
  autoIncrement := given.flag? "autoIncrement"
  startWith := given.int? "startWith"
  incrementBy := given.int? "incrementBy"
  generationType := given.text? "generationType"
  defaultOnNull := given.flag? "defaultOnNull"
  remarks := given.text? "remarks"
  descending := given.flag? "descending"
  encoding := given.text? "encoding"
  beforeColumn := given.text? "beforeColumn"
  afterColumn := given.text? "afterColumn"
  position := given.int? "position"
  header := given.text? "header"
  index := given.int? "index"
  constraints := none

/-- Takes an item of the block of a column. -/
def takeItem (site : Site) (e : Element) (column : Column) :
    Item Element → Except BuildError Column
  | .text _ => site.violation (.unwantedText e.name)
  | .element child =>
      if child.name = "constraints" then do
        let given ← site.attributes Constraints.schema none child
        return { column with constraints := some (.ofAttributes given) }
      else .error (.unknownElement child.name e.name)

/-- The column that an element declares. Its bare value is its name. -/
def ofElement (site : Site) (form : ColumnForm) (e : Element) : Except BuildError Column := do
  let given ← site.attributes form.schema (some "name") e
  e.items.foldlM (takeItem site e) (ofAttributes given)

end Column

end Migration
