import Migration.Text.NameMap
import Migration.Value

/-!
# Schemas

A schema declares the attributes that an element may have: their names, the type of their values
and whether they are required. The attributes of an element are a map from names to values, in
which null stands for an attribute that was given and set to nothing.
-/

namespace Migration

/-- The type that the value of an attribute is converted to. -/
inductive ParamType where
  | text
  | bool
  | integer
  | number
  deriving DecidableEq

def ParamType.describe : ParamType → String
  | .text => "a string"
  | .bool => "a boolean"
  | .integer => "an integer"
  | .number => "a number"

/-- Whether a value is one of a type. Every type has null. -/
def ParamType.admits : ParamType → Value → Bool
  | _, .null => true
  | .text, .text _ => true
  | .bool, .bool _ => true
  | .integer, .int _ => true
  | .number, .int _ => true
  | .number, .float _ => true
  | _, _ => false

structure Param where
  name : String
  type : ParamType
  required : Bool := false
  deriving DecidableEq

abbrev Schema := List Param

namespace Schema

def find? (schema : Schema) (name : String) : Option Param :=
  List.find? (fun param => param.name = name) schema

def required (schema : Schema) : List Param :=
  schema.filter (·.required)

/-! ## Runs of parameters of one type -/

def ofType (type : ParamType) (names : List String) : Schema :=
  names.map fun name => { name, type }

def texts (names : List String) : Schema :=
  ofType .text names

def bools (names : List String) : Schema :=
  ofType .bool names

def integers (names : List String) : Schema :=
  ofType .integer names

def numbers (names : List String) : Schema :=
  ofType .number names

/-- The parameters of a schema, all of them required. -/
def needed (schema : Schema) : Schema :=
  schema.map fun param => { param with required := true }

theorem find?_name {schema : Schema} {name : String} {param : Param}
    (found : schema.find? name = some param) : param.name = name := by
  simpa using List.find?_some found

end Schema

abbrev Attributes := NameMap Value

namespace Attributes

/-- The value of an attribute. Null counts as no value. -/
def value? (attributes : Attributes) (name : String) : Option Value :=
  (attributes.get? name).filter fun value => !value.isNull

def has (attributes : Attributes) (name : String) : Bool :=
  (attributes.value? name).isSome

def text? (attributes : Attributes) (name : String) : Option String :=
  (attributes.get? name).bind Value.text?

def flag? (attributes : Attributes) (name : String) : Option Bool :=
  (attributes.get? name).bind Value.bool?

def int? (attributes : Attributes) (name : String) : Option Int64 :=
  (attributes.get? name).bind Value.int?

end Attributes

end Migration
