import Migration.BuildError
import Migration.Schema.Coercion

/-!
# Checking attributes

The arguments of an element are checked against its schema in the order in which they are written,
and the first one that is unknown or has a value of the wrong type is the error.
-/

namespace Migration

/-- The truth value of an attribute, or a default where it is absent. -/
def truth (key : String) (value : Option Value) (default : Bool) : Except BuildError Bool :=
  match value with
  | none => .ok default
  | some .null => .ok default
  | some value =>
      match value.truth? with
      | some b => .ok b
      | none => .error (.invalidValue key value.display (.ofType .bool))

/-- Converts the value of an attribute to its type. -/
def Param.convert (param : Param) (value : Value) : Except BuildError Value :=
  match param.type.convert? value with
  | some converted => .ok converted
  | none => .error (.invalidValue param.name value.display (.ofType param.type))

namespace Schema

/-- Converts the value of an argument, or refuses an argument that the schema does not declare. -/
def convert (schema : Schema) (element : String) (changeset : Option String)
    (argument : String × Value) : Except BuildError Value :=
  match schema.find? argument.1 with
  | some param => param.convert argument.2
  | none => .error (.invalidAttribute element argument.1 changeset)

/-- The attributes of an element that has some named arguments, added to those it has already. -/
def addArguments (schema : Schema) (element : String) (changeset : Option String) :
    Attributes → List (String × Value) → Except BuildError Attributes
  | attributes, [] => .ok attributes
  | attributes, argument :: arguments =>
      match schema.convert element changeset argument with
      | .ok value =>
          schema.addArguments element changeset (attributes.insert argument.1 value) arguments
      | .error error => .error error

/-- The attributes of an element that has some named arguments. -/
def check (schema : Schema) (element : String) (changeset : Option String)
    (arguments : List (String × Value)) : Except BuildError Attributes :=
  schema.addArguments element changeset .empty arguments

/-- Refuses attributes among which a required one is missing; the first such one is the error. -/
def checkRequired (schema : Schema) (element : String) (changeset : Option String)
    (attributes : Attributes) : Except BuildError Unit :=
  match schema.required.find? fun param => !attributes.has param.name with
  | some param => .error (.missingAttribute element param.name changeset)
  | none => .ok ()

end Schema

/-- The alternative that a text names. -/
def oneOf {α : Type} (key raw : String) (alternatives : List (String × α)) :
    Except BuildError α :=
  match alternatives.find? fun alternative => alternative.1 = raw with
  | some alternative => .ok alternative.2
  | none => .error (.invalidValue key raw (.oneOf (alternatives.map (·.1))))

end Migration
