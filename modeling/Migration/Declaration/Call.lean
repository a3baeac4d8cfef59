import Migration.Property.Table
import Migration.Schema.Check
import Migration.Script.Tree

/-!
# Calls

How an element is called: without arguments, with values alone or with named arguments, after its
literals have been resolved. Mixed calls and repeated names are refused.
-/

namespace Migration

/-- Where an element stands: the properties it sees, its changelog, and its changeset if it is in
one. -/
structure Site where
  properties : PropertyTable
  path : String
  changeset : Option String := none

inductive Call where
  | empty
  | positional (values : List Value)
  | named (arguments : List (String × Value))

namespace Site

def expand (site : Site) (text : String) : String :=
  site.properties.expand text site.path

def violation {α : Type} (site : Site) (rule : Violation) : Except BuildError α :=
  .error (.violation rule site.changeset)

mutual
/-- The value of a literal: texts are expanded, and a bare name is the property of that name. -/
def resolve (site : Site) : Literal → Except BuildError Value
  | .str s => .ok (.text (site.expand s))
  | .int n => .ok (.int n)
  | .float x => .ok (.float x)
  | .bool b => .ok (.bool b)
  | .null => .ok .null
  | .reference name =>
      match site.properties.resolve name site.path with
      | some value => .ok (.text (site.expand value))
      | none => .error (.missingProperty name site.path)
  | .list items => (site.resolveAll items).map .list

def resolveAll (site : Site) : List Literal → Except BuildError (List Value)
  | [] => .ok []
  | item :: items => do
      let value ← site.resolve item
      let values ← site.resolveAll items
      return value :: values
end

/-- The named arguments of an element, in order. An argument whose name is among those before it
is refused. -/
def resolveNamed (site : Site) (e : Element) :
    List String → List Argument → Except BuildError (List (String × Value))
  | _, [] => .ok []
  | before, ⟨none, _⟩ :: arguments => site.resolveNamed e before arguments
  | before, ⟨some key, literal⟩ :: arguments =>
      if key ∈ before then
        .error (.violation (.repeatedArgument e.name e.line key) none)
      else do
        let value ← site.resolve literal
        let values ← site.resolveNamed e (key :: before) arguments
        return (key, value) :: values

/-- How an element is called. -/
def call (site : Site) (e : Element) : Except BuildError Call :=
  if e.arguments.isEmpty then .ok .empty
  else if e.hasPositional && e.hasNamed then
    .error (.violation (.mixedArguments e.name e.line) none)
  else if e.hasNamed then (site.resolveNamed e [] e.arguments).map .named
  else (site.resolveAll (e.arguments.map (·.value))).map .positional

/-- The arguments of an element that takes named ones only. -/
def namedArguments (site : Site) (e : Element) : Except BuildError (List (String × Value)) := do
  match ← site.call e with
  | .empty => return []
  | .named arguments => return arguments
  | .positional _ => .error (.violation (.bareValue e.name) none)

/-- The attributes of an element under a schema. A single bare value stands for the parameter
`textParam`, if there is one. -/
def attributes (site : Site) (schema : Schema) (textParam : Option String) (e : Element) :
    Except BuildError Attributes := do
  match ← site.call e, textParam with
  | .empty, _ => return .empty
  | .named arguments, _ => schema.check e.name site.changeset arguments
  | .positional [value], some name => schema.check e.name site.changeset [(name, value)]
  | .positional _, _ => site.violation (.bareValue e.name)

/-! ## Elements that are a text -/

/-- The expanded texts of a block that holds texts only. -/
def blockTexts (site : Site) (e : Element) :
    List (Item Element) → Except BuildError (List String)
  | [] => .ok []
  | .text text :: items => (site.blockTexts e items).map (site.expand text :: ·)
  | .element child :: _ => .error (.unknownElement child.name e.name)

/-- The text of an element: its bare value, or else the texts of its block, one a line. -/
def textContent (site : Site) (e : Element) : Except BuildError String := do
  let fromBlock : Except BuildError String := do
    match ← site.blockTexts e e.items with
    | [] => site.violation (.missingText e.name)
    | texts => return "\n".intercalate texts
  match ← site.call e with
  | .empty => fromBlock
  | .positional [value] =>
      match value.plain? with
      | some text => return text
      | none => fromBlock
  | .positional _ => site.violation (.bareValue e.name)
  | .named [] => fromBlock
  | .named ((key, _) :: _) => .error (.invalidAttribute e.name key site.changeset)

/-! ## Elements that are a pair or a single argument -/

/-- The texts that named arguments give, none of which may have another name than those allowed. -/
def onlyNamed (site : Site) (e : Element) (allowed : List String)
    (arguments : List (String × Value)) : Except BuildError (String → Option String) :=
  match arguments.find? fun argument => argument.1 ∉ allowed with
  | some argument => .error (.invalidAttribute e.name argument.1 site.changeset)
  | none =>
      .ok fun name => (arguments.find? (·.1 = name)).bind fun argument => argument.2.plain?

def demand (site : Site) (e : Element) (key : String) (text : Option String) :
    Except BuildError String :=
  match text with
  | some text => .ok text
  | none => .error (.missingAttribute e.name key site.changeset)

/-- The name and value of a custom parameter, given by name or as two bare values. -/
def customParam (site : Site) (e : Element) : Except BuildError (String × String) := do
  let given : String → Option String ←
    match ← site.call e with
    | .positional [name, value] =>
        pure fun key => if key = "name" then name.plain? else value.plain?
    | .named arguments => site.onlyNamed e ["name", "value"] arguments
    | _ => pure fun _ => none
  let name ← site.demand e "name" (given "name")
  let value ← site.demand e "value" (given "value")
  return (name, value)

/-- The argument of a command, given by name or as a bare value. -/
def commandArgument (site : Site) (e : Element) : Except BuildError String := do
  let given : Option String ←
    match ← site.call e with
    | .positional [value] => pure value.plain?
    | .named arguments => (site.onlyNamed e ["value"] arguments).map (· "value")
    | _ => pure none
  site.demand e "value" given

end Site

end Migration
