import Migration.Filter.Labels
import Migration.Path
import Migration.Property.Token

/-!
# The property table

Properties in the order of their declaration. A property that is local to a changelog hides the
global ones there; of two of the same kind the later one counts. Properties whose scope does not
match the environment are invisible.
-/

namespace Migration

/-- The target that the changelog will run against. -/
structure Environment where
  dbms : Option String := none
  contexts : List String := []
  labels : Option String := none

/-- Where a property applies. A local property is visible to the declaring changelog only. -/
structure PropertyScope where
  contexts : Option ContextExpression := none
  labels : Option Labels := none
  dbms : List String := []
  isGlobal : Bool := true

structure Property where
  name : String
  value : String
  /-- The path of the declaring changelog. -/
  changelog : String
  scope : PropertyScope := {}

/-- Whether a scope matches an environment: database, contexts and labels, as far as both sides
speak of them. -/
def PropertyScope.admits (scope : PropertyScope) (environment : Environment) : Bool :=
  let dbms :=
    match environment.dbms with
    | some name =>
        scope.dbms = [] || scope.dbms.any fun other =>
          Text.sameIgnoringCase other name || Text.sameIgnoringCase other "all"
    | none => true
  let contexts :=
    match scope.contexts with
    | some expression => expression.isMatch environment.contexts
    | none => true
  let labels :=
    match scope.labels, environment.labels with
    | some labels, some text => (LabelExpression.ofText text).isMatch labels
    | _, _ => true
  dbms && contexts && labels

structure PropertyTable where
  entries : List Property := []
  environment : Environment := {}
  /-- The greatest number of substitution passes; zero stands for ten. -/
  maxPasses : Nat := 0

namespace PropertyTable

def add (table : PropertyTable) (property : Property) : PropertyTable :=
  { table with entries := table.entries ++ [property] }

/-- The entries of a name that are in scope, the latest first. -/
def candidates (table : PropertyTable) (name : String) : List Property :=
  table.entries.reverse.filter fun property =>
    property.name = name && property.scope.admits table.environment

/-- The value of a name as seen from a changelog. -/
def resolve (table : PropertyTable) (name changelog : String) : Option String :=
  let candidates := table.candidates name
  let visible :=
    (candidates.find? fun property =>
      !property.scope.isGlobal && Path.same property.changelog changelog).or
    (candidates.find? fun property => property.scope.isGlobal)
  visible.map (·.value)

def passes (table : PropertyTable) : Nat :=
  if table.maxPasses = 0 then 10 else table.maxPasses

/-- A text with its tokens replaced as seen from a changelog. Unknown tokens stay. -/
def expand (table : PropertyTable) (text changelog : String) : String :=
  String.ofList
    (Property.substituteUpTo (fun name => table.resolve name changelog) table.passes text.toList)

end PropertyTable

end Migration
