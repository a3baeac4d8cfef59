import Migration.Catalog.ChangeKind
import Migration.Catalog.PreconditionKind

/-!
# The catalog

What is known by name in a build: kinds of changes, kinds of checks and plug-ins. A host extends
the catalog, and what it adds last under a name counts.
-/

namespace Migration

/-- What a host adds to a catalog as a whole. -/
structure Extension where
  changes : List ChangeKind := []
  preconditions : List PreconditionKind := []
  plugins : List (String × Plugin) := []

structure Catalog where
  changes : NameMap ChangeKind := .empty
  preconditions : NameMap PreconditionKind := .empty
  plugins : NameMap Plugin := .empty

namespace Catalog

def addChange (catalog : Catalog) (kind : ChangeKind) : Catalog :=
  { catalog with changes := catalog.changes.insert kind.name kind }

def addPrecondition (catalog : Catalog) (kind : PreconditionKind) : Catalog :=
  { catalog with preconditions := catalog.preconditions.insert kind.name kind }

def addPlugin (catalog : Catalog) (name : String) (plugin : Plugin) : Catalog :=
  { catalog with plugins := catalog.plugins.insert name plugin }

def extend (catalog : Catalog) (extension : Extension) : Catalog :=
  let catalog := extension.changes.foldl addChange catalog
  let catalog := extension.preconditions.foldl addPrecondition catalog
  extension.plugins.foldl (fun catalog plugin => catalog.addPlugin plugin.1 plugin.2) catalog

/-- The catalog without extensions. -/
def builtin : Catalog :=
  extend {}
    { changes := ChangeKind.builtin
      preconditions := PreconditionKind.builtin
      plugins := [("lexical", .comparator lexical), ("reverse", .comparator reversed)] }

/-- The filter with a name. -/
def filter (catalog : Catalog) (name : String) : Except BuildError (String → Bool) :=
  match catalog.plugins.get? name with
  | some (.filter accepts) => .ok accepts
  | some (.comparator _) => .error (.pluginCapability name .filter)
  | none => .error (.unknownPlugin name .filter)

/-- The comparator with a name. -/
def comparator (catalog : Catalog) (name : String) :
    Except BuildError (String → String → Ordering) :=
  match catalog.plugins.get? name with
  | some (.comparator compare) => .ok compare
  | some (.filter _) => .error (.pluginCapability name .comparator)
  | none => .error (.unknownPlugin name .comparator)

end Catalog

end Migration
