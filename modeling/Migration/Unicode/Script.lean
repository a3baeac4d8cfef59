import Migration.Unicode.Script.FromL
import Migration.Unicode.Script.Shared
import Migration.Unicode.Script.ToK

/-!
# Scripts

Each character belongs to one script, and may be used in others.
-/

namespace Migration.Unicode.Script

def named : List NamedSet :=
  firstScripts ++ laterScripts

/-- The characters that belong to a script. -/
def find? (name : String) : Option CodeSet :=
  NamedSet.find? named name

/-- The characters that are used in more than one script or in another one than their own. -/
def allShared : CodeSet :=
  .union (shared.map Prod.fst)

/-- The characters that are used in a script: those of its own that are not shared, and the shared
ones that are listed for it. -/
def findUsed? (name : String) : Option CodeSet :=
  (named.find? (·.names.contains name)).map fun script =>
    let listed := shared.filter fun (_, users) => users.any script.names.contains
    (script.set \ allShared) ∪ .union (listed.map Prod.fst)

end Migration.Unicode.Script
