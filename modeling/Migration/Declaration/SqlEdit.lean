import Migration.Changeset
import Migration.Declaration.Call

/-!
# Declared edits of SQL

A `modifySql` element holds edits of the SQL that is generated for its changeset. Its own arguments
say where all of them apply. Which texts are regular expressions is up to the host.
-/

namespace Migration

open Schema (texts bools needed)

namespace SqlEdit

def textSchema : Schema :=
  needed (texts ["value"])

def replacementSchema : Schema :=
  needed (texts ["replace", "with"])

/-- The text that is added by an element. -/
def addedText (site : Site) (e : Element) : Except BuildError String := do
  let given ← site.attributes textSchema (some "value") e
  textSchema.checkRequired e.name site.changeset given
  return (given.text? "value").getD ""

/-- What an element replaces, and by what. -/
def replacement (site : Site) (e : Element) : Except BuildError (String × String) := do
  let given ← site.attributes replacementSchema none e
  replacementSchema.checkRequired e.name site.changeset given
  return ((given.text? "replace").getD "", (given.text? "with").getD "")

def ofElement (isPattern : String → Bool) (site : Site) (e : Element) :
    Except BuildError SqlEdit :=
  if e.name = "append" then (addedText site e).map .append
  else if e.name = "prepend" then (addedText site e).map .prepend
  else if e.name = "replace" then do
    let (old, new) ← replacement site e
    return .replace old new
  else if e.name = "regExpReplace" then do
    let (pattern, new) ← replacement site e
    if isPattern pattern then return .replaceMatches pattern new
    else .error (.invalidValue "replace" pattern .regularExpression)
  else .error (.unknownElement e.name "modifySql")

/-- The edits in the block of `modifySql`. -/
def ofItems (isPattern : String → Bool) (site : Site) :
    List (Item Element) → Except BuildError (List SqlEdit)
  | [] => .ok []
  | .text _ :: _ => site.violation .textInModifySql
  | .element e :: items => do
      let edit ← ofElement isPattern site e
      let edits ← ofItems isPattern site items
      return edit :: edits

end SqlEdit

namespace ScopedSqlEdit

def schema : Schema :=
  texts ["dbms", "context", "labels"] ++ bools ["applyToRollback"]

def ofAttributes (given : Attributes) (edit : SqlEdit) : ScopedSqlEdit where
  edit := edit
  dbms := Text.names ((given.text? "dbms").getD "")
  contexts := (given.text? "context").map .ofText
  labels := (given.text? "labels").map .ofText
  applyToRollback := (given.flag? "applyToRollback").getD false

/-- The edits that a `modifySql` element declares. -/
def ofElement (isPattern : String → Bool) (site : Site) (e : Element) :
    Except BuildError (List ScopedSqlEdit) := do
  let given ← site.attributes schema none e
  let edits ← SqlEdit.ofItems isPattern site e.items
  return edits.map (ofAttributes given)

end ScopedSqlEdit

end Migration
