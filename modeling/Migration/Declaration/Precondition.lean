import Migration.Declaration.Call
import Migration.Host
import Migration.Precondition

/-!
# Declared preconditions

A `preConditions` element holds checks and the combinations `and`, `or` and `not` of checks, to
any depth. Its own arguments say what happens when they do not pass.
-/

namespace Migration

namespace Check

/-- Takes an item of the block of a check. Of several pieces of SQL the last one counts. -/
def takeItem (site : Site) (kind : PreconditionKind) (check : Check) :
    Item Element → Except BuildError Check
  | .text text =>
      if kind.takesSql then .ok { check with sql := some (site.expand text) }
      else .error (.violation (.unwantedText kind.name) none)
  | .element e =>
      if kind.takesCustomParams ∧ e.name = "param" then do
        let param ← site.customParam e
        return { check with customParams := check.customParams ++ [param] }
      else .error (.unknownElement e.name kind.name)

/-- A check without its block. SQL that is given as an attribute is no parameter. -/
def ofAttributes (kind : PreconditionKind) (given : Attributes) : Check :=
  if kind.takesSql then
    { kind := kind.name
      params := given.erase "sql"
      sql := (given.get? "sql").bind Value.plain? }
  else { kind := kind.name, params := given }

/-- Refuses a check that lacks a required parameter or its SQL. -/
def checkRequired (site : Site) (kind : PreconditionKind) (check : Check) :
    Except BuildError Unit := do
  kind.params.checkRequired kind.name site.changeset check.params
  if kind.takesSql ∧ Text.trimmed (check.sql.getD "") = "" then
    .error (.missingAttribute kind.name "sql" site.changeset)

def ofElement (host : Host) (site : Site) (e : Element) : Except BuildError Check :=
  match host.catalog.preconditions.get? e.name with
  | none => .error (.unknownPrecondition e.name)
  | some kind => do
      let given ← site.attributes kind.params none e
      let check ← e.items.foldlM (takeItem site kind) (ofAttributes kind given)
      if host.configuration.strictParameters then
        checkRequired site kind check
      return check

end Check

/-- The combination of preconditions with a name. -/
def Precondition.combination? (name : String) : Option (List Precondition → Precondition) :=
  if name = "and" then some .and
  else if name = "or" then some .or
  else if name = "not" then some .not
  else none

namespace Precondition

mutual
/-- The precondition that an element declares. -/
def ofElement (host : Host) (site : Site) : Element → Except BuildError Precondition
  | ⟨name, arguments, block, line⟩ =>
      match combination? name with
      | none => (Check.ofElement host site ⟨name, arguments, block, line⟩).map .check
      | some combine =>
          match arguments with
          | argument :: _ =>
              .error (.invalidAttribute name (argument.key.getD "value") site.changeset)
          | [] =>
              match block with
              | none => .ok (combine [])
              | some items => (ofItems host site name line items).map combine

/-- The preconditions in the block of an element with a name on a line. -/
def ofItems (host : Host) (site : Site) (name : String) (line : Nat) :
    List (Item Element) → Except BuildError (List Precondition)
  | [] => .ok []
  | .text _ :: _ => .error (.violation (.textInPreconditions name line) none)
  | .element e :: items => do
      let child ← ofElement host site e
      let children ← ofItems host site name line items
      return child :: children
end

end Precondition

namespace PreconditionPolicy

/-- The arguments of `preConditions`; of two spellings of one of them the first goes before. -/
def schema : Schema :=
  Schema.texts
    ["onFail", "onError", "onSqlOutput", "onUpdateSQL", "onFailMessage", "onErrorMessage"]

/-- The alternative that an attribute names, or a default where it is absent. -/
def choice {α : Type} (given : Attributes) (key : String) (alternatives : List (String × α))
    (default : Except BuildError α) : Except BuildError α :=
  match given.text? key with
  | some raw => oneOf key raw alternatives
  | none => default

def ofAttributes (given : Attributes) : Except BuildError PreconditionPolicy := do
  let onFail ← choice given "onFail" FailOption.all (.ok .halt)
  let onError ← choice given "onError" FailOption.all (.ok .halt)
  let onOutput ←
    choice given "onSqlOutput" OutputOption.all
      (choice given "onUpdateSQL" OutputOption.all (.ok .ignore))
  return {
    onFail, onError, onOutput
    failMessage := given.text? "onFailMessage"
    errorMessage := given.text? "onErrorMessage" }

end PreconditionPolicy

/-- The preconditions that a `preConditions` element declares. -/
def PreconditionContainer.ofElement (host : Host) (site : Site) (e : Element) :
    Except BuildError PreconditionContainer := do
  let given ← site.attributes PreconditionPolicy.schema none e
  let policy ← PreconditionPolicy.ofAttributes given
  let nested ← Precondition.ofItems host site e.name e.line e.items
  return { policy, nested }

end Migration
