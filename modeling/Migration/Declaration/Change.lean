import Migration.Changelog
import Migration.Declaration.Column
import Migration.Host

/-!
# Declared changes

A change is read from an element that is named for its kind. First its arguments are checked, then
the items of its block are taken in order, and then the kind finishes it.
-/

namespace Migration.Change

/-- A bare text is added to what the body holds already, on a line of its own. -/
def addText (change : Change) (body text : String) : Change :=
  match change.params.text? body with
  | some existing => change.set body (.text (existing ++ "\n" ++ text))
  | none => change.set body (.text text)

/-- Takes an item of the block of `whereParams`. -/
def takeWhereParam (site : Site) (change : Change) : Item Element → Except BuildError Change
  | .text _ => site.violation .textInWhereParams
  | .element e =>
      if e.name = "param" then do
        let column ← Column.ofElement site .standard e
        return { change with whereParams := change.whereParams ++ [column] }
      else .error (.unknownElement e.name "whereParams")

/-- Takes an element of the block of a change. -/
def takeElement (site : Site) (kind : ChangeKind) (change : Change) (e : Element) :
    Except BuildError Change :=
  if e.name = "column" then
    match kind.columns with
    | none => site.violation (.noColumns kind.name)
    | some form => do
        let column ← Column.ofElement site form e
        return { change with columns := change.columns ++ [column] }
  else if e.name = "where" ∨ e.name = "whereParams" then
    if !kind.takesWhere then site.violation (.noWhere kind.name)
    else if e.name = "where" then do
      let text ← site.textContent e
      return { change with whereClause := some text }
    else e.items.foldlM (takeWhereParam site) change
  else if e.name = "arg" ∧ kind.takesArguments then do
    let argument ← site.commandArgument e
    return { change with arguments := change.arguments ++ [argument] }
  else if e.name = "param" ∧ kind.takesCustomParams then do
    let param ← site.customParam e
    return { change with customParams := change.customParams ++ [param] }
  else if e.name = "comment" ∧ kind.takesComment then do
    let text ← site.textContent e
    return { change with comment := some text }
  else .error (.unknownElement e.name kind.name)

/-- Takes an item of the block of a change. -/
def takeItem (site : Site) (kind : ChangeKind) (change : Change) :
    Item Element → Except BuildError Change
  | .text text =>
      match kind.body with
      | none => site.violation (.noBody kind.name)
      | some body => .ok (change.addText body (site.expand text))
  | .element e => takeElement site kind change e

/-- The change without its block. A bare value is that of the parameter it stands for. -/
def ofCall (site : Site) (kind : ChangeKind) (e : Element) : Except BuildError Change := do
  match ← site.call e with
  | .empty => return { kind := kind.name }
  | .named arguments =>
      let params ← kind.params.check kind.name site.changeset arguments
      return { kind := kind.name, params }
  | .positional values =>
      match kind.textParam.bind kind.params.find?, values with
      | some param, [value] =>
          let converted ← param.convert value
          return { kind := kind.name, params := .ofList [(param.name, converted)] }
      | _, _ => site.violation (.bareValue kind.name)

/-- A change of a kind, before the kind finishes it. -/
def ofKind (host : Host) (site : Site) (kind : ChangeKind) (e : Element) :
    Except BuildError Change := do
  let called ← ofCall site kind e
  let change ← e.items.foldlM (takeItem site kind) called
  if host.configuration.strictParameters then
    kind.params.checkRequired kind.name site.changeset change.params
  return change

/-- The change that an element in a changeset declares, and warnings about it. -/
def ofElement (host : Host) (site : Site) (changeset : String) (e : Element) :
    Except BuildError (Change × List Warning) := do
  let site := { site with changeset := some changeset }
  match host.catalog.changes.get? e.name with
  | none => .error (.unknownChange changeset e.name)
  | some kind =>
      let change ← ofKind host site kind e
      match kind.finish with
      | none => return (change, [])
      | some finish =>
          let (finished, messages) ← finish changeset change
          return (finished, messages.map fun message => ⟨some changeset, message⟩)

end Migration.Change
