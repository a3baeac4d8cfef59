import Migration.Catalog
import Migration.Changelog

/-!
# Reports

What is printed about a changelog and a catalog, line by line.
-/

namespace Migration

/-- The attributes of which the first that is a text tells what a change is about. -/
def Change.targetKeys : List String :=
  ["tableName", "viewName", "sequenceName", "indexName", "sql"]

/-- A change on one line: its kind and the beginning of what it is about. -/
def Change.summary (change : Change) : String :=
  match targetKeys.findSome? change.params.text? with
  | some target =>
      change.kind ++ " " ++ String.ofList ((Text.firstLine target.toList).take 60)
  | none => change.kind

def Changeset.flags (changeset : Changeset) : List String :=
  (if changeset.alwaysRun then ["runAlways"] else []) ++
    (if changeset.runOnChange then ["runOnChange"] else []) ++
    (if changeset.ignore then ["ignore"] else [])

/-- A changeset: an empty line, its identity and flags, and its changes and their undoing. -/
def Changeset.outline (changeset : Changeset) : List String :=
  let flags := changeset.flags
  let flagText := if flags = [] then "" else " [" ++ ", ".intercalate flags ++ "]"
  ["", s!"  • {changeset.filePath}::{changeset.author}::{changeset.id}{flagText}"] ++
    (changeset.changes.map fun change => "      + " ++ change.summary) ++
    (changeset.rollback.map fun change => "      - " ++ change.summary)

namespace Changelog

/-- The outline of a changelog. -/
def outline (log : Changelog) : List String :=
  [s!"ChangeLog {log.filePath}"] ++
    (log.contexts.toList.map fun contexts => s!"  context: {contexts.text}") ++
    (log.preconditions.toList.map fun container =>
      "  preConditions: " ++ container.nested.length.repr ++ " nested") ++
    log.changesets.flatMap Changeset.outline

/-- What is in a changelog in numbers, and the warnings about it. -/
def summary (log : Changelog) : List String :=
  let changesets := log.changesets.length
  let changes := (log.changesets.flatMap fun changeset => changeset.changes).length
  let properties := log.properties.entries.length
  let size := s!"{changesets} changesets, {changes} changes, {properties} properties"
  s!"✓ {log.physicalPath} ({size})" ::
    log.warnings.map fun warning => "  ⚠ " ++ warning.text

end Changelog

/-- The names that a catalog knows. -/
def Catalog.outline (catalog : Catalog) : List String :=
  let indented (names : List String) := names.map ("  " ++ ·)
  ["Change kinds"] ++ indented catalog.changes.keys ++
    ["", "Preconditions"] ++ indented catalog.preconditions.keys ++
    ["", "includeAll plugins"] ++ indented catalog.plugins.keys

end Migration
