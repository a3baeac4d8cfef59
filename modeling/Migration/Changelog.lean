import Migration.Changeset
import Migration.Property.Table

/-!
# Changelogs

A changelog is the result of a build: changesets in the order in which they run, those of included
changelogs in the place of the inclusion.
-/

namespace Migration

/-- Something accepted that should be changed nevertheless. -/
structure Warning where
  changeset : Option String
  message : String
  deriving DecidableEq

def Warning.text (warning : Warning) : String :=
  match warning.changeset with
  | some id => s!"ChangeSet '{id}': {warning.message}"
  | none => warning.message

/-- What an inclusion hands down to the changesets of the included changelog. -/
structure Inclusion where
  contexts : Option ContextExpression := none
  labels : Option Labels := none
  ignore : Bool := false

structure Changelog where
  physicalPath : String
  logicalPath : Option String := none
  contexts : Option ContextExpression := none
  quoting : Option QuotingStrategy := none
  changesets : List Changeset := []
  preconditions : Option PreconditionContainer := none
  properties : PropertyTable := {}
  /-- How the changelog was included; a root changelog was not. -/
  inclusion : Inclusion := {}
  warnings : List Warning := []

namespace Changelog

/-- The path that identifies changesets: the logical one, if it is given. -/
def filePath (log : Changelog) : String :=
  log.logicalPath.getD log.physicalPath

/-- The first changeset with an identity. -/
def find? (log : Changelog) (path author id : String) : Option Changeset :=
  log.changesets.find? (·.isIdentifiedBy path author id)

def property? (log : Changelog) (name : String) : Option String :=
  log.properties.resolve name log.physicalPath

/-! ## Splicing -/

/-- A changeset as it stands in a changelog that includes its own one. What is inherited stands
before what was inherited already, so that the outermost comes first. -/
def inherit (child : Changelog) (changeset : Changeset) : Changeset :=
  { changeset with
    inheritedContexts :=
      child.inclusion.contexts.toList ++ child.contexts.toList ++ changeset.inheritedContexts
    inheritedLabels := child.inclusion.labels.toList ++ changeset.inheritedLabels
    ignore := changeset.ignore || child.inclusion.ignore }

/-- Preconditions with those of an included changelog as their last part. -/
def foldPreconditions (own included : Option PreconditionContainer) :
    Option PreconditionContainer :=
  match included with
  | none => own
  | some container => some ((own.getD {}).add container.asPart)

/-- Takes the changesets and preconditions of an included changelog. -/
def splice (log child : Changelog) : Changelog :=
  { log with
    changesets := log.changesets ++ child.changesets.map child.inherit
    preconditions := foldPreconditions log.preconditions child.preconditions }

end Changelog

end Migration
