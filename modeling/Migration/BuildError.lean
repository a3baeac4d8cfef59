import Migration.Plugin
import Migration.Schema
import Migration.Script.Reading

/-!
# Causes of failure

Every way in which the build of a changelog can fail, and its message. A failed build has no other
result.
-/

namespace Migration

/-- What a value should have been. -/
inductive Expected where
  | ofType (type : ParamType)
  | oneOf (names : List String)
  | regularExpression

def Expected.describe : Expected → String
  | .ofType type => type.describe
  | .oneOf names => "one of " ++ ", ".intercalate names
  | .regularExpression => "a valid regular expression"

/-- Why a file or directory is of no use. -/
inductive ResourceProblem where
  | notFound
  | notText
  /-- The included file is no changelog script. -/
  | notScript
  /-- Nothing in the directory can be included. -/
  | emptyDirectory
  /-- Nothing is known yet about a place on the disk. -/
  | unexplored (place : List String)

def ResourceProblem.message : ResourceProblem → String
  | .notFound => "file not found"
  | .notText => "cannot read file: stream did not contain valid UTF-8"
  | .notScript => "included files must be .qcl changelogs"
  | .emptyDirectory => "Could not find directory or directory was empty for includeAll"
  | .unexplored _ => "not looked at yet"

/-- What is wrong with a configuration. -/
inductive ConfigurationProblem where
  | noPasses
  | unreadable (path reason : String)
  | malformed

def ConfigurationProblem.message : ConfigurationProblem → String
  | .noPasses => "max_expansion_passes must be at least 1"
  | .unreadable path reason => s!"cannot read {path}: {reason}"
  | .malformed => "the configuration is malformed"

/-- Rules on the shape of elements that are no matter of schemas. -/
inductive Violation where
  | mixedArguments (element : String) (line : Nat)
  | repeatedArgument (element : String) (line : Nat) (key : String)
  | bareValue (element : String)
  | missingText (element : String)
  | unwantedText (element : String)
  | unwantedBlock (element : String) (line : Nat)
  /-- A bare text in a change that has no place for it. -/
  | noBody (kind : String)
  | noColumns (kind : String)
  | noWhere (kind : String)
  | textInWhereParams
  | pathAndInline (kind inline : String)
  | alwaysRun
  | textInChangeset
  /-- A rollback with more than one value, or with a value and a block. -/
  | rollbackForm
  | rollbackReferenceWithBlock
  /-- A text in a rollback block that is not its last item. -/
  | rollbackTextBeforeEnd
  | nestedRollback
  | rollbackAttribute (key replacement : String)
  | textInModifySql
  | textInPreconditions (element : String) (line : Nat)
  | textInLog (line : Nat)
  | resourceFilter
  | propertyFileAndName
  | propertyWithoutName

def Violation.message : Violation → String
  | .mixedArguments element line =>
      s!"'{element}' at line {line} mixes named and positional arguments"
  | .repeatedArgument element line key =>
      s!"'{element}' at line {line} sets '{key}' more than once"
  | .bareValue element => s!"'{element}' does not accept a bare value; use named attributes"
  | .missingText element => s!"'{element}' requires a text value"
  | .unwantedText element => s!"'{element}' does not take text content"
  | .unwantedBlock element line => s!"'{element}' at line {line} does not take a block"
  | .noBody kind => s!"'{kind}' does not take a SQL body"
  | .noColumns kind => s!"columns are not allowed in '{kind}' changes"
  | .noWhere kind => s!"a where clause is invalid for '{kind}' changes"
  | .textInWhereParams => "whereParams only takes 'param' entries"
  | .pathAndInline kind inline => s!"{kind} cannot have both a 'path' and a '{inline}'"
  | .alwaysRun =>
      "Error: ChangeSet 'alwaysRun' is no longer supported, use 'runAlways' instead"
  | .textInChangeset =>
      "bare text is not allowed in a changeSet, wrap it in sql or rollback"
  | .rollbackForm => "rollback takes either one SQL string or a block"
  | .rollbackReferenceWithBlock => "a rollback reference cannot also have a block"
  | .rollbackTextBeforeEnd => "only the last statement of a rollback block can be SQL text"
  | .nestedRollback => "rollback blocks cannot be nested"
  | .rollbackAttribute key replacement =>
      s!"the '{key}' attribute of a rollback is no longer supported, use '{replacement}' instead"
  | .textInModifySql => "modifySql only takes append, prepend, replace and regExpReplace"
  | .textInPreconditions element line =>
      s!"'{element}' at line {line} only takes preconditions, not text"
  | .textInLog line => s!"databaseChangeLog at line {line} only takes elements, not text"
  | .resourceFilter =>
      "includeAll 'resourceFilter' is no longer supported, use 'filter' instead"
  | .propertyFileAndName => "property takes either 'file' or 'name' and 'value', not both"
  | .propertyWithoutName => "property requires either 'file' or 'name' and 'value'"

inductive BuildError where
  | malformed (path : String) (fault : Script.Malformed)
  | unknownElement (element parent : String)
  | unknownChange (changeset kind : String)
  | unknownPrecondition (kind : String)
  | invalidAttribute (element key : String) (changeset : Option String)
  | invalidValue (key value : String) (expected : Expected)
  | missingAttribute (element key : String) (changeset : Option String)
  | violation (rule : Violation) (changeset : Option String)
  | missingProperty (name path : String)
  | resource (path : String) (problem : ResourceProblem)
  | unresolvedPath (path : String)
  | circularInclude (path : String) (chain : List String)
  | unknownPlugin (name : String) (capability : Capability)
  | pluginCapability (name : String) (expected : Capability)
  | rollbackMissingId (changeset : String)
  | rollbackImpossible (path author id : String)
  | configuration (problem : ConfigurationProblem)

/-- The beginning of messages that name a changeset. -/
def inChangeset : Option String → String
  | some id => s!"ChangeSet '{id}': "
  | none => ""

namespace BuildError

def message : BuildError → String
  | .malformed path fault =>
      s!"Syntax error in {path} at line {fault.line}: {fault.problem.message}"
  | .unknownElement element parent => s!"'{element}' is not a valid element of {parent}"
  | .unknownChange changeset kind =>
      s!"ChangeSet '{changeset}': '{kind}' is not a valid change type"
  | .unknownPrecondition kind => s!"'{kind}' is not a valid precondition"
  | .invalidAttribute element key changeset =>
      inChangeset changeset ++ s!"'{key}' is not a valid {element} attribute"
  | .invalidValue key value expected =>
      s!"'{value}' is not a valid value for '{key}': expected {expected.describe}"
  | .missingAttribute element key changeset =>
      inChangeset changeset ++ s!"{element} requires '{key}'"
  | .violation rule changeset =>
      "Validation error: " ++ inChangeset changeset ++ rule.message
  | .missingProperty name path => s!"Unknown property '{name}' referenced in {path}"
  | .resource path problem => s!"Resource error for '{path}': {problem.message}"
  | .unresolvedPath path => s!"Unresolved property in includeAll path '{path}'"
  | .circularInclude path chain =>
      s!"Circular include of '{path}' (include chain: " ++ " -> ".intercalate chain ++ ")"
  | .unknownPlugin name capability => s!"No {capability.phrase} named '{name}' is registered"
  | .pluginCapability name expected =>
      s!"'{name}' is registered but does not implement {expected.name}"
  | .rollbackMissingId changeset => s!"No changeSetId given for rollback in '{changeset}'"
  | .rollbackImpossible path author id =>
      s!"Could not find changeSet to use for rollback: {path}:{author}:{id}"
  | .configuration problem => s!"Configuration error: {problem.message}"

/-- Whether files and directories are the cause, and not what is in them. -/
def isResource : BuildError → Bool
  | .resource _ _ => true
  | _ => false

/-- Whether a rollback refers to a changeset that is not given or does not exist. -/
def isRollbackImpossible : BuildError → Bool
  | .rollbackImpossible _ _ _ => true
  | .rollbackMissingId _ => true
  | _ => false

end BuildError

end Migration
