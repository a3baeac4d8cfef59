import Migration.Filter.Expression
import Migration.Text.Case
import Migration.Text.Split

/-!
# Contexts and labels

A context expression is matched against the contexts that are active, a label expression against
the labels of a changeset or property. Names match in any letter case.
-/

namespace Migration

def hasName (names : List String) (name : List Char) : Bool :=
  names.any fun other => Text.sameLetters other.toList name

structure ContextExpression where
  text : String
  deriving DecidableEq

namespace ContextExpression

def ofText (text : String) : ContextExpression :=
  ⟨Text.trimmed text⟩

/-- An empty expression, or no active contexts at all, matches everything. -/
def isMatch (expression : ContextExpression) (active : List String) : Bool :=
  expression.text = "" || active = [] || Filter.evaluate (hasName active) expression.text.toList

end ContextExpression

/-- The labels of a changeset or property. -/
structure Labels where
  names : List String
  deriving DecidableEq

namespace Labels

def ofText (text : String) : Labels :=
  ⟨Text.names text⟩

def contains (labels : Labels) (name : String) : Bool :=
  hasName labels.names name.toList

end Labels

structure LabelExpression where
  text : String
  deriving DecidableEq

namespace LabelExpression

def ofText (text : String) : LabelExpression :=
  ⟨Text.trimmed text⟩

/-- An empty expression matches all labels. -/
def isMatch (expression : LabelExpression) (labels : Labels) : Bool :=
  expression.text = "" || Filter.evaluate (hasName labels.names) expression.text.toList

end LabelExpression

end Migration
