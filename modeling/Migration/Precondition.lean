import Migration.Schema

/-!
# Preconditions

Trees of checks that have to pass before changes run, and what happens if they do not.
-/

namespace Migration

/-- What happens when preconditions fail or cannot be checked. -/
inductive FailOption where
  | halt
  | proceed
  | markRan
  | warn
  deriving DecidableEq, Inhabited

def FailOption.all : List (String × FailOption) :=
  [("HALT", .halt), ("CONTINUE", .proceed), ("MARK_RAN", .markRan), ("WARN", .warn)]

def FailOption.name : FailOption → String
  | .halt => "HALT"
  | .proceed => "CONTINUE"
  | .markRan => "MARK_RAN"
  | .warn => "WARN"

def FailOption.ofName? (name : String) : Option FailOption :=
  (all.find? fun option => option.1 = name).map (·.2)

/-- What preconditions do when SQL is only written out. -/
inductive OutputOption where
  | ignore
  | test
  | fail
  deriving DecidableEq, Inhabited

def OutputOption.all : List (String × OutputOption) :=
  [("IGNORE", .ignore), ("TEST", .test), ("FAIL", .fail)]

def OutputOption.name : OutputOption → String
  | .ignore => "IGNORE"
  | .test => "TEST"
  | .fail => "FAIL"

/-- A single check. -/
structure Check where
  kind : String
  params : Attributes := .empty
  sql : Option String := none
  customParams : List (String × String) := []

structure PreconditionPolicy where
  onFail : FailOption := .halt
  onError : FailOption := .halt
  onOutput : OutputOption := .ignore
  failMessage : Option String := none
  errorMessage : Option String := none
  deriving DecidableEq

inductive Precondition where
  | check (leaf : Check)
  | and (children : List Precondition)
  | or (children : List Precondition)
  | not (children : List Precondition)
  /-- The preconditions of an included changelog, with their own policy. -/
  | container (policy : PreconditionPolicy) (children : List Precondition)

/-- The preconditions of a changeset or changelog. -/
structure PreconditionContainer where
  policy : PreconditionPolicy := {}
  nested : List Precondition := []

namespace Precondition

def name : Precondition → String
  | .check leaf => leaf.kind
  | .and _ => "and"
  | .or _ => "or"
  | .not _ => "not"
  | .container _ _ => "preConditions"

def children : Precondition → List Precondition
  | .check _ => []
  | .and children => children
  | .or children => children
  | .not children => children
  | .container _ children => children

mutual
/-- The single checks of a tree from left to right. -/
def checks : Precondition → List Check
  | .check leaf => [leaf]
  | .and children => checksOf children
  | .or children => checksOf children
  | .not children => checksOf children
  | .container _ children => checksOf children

def checksOf : List Precondition → List Check
  | [] => []
  | child :: children => checks child ++ checksOf children
end

end Precondition

namespace PreconditionContainer

/-- A container as a part of another one. -/
def asPart (container : PreconditionContainer) : Precondition :=
  .container container.policy container.nested

def add (container : PreconditionContainer) (part : Precondition) : PreconditionContainer :=
  { container with nested := container.nested ++ [part] }

end PreconditionContainer

end Migration
