/-!
# Plug-ins

What a host may add to the inclusion of directories: filters, which choose among the listed paths,
and comparators, which order them.
-/

namespace Migration

inductive Plugin where
  | filter (accepts : String → Bool)
  | comparator (compare : String → String → Ordering)

/-- What a plug-in can do. -/
inductive Capability where
  | filter
  | comparator
  deriving DecidableEq

def Plugin.capability : Plugin → Capability
  | .filter _ => .filter
  | .comparator _ => .comparator

/-- The name of a capability. -/
def Capability.name : Capability → String
  | .filter => "IncludeFilter"
  | .comparator => "ResourceComparator"

/-- A capability in running text. -/
def Capability.phrase : Capability → String
  | .filter => "include filter"
  | .comparator => "resource comparator"

/-- The order of texts by their code points. -/
def lexical (a b : String) : Ordering :=
  compare a b

/-- The order of texts by their code points, turned round. -/
def reversed (a b : String) : Ordering :=
  lexical b a

end Migration
