import Migration.Pattern.Term

/-!
# Regular expressions

The tree of a regular expression as it is written, with the depth of its nesting, the names of its
groups and the term that it stands for.
-/

namespace Migration.Pattern

open Unicode

/-- How a group is referred to. -/
inductive GroupLabel where
  | silent
  | numbered
  | named (name : String)

inductive Expression where
  | empty
  /-- Flags that hold from here to the end of the enclosing group. -/
  | flags
  | literal (c : Char)
  /-- A class of characters. `nesting` tells how deeply brackets stand within each other in it, and
  `ofBytes` whether it ranges over bytes. -/
  | oneOf (nesting : Nat) (ofBytes : Bool) (set : CodeSet)
  | place (place : Place)
  | repeated (body : Expression) (counts : Counts)
  | group (label : GroupLabel) (body : Expression)
  | sequence (parts : List Expression)
  | alternatives (branches : List Expression)

namespace Expression

/-- The sequence of some parts; one part alone stands for itself. -/
def ofParts : List Expression → Expression
  | [] => .empty
  | [part] => part
  | parts => .sequence parts

/-- The choice between some branches; one branch alone stands for itself. -/
def ofBranches : List Expression → Expression
  | [branch] => branch
  | branches => .alternatives branches

/-- Whether an expression can be followed by a repetition mark. -/
def isRepeatable : Expression → Bool
  | .empty | .flags => false
  | _ => true

mutual

/-- How deeply brackets, repetitions, sequences and choices stand within each other. -/
def nesting : Expression → Nat
  | .empty | .flags | .literal _ | .place _ => 0
  | .oneOf nesting _ _ => nesting
  | .repeated body _ | .group _ body => body.nesting + 1
  | .sequence all | .alternatives all => nestingOfAll all + 1

def nestingOfAll : List Expression → Nat
  | [] => 0
  | e :: all => max e.nesting (nestingOfAll all)

end

mutual

/-- The names of the named groups, from left to right. -/
def groupNames : Expression → List String
  | .empty | .flags | .literal _ | .oneOf _ _ _ | .place _ => []
  | .repeated body _ => body.groupNames
  | .group (.named name) body => name :: body.groupNames
  | .group _ body => body.groupNames
  | .sequence all | .alternatives all => groupNamesOfAll all

def groupNamesOfAll : List Expression → List String
  | [] => []
  | e :: all => e.groupNames ++ groupNamesOfAll all

end

mutual

/-- The term that an expression stands for. Flags match the empty text. -/
def term : Expression → Term
  | .empty | .flags => .empty
  | .literal c => .literal [c]
  | .oneOf _ ofBytes set => .ofSet ofBytes set
  | .place p => .place p
  | .repeated body counts => .ofCounts counts body.term
  | .group .silent body => body.term
  | .group _ body => .capture body.term
  | .sequence all => .ofParts (termsOfAll all)
  | .alternatives all => .ofBranches (termsOfAll all)

def termsOfAll : List Expression → List Term
  | [] => []
  | e :: all => e.term :: termsOfAll all

end

end Expression

end Migration.Pattern
