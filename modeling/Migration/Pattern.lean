import Migration.Pattern.Automaton
import Migration.Pattern.Grammar

/-!
# Regular expressions that can be used

A regular expression is well formed when it can be read, no two of its groups have the same name,
and it stays within the limits of nesting and memory.
-/

namespace Migration.Pattern

def nestingLimit : Nat :=
  250

def namesDiffer (names : List String) : Bool :=
  names.eraseDups.length = names.length

def isWellFormed (s : String) : Bool :=
  match parse? s.toList with
  | none => false
  | some e => namesDiffer e.groupNames && e.nesting ≤ nestingLimit && e.term.isWithinLimit

end Migration.Pattern
