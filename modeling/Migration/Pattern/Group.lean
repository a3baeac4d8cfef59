import Migration.Pattern.Expression
import Migration.Pattern.Mode
import Migration.Unicode.Derived

/-!
# Openings of groups

What can stand behind an opening parenthesis: a name, flags, or the group itself. Conditions on
what stands before or behind a place are not among them.
-/

namespace Migration.Pattern

inductive Opening where
  /-- Flags without a group, which hold to the end of the enclosing one. -/
  | flags (mode : Mode)
  | group (label : GroupLabel) (mode : Mode)

def isGroupNameStart (c : Char) : Bool :=
  c = '_' || Unicode.alphabetic.contains c.toNat

def isGroupNameChar (c : Char) : Bool :=
  isGroupNameStart c || ['.', '[', ']'].contains c || Unicode.Category.number.contains c.toNat

def isGroupName : List Char → Bool
  | [] => false
  | c :: s => isGroupNameStart c && s.all isGroupNameChar

/-- Reads the name of a group up to its closing angle bracket. -/
def groupName? (s : List Char) : Option (GroupLabel × List Char) :=
  let name := s.takeWhile (· ≠ '>')
  match s.dropWhile (· ≠ '>') with
  | [] => none
  | _ :: rest => if isGroupName name then some (.named (String.ofList name), rest) else none

/-- Reads flags up to a closing parenthesis or, when they are those of a group, to a colon. -/
def flags? (mode : Mode) (s : List Char) : Option (Opening × List Char) :=
  let isFlag (c : Char) := c ≠ ':' && c ≠ ')'
  let written := s.takeWhile isFlag
  match mode.withFlags? written, s.dropWhile isFlag with
  | some inner, ':' :: rest => some (.group .silent inner, rest)
  | some inner, _ :: rest => if written = [] then none else some (.flags inner, rest)
  | _, _ => none

/-- Reads what follows an opening parenthesis. -/
def opening? (mode : Mode) (s : List Char) : Option (Opening × List Char) :=
  match mode.skip s with
  | '?' :: 'P' :: '<' :: s =>
      (groupName? s).map fun (label, rest) => (.group label mode, rest)
  | '?' :: '<' :: s => (groupName? s).map fun (label, rest) => (.group label mode, rest)
  | '?' :: s => flags? mode s
  | s => some (.group .numbered mode, s)

end Migration.Pattern
