import Migration.Pattern.Bracketed
import Migration.Pattern.Expression
import Migration.Pattern.Group
import Migration.Pattern.Repetition

/-!
# Grammar of regular expressions

An expression is a choice of branches, a branch a sequence of parts, and a part a character, a
class, a place or a group, with repetition marks behind it.
-/

namespace Migration.Pattern

/-- What is read of a group so far: its finished branches, and the parts of the branch that is
being read, both with the last one first. -/
structure OpenGroup where
  branches : List Expression := []
  parts : List Expression := []

namespace OpenGroup

def add (part : Expression) (group : OpenGroup) : OpenGroup :=
  { group with parts := part :: group.parts }

/-- Repeats the last part. -/
def repeatLast? (counts : Counts) (group : OpenGroup) : Option OpenGroup :=
  match group.parts with
  | [] => none
  | last :: parts =>
      if last.isRepeatable then some { group with parts := .repeated last counts :: parts }
      else none

/-- Ends the branch that is being read. -/
def nextBranch (group : OpenGroup) : OpenGroup where
  branches := .ofParts group.parts.reverse :: group.branches
  parts := []

def close (group : OpenGroup) : Expression :=
  .ofBranches group.nextBranch.branches.reverse

end OpenGroup

/-- What a character stands for. -/
def Mode.literal (mode : Mode) (c : Char) : Expression :=
  match mode.variants? c with
  | some set => .oneOf 0 (!mode.unicode) set
  | none => .literal c

def Escape.toExpression (mode : Mode) : Escape → Expression
  | .literal c => mode.literal c
  | .oneOf set => .oneOf 0 (!mode.unicode) set
  | .place p => .place p

/-- Reads a part that is one character or an escape. Where classes range over bytes, the point is
no class of characters. -/
def atom? (mode : Mode) : List Char → Option (Expression × List Char)
  | [] => none
  | c :: s =>
      if c = '\\' then
        (escape? mode s).map fun (escape, rest) => (escape.toExpression mode, rest)
      else if c = '.' then
        if mode.unicode then some (.oneOf 0 false mode.pointSet, s) else none
      else if c = '^' then
        some (.place (if mode.multiLine then .lineStart mode.returns else .textStart), s)
      else if c = '$' then
        some (.place (if mode.multiLine then .lineEnd mode.returns else .textEnd), s)
      else some (mode.literal c, s)

/-- Reads a repetition mark, if one stands here. The outer `none` is a malformed one. -/
def repetition? (mode : Mode) : List Char → Option (Option (Counts × List Char))
  | '{' :: s => (counts? mode s).map some
  | c :: s =>
      some ((boundsOf? c).map fun (least, most) => withPreference mode least most s)
  | [] => some none

/-- Reads a group up to its closing parenthesis, which is left, or to the end of the text. `fuel`
is a bound on the length of the text. -/
def groupBody? : (fuel : Nat) → Mode → OpenGroup → List Char → Option (Expression × List Char)
  | 0, _, _, _ => none
  | fuel + 1, mode, group, s =>
      match mode.skip s with
      | [] => some (group.close, [])
      | ')' :: s => some (group.close, ')' :: s)
      | '|' :: s => groupBody? fuel mode group.nextBranch s
      | '(' :: s =>
          match opening? mode s with
          | none => none
          | some (.flags inner, rest) => groupBody? fuel inner (group.add .flags) rest
          | some (.group label inner, rest) =>
              match groupBody? fuel inner {} rest with
              | some (body, ')' :: rest) =>
                  groupBody? fuel mode (group.add (.group label body)) rest
              | _ => none
      | '[' :: s =>
          match set? mode s with
          | some (nesting, set, rest) =>
              groupBody? fuel mode (group.add (.oneOf nesting (!mode.unicode) set)) rest
          | none => none
      | s =>
          match repetition? mode s with
          | none => none
          | some (some (counts, rest)) =>
              match group.repeatLast? counts with
              | some group => groupBody? fuel mode group rest
              | none => none
          | some none =>
              match atom? mode s with
              | some (part, rest) => groupBody? fuel mode (group.add part) rest
              | none => none

/-- Reads a whole regular expression. -/
def parse? (s : List Char) : Option Expression :=
  match groupBody? (s.length + 1) {} {} s with
  | some (e, []) => some e
  | _ => none

end Migration.Pattern
