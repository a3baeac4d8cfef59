import Migration.Text.Blank
import Migration.Text.Split

/-!
# Property tokens

A token is a dollar sign and a name in braces; the name holds none of these three characters. One
pass of substitution replaces every token that has a value and leaves all else as it is.
-/

namespace Migration.Property

def isNameChar (c : Char) : Bool :=
  c ≠ '$' && c ≠ '{' && c ≠ '}'

/-- The name of the token at the beginning of a text, and what follows the token. -/
def token? : List Char → Option (List Char × List Char)
  | '$' :: '{' :: s =>
      match s.takeWhile isNameChar, s.dropWhile isNameChar with
      | c :: name, '}' :: rest => some (c :: name, rest)
      | _, _ => none
  | _ => none

theorem token?_shorter {s name rest : List Char} (found : token? s = some (name, rest)) :
    rest.length + 2 < s.length := by
  unfold token? at found
  split at found
  · rename_i inner
    split at found
    · rename_i same
      simp only [Option.some.injEq, Prod.mk.injEq] at found
      have le := Text.length_dropWhile_le isNameChar inner
      rw [same, found.2] at le
      simp only [List.length_cons] at le ⊢
      omega
    · cases found
  · cases found

/-- A text as plain characters and tokens. -/
inductive Piece where
  | plain (c : Char)
  | token (name : List Char)
  deriving DecidableEq

/-- The pieces of a text, read from left to right. -/
def pieces (s : List Char) : List Piece :=
  match s with
  | [] => []
  | c :: rest =>
      match _found : token? (c :: rest) with
      | some (name, after) => .token name :: pieces after
      | none => .plain c :: pieces rest
termination_by s.length
decreasing_by
  · exact Nat.lt_of_le_of_lt (Nat.le_add_right _ 2) (token?_shorter _found)
  · exact Nat.lt_succ_self _

/-- A piece as it is written. -/
def Piece.source : Piece → List Char
  | .plain c => [c]
  | .token name => '$' :: '{' :: name ++ ['}']

/-- A piece with the value of its trimmed name in its place, if there is one. -/
def Piece.substitute (value? : String → Option String) : Piece → List Char
  | .plain c => [c]
  | .token name =>
      match value? (String.ofList (Text.trim name)) with
      | some value => value.toList
      | none => (Piece.token name).source

/-- One pass of substitution. -/
def substitute (value? : String → Option String) (s : List Char) : List Char :=
  (pieces s).flatMap (Piece.substitute value?)

/-- Passes of substitution until nothing changes, `passes` of them at most. -/
def substituteUpTo (value? : String → Option String) : Nat → List Char → List Char
  | 0, s => s
  | passes + 1, s =>
      let next := substitute value? s
      if next = s then s else substituteUpTo value? passes next

/-- Whether a text still holds a token. -/
def hasToken (s : String) : Bool :=
  (pieces s.toList).any fun piece =>
    match piece with
    | .plain _ => false
    | .token _ => true

end Migration.Property
