import Migration.Number.Integer
import Migration.Pattern.Mode
import Migration.Pattern.Term

/-!
# Repetition marks

`?`, `*`, `+` and counts in braces, each with an optional question mark that makes it prefer fewer
copies.
-/

namespace Migration.Pattern

/-- The bounds that a mark of one character stands for. -/
def boundsOf? (mark : Char) : Option (Nat × Option Nat) :=
  if mark = '?' then some (0, some 1)
  else if mark = '*' then some (0, none)
  else if mark = '+' then some (1, none)
  else none

/-- Reads an optional question mark behind bounds. -/
def withPreference (mode : Mode) (least : Nat) (most : Option Nat) :
    List Char → Counts × List Char
  | '?' :: s => (⟨least, most, !mode.swapGreed⟩, s)
  | s => (⟨least, most, mode.swapGreed⟩, s)

/-- Reads a number below 2^32 with blanks around it. -/
def count? (mode : Mode) (s : List Char) : Option (Nat × List Char) :=
  let (digits, rest) := mode.run Char.isDigit false ((mode.skip s).dropWhile Text.isBlank)
  let n := Number.ofDigits digits
  if digits ≠ [] && n < UInt32.size then some (n, mode.skip (rest.dropWhile Text.isBlank)) else none

/-- Reads the second count of `{2,3}` or `{2,}`, or repeats the first. -/
def upperCount? (mode : Mode) (least : Nat) : List Char → Option (Option Nat × List Char)
  | ',' :: s =>
      match mode.skip s with
      | '}' :: rest => some (none, '}' :: rest)
      | s => (count? mode s).map fun (most, rest) => (some most, rest)
  | s => some (some least, s)

/-- Reads counts whose opening brace is read. -/
def counts? (mode : Mode) (s : List Char) : Option (Counts × List Char) := do
  let (least, s) ← count? mode s
  let (most, s) ← upperCount? mode least s
  match s with
  | '}' :: rest =>
      if most.all (least ≤ ·) then some (withPreference mode least most (mode.skip rest)) else none
  | _ => none

end Migration.Pattern
