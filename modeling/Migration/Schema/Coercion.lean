import Migration.Schema
import Migration.Text.Blank
import Migration.Text.Case

/-!
# Conversion to declared types

Values are converted to the type of their parameter. Texts may hold booleans and numbers, floating
numbers that are whole may stand for integers, and every value but null has a text.
-/

namespace Migration

open Number (Binary64 fit64? readInt64?)

/-- Reads a truth value in any letter case. -/
def readTruth? (s : String) : Option Bool :=
  let word := Text.trim s.toList
  if Text.sameLetters word "true".toList then some true
  else if Text.sameLetters word "false".toList then some false
  else none

/-- The truth value of a value that is not null. -/
def Value.truth? : Value → Option Bool
  | .bool b => some b
  | .text s => readTruth? s
  | _ => none

/-- A 64-bit integer from a text. -/
def readInteger? (s : String) : Option Int64 :=
  readInt64? (Text.trim s.toList)

/-- A number from a text: an integer where it is one, else a floating number. -/
def readNumber? (s : String) : Option Value :=
  let trimmed := Text.trim s.toList
  match readInt64? trimmed with
  | some n => some (.int n)
  | none => (Binary64.read? trimmed).map .float

/-- Converts a value to a type. Null stays what it is. -/
def ParamType.convert? : ParamType → Value → Option Value
  | _, .null => some .null
  | .text, value => value.plain?.map .text
  | .bool, value => value.truth?.map .bool
  | .integer, .int n => some (.int n)
  | .integer, .float x => (x.toInt?.bind fit64?).map .int
  | .integer, .text s => (readInteger? s).map .int
  | .integer, _ => none
  | .number, .int n => some (.int n)
  | .number, .float x => some (.float x)
  | .number, .text s => readNumber? s
  | .number, _ => none

example : readInteger? " 42 " = some 42 := by decide
example : readTruth? "TRUE " = some true ∧ readTruth? "yes" = none := by decide

end Migration
