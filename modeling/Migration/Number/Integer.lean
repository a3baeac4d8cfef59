/-!
# Integers of 64 bits

Reading decimal digits, and whole 64-bit integers with an optional sign.
-/

namespace Migration.Number

def digitValue (c : Char) : Nat :=
  c.toNat - '0'.toNat

/-- The number written by a run of decimal digits, most significant first. -/
def ofDigits (digits : List Char) : Nat :=
  digits.foldl (fun n c => 10 * n + digitValue c) 0

/-- A non-empty run of the digits 0 to 9. -/
def isDigits (s : List Char) : Bool :=
  s ≠ [] && s.all Char.isDigit

/-- The sign of a number, true for a minus, and what follows it. -/
def takeSign : List Char → Bool × List Char
  | '-' :: s => (true, s)
  | '+' :: s => (false, s)
  | s => (false, s)

/-- The 64-bit integer of a value that fits. -/
def fit64? (n : Int) : Option Int64 :=
  if Int64.minValue.toInt ≤ n ∧ n ≤ Int64.maxValue.toInt then some (Int64.ofInt n) else none

theorem fit64?_toInt (n : Int64) : fit64? n.toInt = some n := by
  rw [fit64?, if_pos ⟨n.minValue_le_toInt, n.toInt_le⟩, Int64.ofInt_toInt]

/-- Reads a 64-bit integer: an optional sign and digits, in range. -/
def readInt64? (s : List Char) : Option Int64 :=
  let (negative, digits) := takeSign s
  if isDigits digits then
    fit64? (if negative then -(ofDigits digits : Int) else ofDigits digits)
  else none

example : readInt64? "+007".toList = some 7 := by decide
example : readInt64? "9223372036854775808".toList = none := by decide
example : readInt64? "-9223372036854775808".toList = some Int64.minValue := by decide

end Migration.Number
