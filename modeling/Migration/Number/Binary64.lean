import Migration.Number.Integer
import Migration.Text.Case

/-!
# Binary floating-point numbers

The values of the 64-bit binary format as exact data, and reading them from decimal text with one
rounding, to the nearest value and on a tie to the even one.
-/

namespace Migration.Number

/-- A 64-bit floating-point number. A finite one is its significand times two to its exponent;
the significand is below 2 ^ 53, and at least 2 ^ 52 unless the exponent is the least one. -/
inductive Binary64 where
  | finite (negative : Bool) (significand : Nat) (exponent : Int)
  | infinite (negative : Bool)
  | nan
  deriving DecidableEq, Inhabited

namespace Binary64

/-- The least exponent of a finite number. -/
def minExponent : Int := -1074

/-- The greatest exponent of a finite number. -/
def maxExponent : Int := 971

def zero (negative : Bool) : Binary64 :=
  .finite negative 0 minExponent

/-- The nearest whole number to a quotient, the even one of two. -/
def divideToNearest (dividend divisor : Nat) : Nat :=
  let quotient := dividend / divisor
  let twice := 2 * (dividend % divisor)
  if twice > divisor ∨ (twice = divisor ∧ quotient % 2 = 1) then quotient + 1 else quotient

/-- A quotient divided by two to an exponent, again as a quotient. -/
def scale (dividend divisor : Nat) : Int → Nat × Nat
  | .ofNat exponent => (dividend, divisor * Nat.pow 2 exponent)
  | .negSucc exponent => (dividend * Nat.pow 2 (exponent + 1), divisor)

/-- The exponent at which a positive quotient has 53 bits before the point, or the least one. -/
def exponentOf (dividend divisor : Nat) : Int :=
  let guess : Int := (dividend.log2 : Int) - divisor.log2 - 53
  let scaled := scale dividend divisor guess
  max minExponent (if scaled.1 / scaled.2 < Nat.pow 2 53 then guess else guess + 1)

/-- The number nearest to a quotient. -/
def ofQuotient (negative : Bool) (dividend divisor : Nat) : Binary64 :=
  if dividend = 0 then zero negative
  else
    let exponent := exponentOf dividend divisor
    let scaled := scale dividend divisor exponent
    let significand := divideToNearest scaled.1 scaled.2
    let (significand, exponent) :=
      if significand = Nat.pow 2 53 then (Nat.pow 2 52, exponent + 1) else (significand, exponent)
    if exponent > maxExponent then .infinite negative
    else .finite negative significand exponent

/-- The number nearest to `digits` times ten to `exponent`. Quotients far beyond the range of the
finite numbers are not formed. -/
def ofDecimal (negative : Bool) (digits : Nat) (exponent : Int) : Binary64 :=
  let places : Int := (Nat.toDigits 10 digits).length + exponent
  if digits = 0 ∨ places < -400 then zero negative
  else if places > 400 then .infinite negative
  else
    match exponent with
    | .ofNat exponent => ofQuotient negative (digits * Nat.pow 10 exponent) 1
    | .negSucc exponent => ofQuotient negative digits (Nat.pow 10 (exponent + 1))

/-- Reads an exponent part, an `e`, an optional sign and digits, which may be missing as a whole. -/
def readExponent? : List Char → Option Int
  | [] => some 0
  | c :: s =>
      let (negative, digits) := takeSign s
      if (c = 'e' || c = 'E') && isDigits digits then
        some (if negative then -(ofDigits digits : Int) else ofDigits digits)
      else none

/-- Reads digits with an optional point among them or at either end, and an optional exponent. -/
def readDecimal? (negative : Bool) (s : List Char) : Option Binary64 :=
  let whole := s.takeWhile Char.isDigit
  let afterWhole := s.dropWhile Char.isDigit
  let (fraction, rest) :=
    match afterWhole with
    | '.' :: s => (s.takeWhile Char.isDigit, s.dropWhile Char.isDigit)
    | s => ([], s)
  if whole = [] ∧ fraction = [] then none
  else
    (readExponent? rest).map fun exponent =>
      ofDecimal negative (ofDigits (whole ++ fraction)) (exponent - fraction.length)

/-- Reads a number: an optional sign, and then decimal text or one of the words `inf`, `infinity`
and `nan` in any letter case. -/
def read? (s : List Char) : Option Binary64 :=
  let (negative, body) := takeSign s
  match readDecimal? negative body with
  | some number => some number
  | none =>
      let word := Text.lower body
      if word = "inf".toList ∨ word = "infinity".toList then some (.infinite negative)
      else if word = "nan".toList then some .nan
      else none

/-- The whole number that a floating-point number is, if it is one. -/
def toInt? : Binary64 → Option Int
  | .finite negative significand exponent =>
      let size : Option Nat :=
        match exponent with
        | .ofNat exponent => some (significand * Nat.pow 2 exponent)
        | .negSucc exponent =>
            let unit := Nat.pow 2 (exponent + 1)
            if significand % unit = 0 then some (significand / unit) else none
      size.map fun size => if negative then -(size : Int) else size
  | .infinite _ => none
  | .nan => none

def isFinite : Binary64 → Bool
  | .finite .. => true
  | _ => false

example : read? "1.5e0".toList = some (.finite false (3 * 2 ^ 51) (-52)) := by decide +kernel
example : read? "4.9e-324".toList = some (.finite false 1 (-1074)) := by decide +kernel
example : read? "1.7976931348623159e308".toList = some (.infinite false) := by decide +kernel
example : (read? "-12e1".toList).bind toInt? = some (-120) := by decide +kernel

end Binary64

end Migration.Number
