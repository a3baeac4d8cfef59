import Migration.Number.Binary64

/-!
# Shortest decimal text

A finite floating-point number is written with the fewest decimal digits that read back as the
same number and, of those with that many digits, with the nearest to it. The texts differ only in
where the point stands and in what happens to two equally near digits.
-/

namespace Migration.Number.Binary64

/-- Which of two equally near decimals is written: the greater, or the one with an even last
digit. -/
inductive Tie where
  | up
  | even

/-- A positive number and the interval of those that round to it, as whole multiples of a common
fraction `1 / divisor`. -/
structure Rounding where
  value : Nat
  below : Nat
  above : Nat
  divisor : Nat
  closed : Bool

/-- The interval of a finite number: half way to each neighbour. The ends belong to it when the
significand is even. The lower neighbour of a power of two is nearer. -/
def rounding (significand : Nat) (exponent : Int) : Rounding :=
  let powerOfTwo := significand = Nat.pow 2 52 ∧ exponent > minExponent
  let (quarter, divisor) : Nat × Nat :=
    match exponent - 2 with
    | .ofNat e => (Nat.pow 2 e, 1)
    | .negSucc e => (1, Nat.pow 2 (e + 1))
  { value := 4 * significand * quarter
    below := (if powerOfTwo then 1 else 2) * quarter
    above := 2 * quarter
    divisor := divisor
    closed := significand % 2 = 0 }

/-- How many digits stand before the point of a positive quotient, negative when zeros follow it. -/
def placesBefore (dividend divisor : Nat) : Int :=
  if dividend ≥ divisor then (Nat.toDigits 10 (dividend / divisor)).length
  else
    let zeros := (Nat.toDigits 10 (divisor / dividend)).length
    if dividend * Nat.pow 10 (zeros - 1) ≥ divisor then 2 - (zeros : Int) else 1 - (zeros : Int)

/-- The decimal of the grid of multiples of `10 ^ exponent` that is written for a number, if one
of its two neighbours there rounds to it. -/
def onGrid? (tie : Tie) (r : Rounding) (exponent : Int) : Option Nat :=
  let (up, down) : Nat × Nat :=
    match exponent with
    | .ofNat e => (1, Nat.pow 10 e)
    | .negSucc e => (Nat.pow 10 (e + 1), 1)
  let step := r.divisor * down
  let value := r.value * up
  let low := value / step
  let excess := value - low * step
  let missing := step - excess
  let lowFits : Bool := excess < r.below * up || (r.closed && excess = r.below * up)
  let highFits : Bool := missing < r.above * up || (r.closed && missing = r.above * up)
  let upward : Bool :=
    match tie with
    | .up => decide (missing ≤ excess)
    | .even => decide (missing < excess ∨ (missing = excess ∧ low % 2 = 1))
  if lowFits && highFits then some (if upward then low + 1 else low)
  else if lowFits then some low
  else if highFits then some (low + 1)
  else none

def firstGrid (tie : Tie) (r : Rounding) (places : Int) : Nat → Nat → Nat × Int
  | 0, _ => (0, 0)
  | fuel + 1, digits =>
      let exponent := places - digits
      match onGrid? tie r exponent with
      | some decimal => (decimal, exponent)
      | none => firstGrid tie r places fuel (digits + 1)

/-- Zeros at the end of the digits become part of the exponent. -/
def dropZeros : Nat → Nat × Int → Nat × Int
  | 0, decimal => decimal
  | fuel + 1, (digits, exponent) =>
      if digits ≠ 0 ∧ digits % 10 = 0 then dropZeros fuel (digits / 10, exponent + 1)
      else (digits, exponent)

/-- The digits and the decimal exponent of the shortest decimal of a positive number. Seventeen
digits always suffice. -/
def shortest (tie : Tie) (significand : Nat) (exponent : Int) : Nat × Int :=
  let r := rounding significand exponent
  dropZeros 18 (firstGrid tie r (placesBefore r.value r.divisor) 17 1)

/-- Digits with the point at its place and zeros between them, and no point after whole numbers. -/
def positional (digits : List Char) (exponent : Int) : List Char :=
  match exponent with
  | .ofNat e => digits ++ List.replicate e '0'
  | .negSucc e =>
      if e + 1 < digits.length then
        digits.take (digits.length - (e + 1)) ++ '.' :: digits.drop (digits.length - (e + 1))
      else '0' :: '.' :: (List.replicate (e + 1 - digits.length) '0' ++ digits)

def sign (negative : Bool) : List Char :=
  if negative then ['-'] else []

/-- The text of a number: the shortest digits, never with an exponent. -/
def toText : Binary64 → String
  | .finite negative significand exponent =>
      if significand = 0 then String.ofList (sign negative ++ ['0'])
      else
        let (digits, exponent) := shortest .up significand exponent
        String.ofList (sign negative ++ positional (Nat.toDigits 10 digits) exponent)
  | .infinite negative => String.ofList (sign negative ++ "inf".toList)
  | .nan => "NaN"

/-- The text of a finite number in a JSON document: whole numbers end in `.0`, and numbers below
one hundred-thousandth or from ten to the sixteenth on have an exponent, always with its sign. -/
def jsonText (negative : Bool) (significand : Nat) (exponent : Int) : String :=
  if significand = 0 then String.ofList (sign negative ++ "0.0".toList)
  else
    let (number, exponent) := shortest .even significand exponent
    let digits := Nat.toDigits 10 number
    let places : Int := digits.length + exponent
    let body : List Char :=
      if exponent ≥ 0 ∧ places ≤ 16 then positional digits exponent ++ ".0".toList
      else if -5 < places ∧ places ≤ 16 then positional digits exponent
      else
        let rest := digits.drop 1
        digits.take 1 ++ (if rest = [] then [] else '.' :: rest) ++
          'e' :: ((if places > 0 then ['+'] else []) ++ (toString (places - 1)).toList)
    String.ofList (sign negative ++ body)

end Migration.Number.Binary64
