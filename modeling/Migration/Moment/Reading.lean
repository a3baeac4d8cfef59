import Migration.Moment
import Migration.Number.Integer
import Migration.Text.Blank

/-!
# Reading dates and times

A text is a date, a date and a time, or a time. Blanks may stand before each number, numbers may
leave out zeros at their front, and a time behind a date may have a fraction of a second.
-/

namespace Migration

open Number (ofDigits)

namespace Moment

/-- Reads a number of one digit up to `width` digits. -/
def digits? (width : Nat) (s : List Char) : Option (Nat × List Char) :=
  let digits := (s.take width).takeWhile Char.isDigit
  if digits = [] then none else some (ofDigits digits, s.drop digits.length)

/-- Reads a number of one or two digits. -/
def field? (s : List Char) : Option (Nat × List Char) :=
  digits? 2 (Text.trimStart s)

/-- Reads a year: up to four digits, or a sign and any number of digits. -/
def year? (s : List Char) : Option (Int × List Char) :=
  match Text.trimStart s with
  | '-' :: s => (digits? s.length s).map fun (year, rest) => (-(year : Int), rest)
  | '+' :: s => (digits? s.length s).map fun (year, rest) => ((year : Int), rest)
  | s => (digits? 4 s).map fun (year, rest) => ((year : Int), rest)

/-- Reads a mark between numbers. -/
def mark? (mark : Char) : List Char → Option (List Char)
  | [] => none
  | c :: s => if c = mark then some s else none

def date? (s : List Char) : Option (Date × List Char) := do
  let (year, s) ← year? s
  let s ← mark? '-' s
  let (month, s) ← field? s
  let s ← mark? '-' s
  let (day, s) ← field? s
  let day ← Date.ofParts? year month day
  return (day, s)

/-- Reads a fraction of a second in nanoseconds, if there is one. Its digits from the tenth on are
dropped. -/
def fraction? : List Char → Option (Nat × List Char)
  | '.' :: s => do
      let (number, rest) ← digits? 9 s
      let length := s.length - rest.length
      return (number * Nat.pow 10 (9 - length), rest.dropWhile Char.isDigit)
  | s => some (0, s)

/-- Reads a time of day. -/
def time? (withFraction : Bool) (s : List Char) : Option (Time × List Char) := do
  let (hour, s) ← field? s
  let s ← mark? ':' s
  let (minute, s) ← field? s
  let s ← mark? ':' s
  let (second, s) ← field? s
  let (nanosecond, s) ← if withFraction then fraction? s else some (0, s)
  let clock ← Time.ofParts? hour minute second nanosecond
  return (clock, s)

/-- What was read, if nothing is left. -/
def whole? {α : Type} : Option (α × List Char) → Option α
  | some (value, []) => some value
  | _ => none

/-- Reads a date, a `T` or any blanks, and a time. -/
def dateTime? (s : List Char) : Option Moment := do
  let (day, s) ← date? s
  let s := (mark? 'T' s).getD (Text.trimStart s)
  let clock ← whole? (time? true s)
  return .dateTime day clock

/-- Reads a date, a date and a time, or a time. -/
def read? (s : List Char) : Option Moment :=
  ((whole? (date? s)).map .date).or
    ((dateTime? s).or ((whole? (time? false s)).map .time))

example : (read? "2024-2-29 1:02:60.5".toList).map Moment.text =
    some "2024-02-29T01:02:60.500" := by decide +kernel
example : (read? "-1-01-01".toList).map Moment.text = some "-0001-01-01" := by decide +kernel
example : read? "2023-02-29".toList = none := by decide +kernel

end Moment

end Migration
