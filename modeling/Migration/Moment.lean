/-!
# Dates and times of day

Dates of the proleptic Gregorian calendar, times of day down to nanoseconds, and their text. A
leap second is a sixtieth second.
-/

namespace Migration

def isLeapYear (year : Int) : Bool :=
  year % 4 = 0 && (year % 100 ≠ 0 || year % 400 = 0)

def daysInMonth (year : Int) (month : Nat) : Nat :=
  if month = 2 then (if isLeapYear year then 29 else 28)
  else if month = 4 ∨ month = 6 ∨ month = 9 ∨ month = 11 then 30
  else 31

/-- A day of a year between -262143 and 262142. -/
structure Date where
  year : Int
  month : Nat
  day : Nat
  year_inRange : -262143 ≤ year ∧ year ≤ 262142
  month_inRange : 1 ≤ month ∧ month ≤ 12
  day_inRange : 1 ≤ day ∧ day ≤ daysInMonth year month
  deriving DecidableEq

def Date.ofParts? (year : Int) (month day : Nat) : Option Date :=
  if inYear : -262143 ≤ year ∧ year ≤ 262142 then
    if inMonth : 1 ≤ month ∧ month ≤ 12 then
      if inDay : 1 ≤ day ∧ day ≤ daysInMonth year month then
        some ⟨year, month, day, inYear, inMonth, inDay⟩
      else none
    else none
  else none

structure Time where
  hour : Nat
  minute : Nat
  second : Nat
  nanosecond : Nat
  hour_lt : hour < 24
  minute_lt : minute < 60
  second_le : second ≤ 60
  nanosecond_lt : nanosecond < 1000000000
  deriving DecidableEq

def Time.ofParts? (hour minute second nanosecond : Nat) : Option Time :=
  if inDay : hour < 24 ∧ minute < 60 ∧ second ≤ 60 ∧ nanosecond < 1000000000 then
    some ⟨hour, minute, second, nanosecond, inDay.1, inDay.2.1, inDay.2.2.1, inDay.2.2.2⟩
  else none

inductive Moment where
  | date (d : Date)
  | dateTime (d : Date) (t : Time)
  | time (t : Time)
  deriving DecidableEq

/-! ## Text -/

/-- Digits with zeros before them up to a width. -/
def padded (width n : Nat) : List Char :=
  let digits := Nat.toDigits 10 n
  List.replicate (width - digits.length) '0' ++ digits

/-- A year has four digits, and a sign when it is before zero or has more digits than that. -/
def yearChars (year : Int) : List Char :=
  if 0 ≤ year ∧ year ≤ 9999 then padded 4 year.toNat
  else (if year < 0 then '-' else '+') :: padded 4 year.natAbs

def Date.chars (date : Date) : List Char :=
  yearChars date.year ++ '-' :: padded 2 date.month ++ '-' :: padded 2 date.day

/-- A fraction of a second has three, six or nine digits, or none if it is zero. -/
def fractionChars (nanosecond : Nat) : List Char :=
  if nanosecond = 0 then []
  else if nanosecond % 1000000 = 0 then '.' :: padded 3 (nanosecond / 1000000)
  else if nanosecond % 1000 = 0 then '.' :: padded 6 (nanosecond / 1000)
  else '.' :: padded 9 nanosecond

def Time.chars (time : Time) : List Char :=
  padded 2 time.hour ++ ':' :: padded 2 time.minute ++ ':' :: padded 2 time.second ++
    fractionChars time.nanosecond

def Moment.chars : Moment → List Char
  | .date d => d.chars
  | .dateTime d t => d.chars ++ 'T' :: t.chars
  | .time t => t.chars

def Moment.text (moment : Moment) : String :=
  String.ofList moment.chars

end Migration
