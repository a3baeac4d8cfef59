import Mathlib.Data.Nat.Digits.Defs
import Migration.Moment.Reading
import Migration.Proofs.Number

/-!
# Reading the text of a moment

Each number of a date or a time is written with as many digits as are read for it at most, or is
followed by a mark that is none, so that it is read back and what follows it is left.  The text of a
date is no time, and that of a time no date.  So the text of a moment is read back as that moment,
`read?_chars`, if its time has no fraction where a time stands alone, as all that are read have none.
-/

namespace Migration

open Number (isDigits ofDigits)

/-! ## Padded numbers -/

theorem isDigit_of_mem_padded {width n : Nat} {c : Char} (member : c ∈ padded width n) :
    c.isDigit := by
  simp only [padded, List.mem_append, List.mem_replicate] at member
  rcases member with ⟨-, rfl⟩ | digit
  · decide
  · exact Number.isDigit_of_mem_toDigits digit

theorem isDigits_padded (width n : Nat) : isDigits (padded width n) := by
  refine Number.isDigits_iff.mpr ⟨?_, fun c => isDigit_of_mem_padded⟩
  simp [padded, Nat.toDigits_ne_nil]

theorem ofDigits_padded (width n : Nat) : ofDigits (padded width n) = n := by
  have zeros (count : Nat) (s : List Char) :
      ofDigits (List.replicate count '0' ++ s) = ofDigits s := by
    induction count with
    | zero => rfl
    | succ count ih => exact ih
  rw [padded, zeros, Number.ofDigits_toDigits]

theorem length_padded {width n : Nat} (positive : 0 < width) (fits : n < 10 ^ width) :
    (padded width n).length = width := by
  have bound := Nat.toDigits_length 10 n width positive fits
  simp only [padded, List.length_append, List.length_replicate]
  omega

namespace Moment

/-! ## Numbers -/

/-- A number is read if there are no more digits than may be, or no other character is one. -/
theorem digits?_append {width : Nat} {digits rest : List Char} (areDigits : isDigits digits)
    (fits : digits.length ≤ width)
    (ends : digits.length = width ∨ ∀ c ∈ rest.head?, c.isDigit = false) :
    digits? width (digits ++ rest) = some (ofDigits digits, rest) := by
  obtain ⟨nonempty, allDigits⟩ := Number.isDigits_iff.mp areDigits
  have taken : ((digits ++ rest).take width).takeWhile Char.isDigit = digits := by
    rw [List.take_append, List.take_of_length_le fits, List.takeWhile_append_of_pos allDigits]
    rcases ends with full | stops
    · simp [full]
    · cases rest with
      | nil => simp
      | cons c rest =>
          have stop := stops c rfl
          cases width - digits.length with
          | zero => simp
          | succ more => simp [stop]
  simp only [digits?, taken, if_neg nonempty, List.drop_left]

theorem digits?_padded {width n : Nat} (positive : 0 < width) (fits : n < 10 ^ width)
    (rest : List Char) : digits? width (padded width n ++ rest) = some (n, rest) := by
  have length : (padded width n).length = width := length_padded positive fits
  rw [digits?_append (isDigits_padded width n) (Nat.le_of_eq length) (.inl length),
    ofDigits_padded]

theorem trimStart_of_isDigits {digits : List Char} (areDigits : isDigits digits)
    (rest : List Char) : Text.trimStart (digits ++ rest) = digits ++ rest := by
  obtain ⟨nonempty, allDigits⟩ := Number.isDigits_iff.mp areDigits
  obtain ⟨c, others, rfl⟩ := List.exists_cons_of_ne_nil nonempty
  refine Text.trimStart_eq_self fun first isFirst => ?_
  cases isFirst
  exact Number.not_isBlank_of_isDigit (allDigits c List.mem_cons_self)

theorem field?_padded {n : Nat} (fits : n < 100) (rest : List Char) :
    field? (padded 2 n ++ rest) = some (n, rest) := by
  rw [field?, trimStart_of_isDigits (isDigits_padded 2 n), digits?_padded (by decide) fits]

theorem year?_of_isDigits {digits rest : List Char} (areDigits : isDigits digits) :
    year? (digits ++ rest) =
      (digits? 4 (digits ++ rest)).map fun (year, rest) => ((year : Int), rest) := by
  obtain ⟨nonempty, allDigits⟩ := Number.isDigits_iff.mp areDigits
  obtain ⟨c, others, rfl⟩ := List.exists_cons_of_ne_nil nonempty
  have digit := allDigits c List.mem_cons_self
  rw [year?, trimStart_of_isDigits areDigits]
  split
  · rename_i same
    rw [(List.cons.inj same).1] at digit
    cases digit
  · rename_i same
    rw [(List.cons.inj same).1] at digit
    cases digit
  · rfl

theorem year?_yearChars (year : Int) (rest : List Char) :
    year? (yearChars year ++ '-' :: rest) = some (year, '-' :: rest) := by
  have stops : ∀ c ∈ ('-' :: rest).head?, c.isDigit = false := by simp
  unfold yearChars
  split
  next short =>
    rw [year?_of_isDigits (isDigits_padded 4 _), digits?_padded (by decide) (by omega),
      Option.map_some]
    simp only [Int.toNat_of_nonneg short.1]
  next =>
    -- behind a sign any number of digits may stand, and the mark behind the year ends them
    have read := digits?_append (isDigits_padded 4 year.natAbs)
      (show _ ≤ (padded 4 year.natAbs ++ '-' :: rest).length by simp) (.inr stops)
    rw [ofDigits_padded] at read
    split
    next negative =>
      have start : Text.trimStart ('-' :: (padded 4 year.natAbs ++ '-' :: rest)) =
          '-' :: (padded 4 year.natAbs ++ '-' :: rest) := rfl
      rw [List.cons_append, year?, start]
      simp only [read, Option.map_some]
      rw [show -(year.natAbs : Int) = year by omega]
    next positive =>
      have start : Text.trimStart ('+' :: (padded 4 year.natAbs ++ '-' :: rest)) =
          '+' :: (padded 4 year.natAbs ++ '-' :: rest) := rfl
      rw [List.cons_append, year?, start]
      simp only [read, Option.map_some]
      rw [show (year.natAbs : Int) = year by omega]

/-! ## Dates -/

theorem date?_chars (date : Date) (rest : List Char) :
    date? (date.chars ++ rest) = some (date, rest) := by
  have month : date.month < 100 := by have := date.month_inRange; omega
  have day : date.day < 100 := by
    have most : daysInMonth date.year date.month ≤ 31 := by
      unfold daysInMonth
      split
      · split <;> decide
      · split <;> decide
    have := date.day_inRange
    omega
  have isDate : Date.ofParts? date.year date.month date.day = some date := by
    rw [Date.ofParts?, dif_pos date.year_inRange, dif_pos date.month_inRange,
      dif_pos date.day_inRange]
  simp only [Date.chars, List.append_assoc, List.cons_append, date?, year?_yearChars,
    field?_padded month, field?_padded day, mark?, if_true, isDate, bind, Option.bind, pure]

/-! ## Times -/

theorem fraction?_chars {nanosecond : Nat} (fits : nanosecond < 1000000000) :
    fraction? (fractionChars nanosecond) = some (nanosecond, []) := by
  -- as many digits as stand behind the point are read, and zeros make up for those that do not
  have written (width n : Nat) (positive : 0 < width) (most : width ≤ 9) (small : n < 10 ^ width) :
      fraction? ('.' :: padded width n) = some (n * Nat.pow 10 (9 - width), []) := by
    have length := length_padded positive small
    have read : digits? 9 (padded width n ++ []) = some (ofDigits (padded width n), []) :=
      digits?_append (isDigits_padded width n) (Nat.le_trans (Nat.le_of_eq length) most) (.inr nofun)
    rw [List.append_nil, ofDigits_padded] at read
    simp [fraction?, read, length]
  unfold fractionChars
  split
  next none => rw [none]; rfl
  split
  next milliseconds =>
    rw [written 3 _ (by decide) (by decide) (by omega)]
    rw [show nanosecond / 1000000 * Nat.pow 10 (9 - 3) = nanosecond by simp; omega]
  split
  next microseconds =>
    rw [written 6 _ (by decide) (by decide) (by omega)]
    rw [show nanosecond / 1000 * Nat.pow 10 (9 - 6) = nanosecond by simp; omega]
  next =>
    rw [written 9 _ (by decide) (by decide) fits]
    simp

/-- The hours, minutes and seconds of a time, with their marks. -/
theorem chars_eq (time : Time) : time.chars = padded 2 time.hour ++ ':' :: (padded 2 time.minute ++
    ':' :: (padded 2 time.second ++ fractionChars time.nanosecond)) := by
  simp [Time.chars]

theorem ofParts?_self (time : Time) :
    Time.ofParts? time.hour time.minute time.second time.nanosecond = some time := by
  rw [Time.ofParts?, dif_pos ⟨time.hour_lt, time.minute_lt, time.second_le, time.nanosecond_lt⟩]

/-- The text of a time is read up to the fraction of its seconds. -/
theorem time?_chars_eq (withFraction : Bool) (time : Time) :
    time? withFraction time.chars =
      (if withFraction then fraction? (fractionChars time.nanosecond)
        else some (0, fractionChars time.nanosecond)).bind fun (nanosecond, rest) =>
          (Time.ofParts? time.hour time.minute time.second nanosecond).map fun clock =>
            (clock, rest) := by
  have hour : time.hour < 100 := Nat.lt_trans time.hour_lt (by decide)
  have minute : time.minute < 100 := Nat.lt_trans time.minute_lt (by decide)
  have second : time.second < 100 := Nat.lt_of_le_of_lt time.second_le (by decide)
  simp only [chars_eq, time?, field?_padded hour, field?_padded minute, field?_padded second, mark?,
    if_true, bind, Option.bind_some, Option.map_eq_bind, Function.comp_def, pure]
  cases withFraction <;> rfl

theorem time?_chars (time : Time) : time? true time.chars = some (time, []) := by
  simp only [time?_chars_eq, if_true, fraction?_chars time.nanosecond_lt, Option.bind_some,
    ofParts?_self, Option.map_some]

/-- A time without a fraction is read also where none may stand. -/
theorem time?_chars_of_whole {time : Time} (whole : time.nanosecond = 0) :
    time? false time.chars = some (time, []) := by
  have isTime := ofParts?_self time
  rw [whole] at isTime
  simp only [time?_chars_eq, Bool.false_eq_true, if_false, whole, fractionChars, if_true,
    Option.bind_some, isTime, Option.map_some]

/-- A time that is read where no fraction may stand has none, and is read also where one may. -/
theorem time?_of_whole {s : List Char} {clock : Time} (read : time? false s = some (clock, [])) :
    clock.nanosecond = 0 ∧ time? true s = some (clock, []) := by
  simp only [time?, bind, Option.bind_eq_some_iff, pure, Option.some.injEq, Prod.mk.injEq,
    Bool.false_eq_true, if_false] at read
  obtain ⟨_, hour, _, mark, _, minute, _, mark', _, second, _, rfl, _, isClock, rfl, rest⟩ := read
  constructor
  · unfold Time.ofParts? at isClock
    split at isClock
    · cases isClock
      rfl
    · cases isClock
  · simp only [time?, hour, mark, minute, mark', second, if_true, bind, Option.bind_some, pure]
    rw [rest]
    simp only [fraction?, Option.bind_some, isClock]

/-! ## Moments -/

/-- Behind the first number of a time stands no mark of a date. -/
theorem date?_time (time : Time) : date? time.chars = none := by
  have hour : time.hour < 100 := Nat.lt_trans time.hour_lt (by decide)
  have length : (padded 2 time.hour).length = 2 := length_padded (by decide) hour
  have read (rest : List Char) : digits? 4 (padded 2 time.hour ++ ':' :: rest) =
      some (ofDigits (padded 2 time.hour), ':' :: rest) :=
    digits?_append (isDigits_padded 2 time.hour) (by omega) (.inr (by simp))
  rw [chars_eq, date?, year?_of_isDigits (isDigits_padded 2 time.hour), read]
  rfl

/-- Whether a moment is one that can be read: where a time stands alone it has no fraction. -/
def IsWhole : Moment → Prop
  | .time clock => clock.nanosecond = 0
  | _ => True

/-- The text of a moment is read back as that moment. -/
theorem read?_chars {moment : Moment} (isWhole : moment.IsWhole) :
    read? moment.chars = some moment := by
  cases moment with
  | date day =>
      have read := date?_chars day []
      rw [List.append_nil] at read
      simp only [read?, chars, read, whole?, Option.map_some, Option.some_or]
  | dateTime day clock =>
      simp only [read?, chars, dateTime?, date?_chars, time?_chars, mark?, whole?, if_true,
        Option.getD_some, Option.map_none, Option.none_or, Option.some_or, bind, Option.bind, pure]
  | time clock =>
      have noDateTime : dateTime? clock.chars = none := by
        rw [dateTime?, date?_time]
        rfl
      have read : time? false clock.chars = some (clock, []) := time?_chars_of_whole isWhole
      simp only [read?, chars, date?_time, noDateTime, read, whole?, Option.map_none,
        Option.map_some, Option.none_or]

theorem whole?_eq_some {α : Type} {result : Option (α × List Char)} {value : α} :
    whole? result = some value ↔ result = some (value, []) := by
  unfold whole?
  split <;> simp_all

/-- What is read has no fraction where a time stands alone. -/
theorem isWhole_of_read? {s : List Char} {moment : Moment} (read : read? s = some moment) :
    moment.IsWhole := by
  rw [read?, Option.or_eq_some_iff, Option.or_eq_some_iff] at read
  rcases read with isDate | ⟨-, isDateTime | ⟨-, isTime⟩⟩
  · obtain ⟨day, -, rfl⟩ := Option.map_eq_some_iff.mp isDate
    exact trivial
  · simp only [dateTime?, bind, Option.bind_eq_some_iff, pure, Option.some.injEq] at isDateTime
    obtain ⟨_, _, _, _, rfl⟩ := isDateTime
    exact trivial
  · obtain ⟨clock, whole, rfl⟩ := Option.map_eq_some_iff.mp isTime
    exact (time?_of_whole (whole?_eq_some.mp whole)).1

/-! ## Characters -/

/-- No character of the text of a moment is blank. -/
theorem not_isBlank_of_mem_chars {moment : Moment} :
    ∀ c ∈ moment.chars, Text.isBlank c = false := by
  have digits (width n : Nat) : ∀ c ∈ padded width n, Text.isBlank c = false :=
    fun c member => Number.not_isBlank_of_isDigit (isDigit_of_mem_padded member)
  have year (year : Int) : ∀ c ∈ yearChars year, Text.isBlank c = false := by
    unfold yearChars
    split
    · exact digits 4 _
    · refine List.forall_mem_cons.mpr ⟨?_, digits 4 _⟩
      split <;> decide
  have date (day : Date) : ∀ c ∈ day.chars, Text.isBlank c = false := by
    simp only [Date.chars, List.forall_mem_append, List.forall_mem_cons]
    exact ⟨⟨year _, by decide, digits 2 _⟩, by decide, digits 2 _⟩
  have fraction (nanosecond : Nat) : ∀ c ∈ fractionChars nanosecond, Text.isBlank c = false := by
    unfold fractionChars
    split
    · nofun
    split
    · exact List.forall_mem_cons.mpr ⟨by decide, digits 3 _⟩
    split
    · exact List.forall_mem_cons.mpr ⟨by decide, digits 6 _⟩
    · exact List.forall_mem_cons.mpr ⟨by decide, digits 9 _⟩
  have time (clock : Time) : ∀ c ∈ clock.chars, Text.isBlank c = false := by
    simp only [chars_eq, List.forall_mem_append, List.forall_mem_cons]
    exact ⟨digits 2 _, by decide, digits 2 _, by decide, digits 2 _, fraction _⟩
  cases moment with
  | date day => exact date day
  | dateTime day clock =>
      exact List.forall_mem_append.mpr
        ⟨date day, List.forall_mem_cons.mpr ⟨by decide, time clock⟩⟩
  | time clock => exact time clock

end Moment

end Migration
