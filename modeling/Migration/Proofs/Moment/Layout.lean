import Migration.Column
import Migration.Proofs.Moment.Text

/-!
# Layouts of dates and times

A layout is a list of parts that are read one after the other, and a text has it if nothing is left
behind the last of them and the numbers that were read are those of a day, of a time of day or of
both.  Reading a moment tries six layouts in their order, `read?_eq_findSome?`.  The main statement,
`ofDate_stable`, is about the values of columns: a date that was read and written is read as the
same date, and a text is left as it is exactly if it has none of the layouts.
-/

namespace Migration

namespace Moment

/-- The numbers that the parts of a layout give. -/
structure Fields where
  year : Int
  month : Nat
  day : Nat
  hour : Nat
  minute : Nat
  second : Nat
  nanosecond : Nat

/-- The numbers before any part is read. -/
def Fields.initial : Fields :=
  ⟨0, 0, 0, 0, 0, 0, 0⟩

/-- A part of a layout: a number, a mark or any blanks. -/
inductive Part where
  | year
  | month
  | day
  | hour
  | minute
  | second
  | fraction
  | mark (c : Char)
  | blanks
  deriving DecidableEq

/-- Reads a part, and keeps the number that it gives. -/
def Part.read? : Fields × List Char → Part → Option (Fields × List Char)
  | (fields, s), .year => (year? s).map fun (n, s) => ({ fields with year := n }, s)
  | (fields, s), .month => (field? s).map fun (n, s) => ({ fields with month := n }, s)
  | (fields, s), .day => (field? s).map fun (n, s) => ({ fields with day := n }, s)
  | (fields, s), .hour => (field? s).map fun (n, s) => ({ fields with hour := n }, s)
  | (fields, s), .minute => (field? s).map fun (n, s) => ({ fields with minute := n }, s)
  | (fields, s), .second => (field? s).map fun (n, s) => ({ fields with second := n }, s)
  | (fields, s), .fraction => (fraction? s).map fun (n, s) => ({ fields with nanosecond := n }, s)
  | (fields, s), .mark c => (mark? c s).map fun s => (fields, s)
  | (fields, s), .blanks => some (fields, Text.trimStart s)

namespace Fields

def date? (fields : Fields) : Option Date :=
  Date.ofParts? fields.year fields.month fields.day

def time? (fields : Fields) : Option Time :=
  Time.ofParts? fields.hour fields.minute fields.second fields.nanosecond

end Fields

/-- What the numbers of a layout are those of. -/
inductive Shape where
  | date
  | dateTime
  | time

def Shape.moment? : Shape → Fields → Option Moment
  | .date, fields => fields.date?.map .date
  | .dateTime, fields => fields.date?.bind fun day => fields.time?.map (.dateTime day)
  | .time, fields => fields.time?.map .time

structure Layout where
  shape : Shape
  parts : List Part

def Layout.read? (layout : Layout) (s : List Char) : Option Moment :=
  (whole? (layout.parts.foldlM Part.read? (Fields.initial, s))).bind layout.shape.moment?

def dateParts : List Part :=
  [.year, .mark '-', .month, .mark '-', .day]

def timeParts (withFraction : Bool) : List Part :=
  [.hour, .mark ':', .minute, .mark ':', .second] ++ if withFraction then [.fraction] else []

/-- A day and a time with a separator between them, first without a fraction of a second. -/
def dateTimes (separator : Part) : List Layout :=
  [⟨.dateTime, dateParts ++ separator :: timeParts false⟩,
   ⟨.dateTime, dateParts ++ separator :: timeParts true⟩]

/-- The layouts that a moment may have. -/
def layouts : List Layout :=
  [⟨.date, dateParts⟩] ++ dateTimes (.mark 'T') ++ dateTimes .blanks ++ [⟨.time, timeParts false⟩]

/-! ## What a list of parts reads -/

section

variable {fields after : Fields} {s rest : List Char}

/-- A part other than a fraction leaves the fraction of a second as it is. -/
theorem Part.nanosecond_of_read? {part : Part} (other : part ≠ .fraction)
    (read : Part.read? (fields, s) part = some (after, rest)) :
    after.nanosecond = fields.nanosecond := by
  cases part with
  | fraction => exact absurd rfl other
  | blanks =>
      cases read
      rfl
  | _ =>
      obtain ⟨_, -, same⟩ := Option.map_eq_some_iff.mp read
      cases same
      rfl

/-- A part of a time leaves the day as it is. -/
theorem Part.date?_of_read? {part : Part} (other : part ≠ .year ∧ part ≠ .month ∧ part ≠ .day)
    (read : Part.read? (fields, s) part = some (after, rest)) : after.date? = fields.date? := by
  cases part with
  | year => exact absurd rfl other.1
  | month => exact absurd rfl other.2.1
  | day => exact absurd rfl other.2.2
  | blanks =>
      cases read
      rfl
  | _ =>
      obtain ⟨_, -, same⟩ := Option.map_eq_some_iff.mp read
      cases same
      rfl

/-- What each of the parts leaves as it is, all of them do. -/
theorem foldlM_keeps {α : Type} {view : Fields → α} {parts : List Part}
    (keeps : ∀ part ∈ parts, ∀ {fields s after rest},
      Part.read? (fields, s) part = some (after, rest) → view after = view fields)
    (read : parts.foldlM Part.read? (fields, s) = some (after, rest)) :
    view after = view fields := by
  induction parts generalizing fields s with
  | nil =>
      cases read
      rfl
  | cons part parts ih =>
      obtain ⟨⟨next, s⟩, isNext, others⟩ := Option.bind_eq_some_iff.mp read
      exact (ih (fun part member => keeps part (List.mem_cons_of_mem _ member)) others).trans
        (keeps part List.mem_cons_self isNext)

end

/-! ## Days and times -/

theorem whole?_bind {α β : Type} (f : α → Option β) (result : Option (α × List Char)) :
    whole? (result.bind fun (value, rest) => (f value).map fun value => (value, rest)) =
      (whole? result).bind f := by
  rcases result with _ | ⟨value, rest⟩
  · rfl
  · rw [Option.bind_some]
    cases value? : f value <;> cases rest <;> simp [whole?, value?]

theorem date?_eq_foldlM (fields : Fields) (s : List Char) :
    date? s = (dateParts.foldlM Part.read? (fields, s)).bind fun (fields, rest) =>
      fields.date?.map fun day => (day, rest) := by
  simp only [date?, dateParts, List.foldlM_cons, List.foldlM_nil, Part.read?, Fields.date?, bind,
    pure, Option.map_eq_bind, Option.bind_assoc, Option.bind_some, Function.comp_def]

theorem time?_eq_foldlM {fields : Fields} (noFraction : fields.nanosecond = 0) (withFraction : Bool)
    (s : List Char) :
    time? withFraction s = ((timeParts withFraction).foldlM Part.read? (fields, s)).bind
      fun (fields, rest) => fields.time?.map fun clock => (clock, rest) := by
  cases withFraction <;>
    simp only [time?, timeParts, List.cons_append, List.nil_append, List.foldlM_cons,
      List.foldlM_nil, Part.read?, Fields.time?, bind, pure, Option.map_eq_bind, Option.bind_assoc,
      Option.bind_some, Function.comp_def, if_true, Bool.false_eq_true, if_false, noFraction]

/-- Behind a day, the parts of a time are read as that time. -/
theorem moment?_timeParts {fields : Fields} (noFraction : fields.nanosecond = 0) (withFraction : Bool)
    (s : List Char) :
    (whole? ((timeParts withFraction).foldlM Part.read? (fields, s))).bind Shape.dateTime.moment? =
      fields.date?.bind fun day => (whole? (time? withFraction s)).map (.dateTime day) := by
  rw [time?_eq_foldlM noFraction, whole?_bind]
  cases read : whole? ((timeParts withFraction).foldlM Part.read? (fields, s)) with
  | none => cases fields.date? <;> rfl
  | some after =>
      have keeps : after.date? = fields.date? := by
        refine foldlM_keeps (fun part member => ?_) (whole?_eq_some.mp read)
        refine Part.date?_of_read? ?_
        revert part
        cases withFraction <;> decide
      rw [Option.bind_some, Option.bind_some, Shape.moment?, keeps]

/-- A time without a fraction is also one that may have a fraction. -/
theorem whole?_time?_or (s : List Char) :
    (whole? (time? false s)).or (whole? (time? true s)) = whole? (time? true s) := by
  cases read : whole? (time? false s) with
  | none => rfl
  | some clock =>
      rw [(time?_of_whole (whole?_eq_some.mp read)).2]
      rfl

/-- No number starts with a `T`. -/
theorem time?_T (withFraction : Bool) (s : List Char) : time? withFraction ('T' :: s) = none := by
  have noHour : field? ('T' :: s) = none := rfl
  rw [time?, noHour]
  rfl

section

variable {separator : Part} (skip? : List Char → Option (List Char))
  (skips : ∀ fields s, Part.read? (fields, s) separator = (skip? s).map fun s => (fields, s))

include skips

theorem moment?_separator {fields : Fields} (noFraction : fields.nanosecond = 0) (withFraction : Bool)
    (s : List Char) :
    (whole? ((separator :: timeParts withFraction).foldlM Part.read? (fields, s))).bind
        Shape.dateTime.moment? =
      fields.date?.bind fun day =>
        (skip? s).bind fun s => (whole? (time? withFraction s)).map (.dateTime day) := by
  rw [List.foldlM_cons, skips]
  cases skip? s with
  | none => cases fields.date? <;> rfl
  | some s => exact moment?_timeParts noFraction withFraction s

/-- In a layout for both, a day is read, then what separates it from the time, then the time. -/
theorem read?_dateTime (withFraction : Bool) (s : List Char) :
    Layout.read? ⟨.dateTime, dateParts ++ separator :: timeParts withFraction⟩ s =
      (date? s).bind fun (day, s) =>
        (skip? s).bind fun s => (whole? (time? withFraction s)).map (.dateTime day) := by
  rw [Layout.read?, List.foldlM_append, date?_eq_foldlM Fields.initial]
  cases read : dateParts.foldlM Part.read? (Fields.initial, s) with
  | none => rfl
  | some state =>
      obtain ⟨fields, rest⟩ := state
      have noFraction : fields.nanosecond = 0 := by
        refine foldlM_keeps (fun part member => ?_) read
        refine Part.nanosecond_of_read? ?_
        revert part
        decide
      refine (moment?_separator skip? skips noFraction withFraction rest).trans ?_
      dsimp only [Option.bind_some]
      cases fields.date? <;> rfl

/-- Of the two layouts with a separator the one with a fraction reads also what the other does. -/
theorem findSome?_dateTimes (s : List Char) :
    (dateTimes separator).findSome? (fun layout => layout.read? s) =
      (date? s).bind fun (day, s) =>
        (skip? s).bind fun s => (whole? (time? true s)).map (.dateTime day) := by
  have both (a b : Layout) : [a, b].findSome? (fun layout => layout.read? s) =
      (a.read? s).or (b.read? s) := by
    rw [← List.singleton_append, List.findSome?_append, List.findSome?_singleton,
      List.findSome?_singleton]
  rw [dateTimes, both, read?_dateTime skip? skips, read?_dateTime skip? skips]
  rcases date? s with _ | ⟨day, s⟩
  · rfl
  rcases separated : skip? s with _ | s
  · simp only [Option.bind_some, separated]
    rfl
  · simp only [Option.bind_some, separated]
    rw [← Option.map_or, whole?_time?_or]

end

theorem read?_date (s : List Char) :
    Layout.read? ⟨.date, dateParts⟩ s = (whole? (date? s)).map .date := by
  rw [date?_eq_foldlM Fields.initial, whole?_bind, Option.map_bind]
  rfl

theorem read?_time (s : List Char) :
    Layout.read? ⟨.time, timeParts false⟩ s = (whole? (time? false s)).map .time := by
  rw [time?_eq_foldlM (show Fields.initial.nanosecond = 0 from rfl), whole?_bind, Option.map_bind]
  rfl

/-- Behind a `T` no blanks make up for it, so that what separates a day and a time is read before the
time is. -/
theorem dateTime?_eq_or (s : List Char) :
    dateTime? s = ((dateTimes (.mark 'T')).findSome? fun layout => layout.read? s).or
      ((dateTimes .blanks).findSome? fun layout => layout.read? s) := by
  have blanks (s : List Char) : (dateTimes .blanks).findSome? (fun layout => layout.read? s) =
      (date? s).bind fun (day, s) => (whole? (time? true (Text.trimStart s))).map (.dateTime day) :=
    findSome?_dateTimes (fun s => some (Text.trimStart s)) (fun _ _ => rfl) s
  rw [findSome?_dateTimes (mark? 'T') (fun _ _ => rfl), blanks, dateTime?]
  rcases date? s with _ | ⟨day, rest⟩
  · rfl
  simp only [bind, pure, Option.bind_some, Option.map_eq_bind]
  cases separated : mark? 'T' rest with
  | none => rfl
  | some after =>
      have isT : rest = 'T' :: after := by
        cases rest with
        | nil => cases separated
        | cons c s =>
            rw [mark?] at separated
            split at separated
            · rename_i same
              rw [same, Option.some.inj separated]
            · cases separated
      have noTime : time? true (Text.trimStart rest) = none := by
        rw [isT]
        exact time?_T true after
      rw [noTime]
      exact Option.or_none.symm

/-- A moment is read by the first of the layouts that a text has. -/
theorem read?_eq_findSome? (s : List Char) :
    read? s = layouts.findSome? fun layout => layout.read? s := by
  simp only [layouts, List.findSome?_append, List.findSome?_singleton, read?_date, read?_time,
    Option.or_assoc]
  rw [read?, dateTime?_eq_or, Option.or_assoc]

end Moment

/-! ## Values of columns -/

namespace ColumnValue

/-- A date that was read from a text and written is read as the same date again.  A text is left as
it is exactly if it has none of the layouts. -/
theorem ofDate_stable (raw : String) :
    (∀ moment, ofDate raw = .date moment → ofDate moment.text = .date moment) ∧
    (ofDate raw = .computed raw ↔
      ∀ layout ∈ Moment.layouts, layout.read? (Text.trim raw.toList) = none) := by
  constructor
  · intro moment isDate
    have read : Moment.read? (Text.trim raw.toList) = some moment := by
      rw [ofDate] at isDate
      split at isDate
      next read => rw [read, ColumnValue.date.inj isDate]
      next => cases isDate
    have solid : Text.trim moment.text.toList = moment.chars := by
      rw [Moment.text, String.toList_ofList]
      exact Text.trim_of_not_isBlank Moment.not_isBlank_of_mem_chars
    rw [ofDate, solid, Moment.read?_chars (Moment.isWhole_of_read? read)]
  · rw [← List.findSome?_eq_none_iff, ← Moment.read?_eq_findSome?, ofDate]
    cases Moment.read? (Text.trim raw.toList) with
    | none => simp
    | some moment => simp

/-- A leap second on a leap day, with a blank before the time instead of a `T`. -/
theorem ofDate_leapSecond :
    ∃ moment, ofDate " 2024-2-29 1:02:60.5" = .date moment ∧
      moment.text = "2024-02-29T01:02:60.500" ∧
      ofDate "2024-02-29T01:02:60.500" = .date moment := by
  have read : ofDate " 2024-2-29 1:02:60.5" =
      .date (.dateTime ⟨2024, 2, 29, by decide, by decide, by decide⟩
        ⟨1, 2, 60, 500000000, by decide, by decide, by decide, by decide⟩) := by
    decide +kernel
  have text : Moment.text (.dateTime ⟨2024, 2, 29, by decide, by decide, by decide⟩
      ⟨1, 2, 60, 500000000, by decide, by decide, by decide, by decide⟩) =
        "2024-02-29T01:02:60.500" := by
    decide +kernel
  have again := (ofDate_stable " 2024-2-29 1:02:60.5").1 _ read
  rw [text] at again
  exact ⟨_, read, text, again⟩

end ColumnValue

end Migration
