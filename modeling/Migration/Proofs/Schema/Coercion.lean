import Migration.Proofs.Number
import Migration.Proofs.Schema

/-!
# Values of declared types

A value that has a declared type is its own conversion, so that converting once is enough.  For
integers and booleans it makes no difference either whether they stand between quotes, since their
texts are read back as what they are and as nothing else.  The main statement is
`convert_is_projection`.
-/

namespace Migration

/-! ## Texts of integers and booleans -/

namespace Value

theorem mem_intText {n : Int64} {c : Char} (member : c ∈ (intText n).toList) :
    c = '-' ∨ c.isDigit := by
  rw [intText, Number.toList_repr, List.mem_append] at member
  rcases member with sign | digit
  · split at sign
    · exact .inl (List.mem_singleton.mp sign)
    · cases sign
  · exact .inr (Number.isDigit_of_mem_toDigits digit)

theorem trim_intText (n : Int64) : Text.trim (intText n).toList = (intText n).toList := by
  refine Text.trim_of_not_isBlank fun c member => ?_
  rcases mem_intText member with rfl | digit
  · decide
  · exact Number.not_isBlank_of_isDigit digit

/-- No word of letters is the text of an integer. -/
theorem not_sameLetters_intText (n : Int64) {word : List Char} {letter : Char}
    (isIn : letter ∈ Text.lower word) (other : letter ≠ '-' ∧ letter.isDigit = false) :
    Text.sameLetters (intText n).toList word = false := by
  rw [Bool.eq_false_iff, ne_eq, Text.sameLetters, beq_iff_eq]
  intro same
  rw [← same] at isIn
  obtain ⟨c, member, lowered⟩ := List.mem_map.mp isIn
  have unchanged : c.toLower = c := by
    rcases mem_intText member with rfl | digit
    · rfl
    · exact Number.toLower_of_isDigit digit
  rw [unchanged] at lowered
  subst lowered
  rcases mem_intText member with rfl | digit
  · exact other.1 rfl
  · rw [other.2] at digit
    cases digit

end Value

theorem readInteger?_intText (n : Int64) : readInteger? (Value.intText n) = some n := by
  rw [readInteger?, Value.trim_intText]
  exact Number.readInt64?_repr n

theorem readNumber?_intText (n : Int64) : readNumber? (Value.intText n) = some (.int n) := by
  have read : Number.readInt64? (Value.intText n).toList = some n := Number.readInt64?_repr n
  simp only [readNumber?, Value.trim_intText, read]

theorem readTruth?_intText (n : Int64) : readTruth? (Value.intText n) = none := by
  have noTrue := @Value.not_sameLetters_intText n "true".toList 't' (by decide) (by decide)
  have noFalse := @Value.not_sameLetters_intText n "false".toList 'f' (by decide) (by decide)
  simp only [readTruth?, Value.trim_intText, noTrue, noFalse, Bool.false_eq_true, if_false]

theorem readTruth?_boolText (b : Bool) : readTruth? (Value.boolText b) = some b := by
  cases b <;> decide

theorem readInteger?_boolText (b : Bool) : readInteger? (Value.boolText b) = none := by
  cases b <;> decide

theorem readNumber?_boolText (b : Bool) : readNumber? (Value.boolText b) = none := by
  cases b <;> decide

/-! ## Conversion -/

namespace ParamType

variable {type : ParamType}

/-- A value of the type is converted to itself. -/
theorem convert?_of_admits {value : Value} (admits : type.admits value) :
    type.convert? value = some value := by
  unfold ParamType.admits at admits
  split at admits
  · cases type <;> rfl
  · rfl
  · rfl
  · rfl
  · rfl
  · rfl
  · cases admits

theorem convert?_intText (n : Int64) :
    type.convert? (.text (Value.intText n)) = type.convert? (.int n) := by
  cases type with
  | text => rfl
  | bool =>
      show (readTruth? (Value.intText n)).map Value.bool = none
      rw [readTruth?_intText, Option.map_none]
  | integer =>
      show (readInteger? (Value.intText n)).map Value.int = some (.int n)
      rw [readInteger?_intText, Option.map_some]
  | number => exact readNumber?_intText n

theorem convert?_boolText (b : Bool) :
    type.convert? (.text (Value.boolText b)) = type.convert? (.bool b) := by
  cases type with
  | text => rfl
  | bool =>
      show (readTruth? (Value.boolText b)).map Value.bool = some (.bool b)
      rw [readTruth?_boolText, Option.map_some]
  | integer =>
      show (readInteger? (Value.boolText b)).map Value.int = none
      rw [readInteger?_boolText, Option.map_none]
  | number => exact readNumber?_boolText b

end ParamType

namespace Param

variable (param : Param)

/-- Values that are converted alike and have one text are accepted or refused alike. -/
theorem convert_congr {value other : Value}
    (same : param.type.convert? value = param.type.convert? other)
    (text : value.display = other.display) : param.convert value = param.convert other := by
  simp only [convert, same, text]

/-- What a parameter makes of a value is null or a value of its type, and stays what it is when it is
converted again.  An integer or a boolean becomes the same value when it stands between quotes, or is
refused with the same error. -/
theorem convert_is_projection :
    (∀ value converted, param.convert value = .ok converted →
      param.type.admits converted = true ∧ param.convert converted = .ok converted) ∧
    (∀ n : Int64, param.convert (.text (Value.int n).display) = param.convert (.int n)) ∧
    ∀ b : Bool, param.convert (.text (Value.bool b).display) = param.convert (.bool b) := by
  refine ⟨fun value converted accepted => ?_, fun n => ?_, fun b => ?_⟩
  · have admits := param.admits_of_convert accepted
    refine ⟨admits, ?_⟩
    rw [convert, ParamType.convert?_of_admits admits]
  · exact param.convert_congr (ParamType.convert?_intText n) rfl
  · exact param.convert_congr (ParamType.convert?_boolText b) rfl

/-- A whole floating-point number becomes an integer, and that stays one. -/
theorem convert_wholeFloat :
    convert ⟨"startWith", .integer, false⟩ (.float (.finite true 7 0)) = .ok (.int (-7)) ∧
    ParamType.integer.admits (.int (-7)) = true ∧
    convert ⟨"startWith", .integer, false⟩ (.int (-7)) = .ok (.int (-7)) := by
  have accepted : convert ⟨"startWith", .integer, false⟩ (.float (.finite true 7 0)) =
      .ok (.int (-7)) := rfl
  exact ⟨accepted, (convert_is_projection _).1 _ _ accepted⟩

end Param

end Migration
