import Migration.Filter.Labels
import Migration.Proofs.Filter.Spelling

/-!
# Formulas written as filter expressions

A formula is written with parentheses where the precedence of its operators needs them, and wherever
else one likes.  An operand and a conjunction are read as one operand with their value, a disjunction
as alternatives of which one has it.  The main statement, `isMatch_eq_value`, says that context and
label expressions match as the formula says that they write.
-/

namespace Migration.Filter

/-- A boolean expression over names. -/
inductive Formula where
  | name (s : List Char)
  | not (f : Formula)
  | and (f g : Formula)
  | or (f g : Formula)

namespace Formula

/-- The truth value of a formula when `holds` tells which names are true. -/
def value (holds : List Char → Bool) : Formula → Bool
  | .name s => holds s
  | .not f => !f.value holds
  | .and f g => f.value holds && g.value holds
  | .or f g => f.value holds || g.value holds

/-- Where a written formula may stand without parentheses around it: as an operand of any operator, as
one of `and` and `or`, or as one of `or` only. -/
inductive Form where
  | operand
  | conjunction
  | disjunction

/-- The tokens that write a formula. -/
inductive Writes : Form → Formula → List Token → Prop where
  | name (s : List Char) : Writes .operand (.name s) [.name s]
  | not {f : Formula} {read : List Token} (inner : Writes .operand f read) :
      Writes .operand (.not f) (.not :: read)
  | group {f : Formula} {read : List Token} (inner : Writes .disjunction f read) :
      Writes .operand f (.opening :: (read ++ [.closing]))
  | conjunct {f : Formula} {read : List Token} (inner : Writes .operand f read) :
      Writes .conjunction f read
  | and {f g : Formula} {first second : List Token} (left : Writes .conjunction f first)
      (right : Writes .conjunction g second) :
      Writes .conjunction (.and f g) (first ++ .and :: second)
  | disjunct {f : Formula} {read : List Token} (inner : Writes .conjunction f read) :
      Writes .disjunction f read
  | or {f g : Formula} {first second : List Token} (left : Writes .disjunction f first)
      (right : Writes .disjunction g second) :
      Writes .disjunction (.or f g) (first ++ .or :: second)

/-- Whether a text writes a formula. -/
def IsWritten (f : Formula) (s : List Char) : Prop :=
  ∃ read, Writes .disjunction f read ∧ Spells read s

end Formula

/-! ## Reading written formulas -/

variable {holds : List Char → Bool}

theorem Level.operand_negated (level : Level) (value : Bool) :
    { level with negated := !level.negated }.operand value = level.operand (!value) := by
  cases value <;> cases negated : level.negated <;> simp [Level.operand, negated]

theorem Level.operand_operand {level : Level} (plain : level.negated = false) (first second : Bool) :
    (level.operand first).operand second = level.operand (first && second) := by
  simp [Level.operand, plain, Bool.and_assoc]

theorem Level.negated_operand (level : Level) (value : Bool) :
    (level.operand value).negated = false := rfl

theorem atOperator_nil (level : Level) (outer : List Level) :
    atOperator holds level outer [] = close level outer := by
  cases outer <;> rfl

/-- Whether some tokens are read as an operand with a value, before anything that may follow them. -/
def IsOperand (holds : List Char → Bool) (read : List Token) (value : Bool) (level : Level) : Prop :=
  ∀ outer rest, atOperand holds level outer (read ++ rest) =
    atOperator holds (level.operand value) outer rest

/-- Whether some tokens are read as alternatives of which one holds if `value` says so. -/
def AreAlternatives (holds : List Char → Bool) (read : List Token) (value : Bool) : Prop :=
  ∀ earlier, ∃ level : Level, level.negated = false ∧ level.value = (earlier || value) ∧
    ∀ outer rest, atOperand holds ⟨earlier, true, false⟩ outer (read ++ rest) =
      atOperator holds level outer rest

/-- How the tokens of a formula are read, by the places where it may stand. -/
def IsReadAs (holds : List Char → Bool) (read : List Token) (value : Bool) : Formula.Form → Prop
  | .operand => ∀ level, IsOperand holds read value level
  | .conjunction => ∀ level : Level, level.negated = false → IsOperand holds read value level
  | .disjunction => AreAlternatives holds read value

namespace Formula

theorem Writes.isReadAs {form : Form} {f : Formula} {read : List Token}
    (writes : Writes form f read) : IsReadAs holds read (f.value holds) form := by
  induction writes with
  | name s => exact fun level outer rest => rfl
  | @not f read _ ih =>
      intro level outer rest
      rw [List.cons_append, atOperand, ih, Level.operand_negated]
      rfl
  | @group f read _ ih =>
      intro level outer rest
      obtain ⟨inner, -, value, reads⟩ := ih false
      rw [List.cons_append, List.append_assoc, atOperand]
      refine (reads _ _).trans ?_
      rw [List.singleton_append, atOperator, value, Bool.false_or]
  | conjunct _ ih => exact fun level _ => ih level
  | and _ _ left right =>
      intro level plain outer rest
      rw [List.append_assoc, left level plain, List.cons_append, atOperator,
        right _ (Level.negated_operand _ _), Level.operand_operand plain]
      rfl
  | @disjunct f read _ ih =>
      intro earlier
      refine ⟨Level.operand ⟨earlier, true, false⟩ (f.value holds), rfl, ?_, ih _ rfl⟩
      simp [Level.operand, Level.value]
  | or _ _ left right =>
      intro earlier
      obtain ⟨first, -, firstValue, readsFirst⟩ := left earlier
      obtain ⟨second, plain, secondValue, readsSecond⟩ := right first.value
      refine ⟨second, plain, ?_, fun outer rest => ?_⟩
      · rw [secondValue, firstValue, value, Bool.or_assoc]
      · rw [List.append_assoc, readsFirst, List.cons_append, atOperator, readsSecond]

/-- A text has the value of the formula that it writes. -/
theorem evaluate_eq_value {f : Formula} {s : List Char} (written : f.IsWritten s) :
    evaluate holds s = f.value holds := by
  obtain ⟨read, writes, spells⟩ := written
  have alternatives : AreAlternatives holds read (f.value holds) := writes.isReadAs
  obtain ⟨level, -, value, reads⟩ := alternatives false
  have whole := reads [] []
  rw [List.append_nil] at whole
  rw [evaluate, tokens_of_spells spells]
  refine whole.trans ?_
  rw [atOperator_nil, close, value, Bool.false_or]

end Formula

/-! ## Matches -/

theorem evaluate_trimmed (text : String) :
    evaluate holds (Text.trimmed text).toList = evaluate holds text.toList := by
  rw [evaluate, Text.trimmed, String.toList_ofList, tokens_trim, evaluate]

/-- A text that is empty but for blanks holds, as an expression without tokens does. -/
theorem evaluate_of_trimmed_eq {text : String} (blank : Text.trimmed text = "") :
    evaluate holds text.toList = true := by
  rw [← evaluate_trimmed, blank]
  rfl

end Migration.Filter

namespace Migration

open Migration.Filter

theorem ContextExpression.isMatch_ofText {active : List String} (nonempty : active ≠ [])
    (text : String) :
    (ContextExpression.ofText text).isMatch active =
      evaluate (hasName active) text.toList := by
  rw [ContextExpression.isMatch, ContextExpression.ofText]
  by_cases blank : Text.trimmed text = ""
  · simp [blank, evaluate_of_trimmed_eq blank]
  · simp [blank, nonempty, evaluate_trimmed]

theorem LabelExpression.isMatch_ofText (text : String) (labels : Labels) :
    (LabelExpression.ofText text).isMatch labels =
      evaluate (hasName labels.names) text.toList := by
  rw [LabelExpression.isMatch, LabelExpression.ofText]
  by_cases blank : Text.trimmed text = ""
  · simp [blank, evaluate_of_trimmed_eq blank]
  · simp [blank, evaluate_trimmed]

/-- An expression matches what makes the formula true that it writes, where a name is true that is a
context or label in any letter case. -/
theorem Filter.Formula.isMatch_eq_value {f : Formula} {text : String}
    (written : f.IsWritten text.toList) :
    (∀ active : List String, active ≠ [] →
      (ContextExpression.ofText text).isMatch active =
        f.value fun name => active.any fun context => Text.sameLetters context.toList name) ∧
    (∀ labels : Labels,
      (LabelExpression.ofText text).isMatch labels =
        f.value fun name => labels.names.any fun label => Text.sameLetters label.toList name) := by
  refine ⟨fun active nonempty => ?_, fun labels => ?_⟩
  · rw [ContextExpression.isMatch_ofText nonempty, evaluate_eq_value written]
    rfl
  · rw [LabelExpression.isMatch_ofText, evaluate_eq_value written]
    rfl

/-- A negated group in symbols and a conjunction in words, written without a blank between them. -/
theorem Filter.Formula.isMatch_notGroup :
    (ContextExpression.ofText "!(prod,Dev )AND eu or noT\tus").isMatch ["dev", "US"] = false ∧
      (LabelExpression.ofText "!(prod,Dev )AND eu or noT\tus").isMatch ⟨["EU", "us"]⟩ = true := by
  have written : Formula.IsWritten
      (.or (.and (.not (.or (.name "prod".toList) (.name "Dev".toList))) (.name "eu".toList))
        (.not (.name "us".toList)))
      "!(prod,Dev )AND eu or noT\tus".toList := by
    have group := Writes.group
      (.or (.disjunct (.conjunct (.name "prod".toList))) (.disjunct (.conjunct (.name "Dev".toList))))
    have first := Writes.and (.conjunct (.not group)) (.conjunct (.name "eu".toList))
    have second := Writes.conjunct (.not (.name "us".toList))
    exact ⟨_, .or (.disjunct first) (.disjunct second), tokens_eq_iff.mp (by decide)⟩
  obtain ⟨contexts, labels⟩ := isMatch_eq_value written
  exact ⟨(contexts ["dev", "US"] (by decide)).trans (by decide),
    (labels ⟨["EU", "us"]⟩).trans (by decide)⟩

end Migration
