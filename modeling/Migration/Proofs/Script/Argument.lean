import Migration.Proofs.Script.Brackets

/-!
# Reading values and arguments

A value and an argument are read back from each of their forms.  What follows a word decides where
it ends, so each lemma says what may follow.
-/

namespace Migration.Script

/-! ## Values -/

theorem IsName.begins {text : List Char} (isName : IsName text) :
    ∃ c s, text = c :: s ∧ isNameStart c := by
  cases isName with
  | intro start others => exact ⟨_, _, rfl, start⟩

theorem WritesText.begins {s : String} {text : List Char} (writes : WritesText s text) :
    ∃ c s, text = c :: s ∧ isQuote c := by
  cases writes with
  | short isQuote content => exact ⟨_, _, rfl, isQuote⟩
  | long isQuote noFence noQuoteLast => exact ⟨_, _, rfl, isQuote⟩

theorem WritesInt.begins {n : Int64} {text : List Char} (writes : WritesInt n text) :
    ∃ c s, text = c :: s ∧ isNumberStart c := by
  cases writes with
  | natural areDigits size =>
      obtain ⟨notEmpty, allDigits⟩ := Number.isDigits_iff.mp areDigits
      obtain ⟨c, digits, rfl⟩ := List.exists_cons_of_ne_nil notEmpty
      refine ⟨c, digits, rfl, ?_⟩
      rw [isNumberStart, allDigits c List.mem_cons_self, Bool.or_true]
  | negative areDigits size => exact ⟨_, _, rfl, by decide⟩

theorem beginsSolid_of_isName {text : List Char} (isName : IsName text) : BeginsSolid text := by
  obtain ⟨c, s, rfl, start⟩ := isName.begins
  exact ⟨c, s, rfl, isSolid_of_class start (by decide)⟩

theorem beginsSolid_of_writesText {s : String} {text : List Char} (writes : WritesText s text) :
    BeginsSolid text := by
  obtain ⟨c, s, rfl, isQuote⟩ := writes.begins
  exact ⟨c, s, rfl, isSolid_of_class isQuote (by decide)⟩

theorem beginsSolid_of_writesInt {n : Int64} {text : List Char} (writes : WritesInt n text) :
    BeginsSolid text := by
  obtain ⟨c, s, rfl, start⟩ := writes.begins
  exact ⟨c, s, rfl, isSolid_of_class start (by decide)⟩

/-- A value is a text, an integer, a name or a list. -/
theorem WritesValue.cases {value : Literal} {text : List Char} (writes : WritesValue value text) :
    (∃ s, value = .str s ∧ WritesText s text) ∨ (∃ n, value = .int n ∧ WritesInt n text) ∨
    (∃ name : String, value = ofWord name ∧ text = name.toList ∧ IsName name.toList) ∨
    ∃ items inside, value = .list items ∧ text = '[' :: (inside ++ [']']) ∧
      WritesList WritesValue items inside := by
  have isName {c : Char} {s : List Char} (start : isNameStart c) (others : s.all isNameChar) :
      IsName (c :: s) := .intro start (List.all_eq_true.mp others)
  cases writes with
  | str quoted => exact Or.inl ⟨_, rfl, quoted⟩
  | int decimal => exact Or.inr (Or.inl ⟨_, rfl, decimal⟩)
  | yes => exact Or.inr (Or.inr (Or.inl ⟨"true", rfl, rfl, isName (by decide) (by decide)⟩))
  | no => exact Or.inr (Or.inr (Or.inl ⟨"false", rfl, rfl, isName (by decide) (by decide)⟩))
  | null => exact Or.inr (Or.inr (Or.inl ⟨"null", rfl, rfl, isName (by decide) (by decide)⟩))
  | @reference name isName noKeyword =>
      simp only [List.mem_cons, List.not_mem_nil, or_false, not_or] at noKeyword
      have same : Literal.reference name = ofWord name := by
        simp only [ofWord, if_neg noKeyword.1, if_neg noKeyword.2.1, if_neg noKeyword.2.2]
      exact Or.inr (Or.inr (Or.inl ⟨name, same, rfl, isName⟩))
  | list values => exact Or.inr (Or.inr (Or.inr ⟨_, _, rfl, rfl, values⟩))

theorem beginsSolid_of_writesValue {value : Literal} {text : List Char}
    (writes : WritesValue value text) : BeginsSolid text := by
  rcases writes.cases with ⟨s, -, quoted⟩ | ⟨n, -, decimal⟩ | ⟨name, -, rfl, isName⟩ |
    ⟨items, inside, -, rfl, -⟩
  · exact beginsSolid_of_writesText quoted
  · exact beginsSolid_of_writesInt decimal
  · exact beginsSolid_of_isName isName
  · exact ⟨'[', _, rfl, by decide⟩

/-- Where neither a text nor a list begins, a value is a number or a word. -/
theorem valueWithin_of_head {c : Char} (notQuote : isQuote c = false) (notList : c ≠ '[')
    (fuel : Nat) (s : List Char) :
    valueWithin (fuel + 1) (c :: s) = (number (c :: s)).orElse fun _ => word (c :: s) := by
  simp [valueWithin, quoted_of_head notQuote, list, notList, Reading.map, Reading.orElse]

/-- Nothing is read as a value where a closing bracket stands. -/
theorem valueWithin_of_closer {closer : Char} (isCloser : closer = ']' ∨ closer = ')') (fuel : Nat)
    (rest : List Char) : valueWithin fuel (closer :: rest) = .absent := by
  obtain ⟨notQuote, notNumber, notName, notList⟩ : isQuote closer = false ∧
      isNumberStart closer = false ∧ isNameStart closer = false ∧ closer ≠ '[' := by
    rcases isCloser with rfl | rfl <;> decide
  cases fuel with
  | zero => rfl
  | succ fuel =>
      rw [valueWithin_of_head notQuote notList, number_of_head notNumber]
      simp [word, name?_of_head notName, Reading.map, Reading.orElse, Reading.ofOption]

theorem closes_valueWithin (fuel : Nat) : Closes (valueWithin fuel) ']' where
  isSolid := by decide
  isApart := by decide
  notComma := by decide
  notColon := by decide
  absent := valueWithin_of_closer (.inl rfl) fuel

/-- A value is read back where it ends, given more fuel than its text is long. -/
theorem valueWithin_append (fuel : Nat) {value : Literal} {text rest : List Char}
    (writes : WritesValue value text) (enough : text.length < fuel) (isApart : IsApart rest) :
    valueWithin fuel (text ++ rest) = .found value rest := by
  induction fuel generalizing value text rest with
  | zero => omega
  | succ fuel ih =>
      rcases writes.cases with ⟨s, rfl, quoted⟩ | ⟨n, rfl, decimal⟩ | ⟨name, rfl, rfl, isName⟩ |
        ⟨items, inside, rfl, rfl, values⟩
      · simp only [valueWithin, quoted_append quoted isApart, Reading.map, Reading.orElse]
      · have read := number_append decimal isApart
        obtain ⟨c, s, rfl, start⟩ := decimal.begins
        have notQuote := not_isQuote_of_class start (by decide)
        have notList : c ≠ '[' := ne_of_class start (by decide)
        rw [List.cons_append] at read ⊢
        rw [valueWithin_of_head notQuote notList, read]
        rfl
      · have read := word_append isName isApart
        obtain ⟨c, s, same, start⟩ := isName.begins
        have notQuote := not_isQuote_of_class start (by decide)
        have notList : c ≠ '[' := ne_of_class start (by decide)
        have notNumber := not_isNumberStart_of_isNameStart start
        rw [same, List.cons_append] at read ⊢
        rw [valueWithin_of_head notQuote notList, number_of_head notNumber]
        exact read
      · have short : inside.length + 2 ≤ fuel := by
          simp only [List.length_cons, List.length_append, List.length_nil] at enough
          omega
        have reads : Reads WritesValue (valueWithin fuel) inside.length :=
          { found := fun writes isShort _ follows => ih writes (by omega) follows.1
            begins := beginsSolid_of_writesValue }
        have read := bracketed_append reads (closes_valueWithin fuel) values (Nat.le_refl _) rest
        simp only [valueWithin, List.cons_append, List.append_assoc, List.nil_append, list, read,
          quoted_of_head (show isQuote '[' = false by decide), Reading.map, Reading.orElse]

theorem value_append {v : Literal} {text rest : List Char} (writes : WritesValue v text)
    (isApart : IsApart rest) : value (text ++ rest) = .found v rest := by
  refine valueWithin_append _ writes ?_ isApart
  rw [List.length_append]
  omega

/-! ## Arguments -/

/-- What is tried as the key of an argument before its colon is looked for. -/
def keyName (s : List Char) : Reading String :=
  (Reading.ofOption (name? s)).orElse fun _ => quoted s

theorem keyName_of_isName {text rest : List Char} (isName : IsName text) (isApart : IsApart rest) :
    keyName (text ++ rest) = .found (String.ofList text) rest := by
  rw [keyName, name?_append isName fun c isHead => (isApart c isHead).1]
  rfl

theorem keyName_of_writesText {s : String} {text rest : List Char} (writes : WritesText s text)
    (isApart : IsApart rest) : keyName (text ++ rest) = .found s rest := by
  have read := quoted_append writes isApart
  obtain ⟨c, tail, rfl, isQuote⟩ := writes.begins
  have notName : isNameStart c = false := by
    have either : c = '"' ∨ c = '\'' := by simpa [Script.isQuote] using isQuote
    rcases either with rfl | rfl <;> decide
  rw [List.cons_append] at read ⊢
  rw [keyName, name?_of_head notName, ← read]
  rfl

theorem keyName_of_head {c : Char} (notName : isNameStart c = false) (notQuote : isQuote c = false)
    (s : List Char) : keyName (c :: s) = .absent := by
  rw [keyName, name?_of_head notName, ← quoted_of_head notQuote s]
  rfl

theorem key_append {name : String} {keyText before after text : List Char}
    (writesKey : WritesKey name keyText) (triviaBefore : IsTrivia before)
    (triviaAfter : IsTrivia after) (begins : BeginsSolid text) (rest : List Char) :
    key (keyText ++ (before ++ ':' :: (after ++ (text ++ rest)))) = .found name (text ++ rest) := by
  have isApart : IsApart (before ++ ':' :: (after ++ (text ++ rest))) :=
    isApart_append triviaBefore (isApart_cons.mpr (by decide))
  have colon := skipTrivia_append_solid triviaBefore (show IsSolid ':' by decide)
    (after ++ (text ++ rest))
  have found : keyName (keyText ++ (before ++ ':' :: (after ++ (text ++ rest)))) =
      .found name (before ++ ':' :: (after ++ (text ++ rest))) := by
    cases writesKey with
    | bare isName => rw [keyName_of_isName isName isApart, String.ofList_toList]
    | quoted quoted => exact keyName_of_writesText quoted isApart
  unfold key
  rw [← keyName, found]
  simp only [colon, skipTrivia_begins triviaAfter begins]

/-- What has no colon behind it is no key. -/
theorem key_of_noColon {name : String} {s rest : List Char} (found : keyName s = .found name rest)
    (noColon : (skipTrivia rest).head? ≠ some ':') : key s = .absent := by
  unfold key
  rw [← keyName, found]
  dsimp only
  split
  next rest same => exact absurd (by rw [same]; rfl) noColon
  next => rfl

/-- A value alone is not taken for a key. -/
theorem key_of_value {v : Literal} {text rest : List Char} (writes : WritesValue v text)
    (follows : Follows rest) : key (text ++ rest) = .absent := by
  obtain ⟨isApart, noColon⟩ := follows
  rcases writes.cases with ⟨s, -, quoted⟩ | ⟨n, -, decimal⟩ | ⟨name, -, rfl, isName⟩ |
    ⟨items, inside, -, rfl, -⟩
  · exact key_of_noColon (keyName_of_writesText quoted isApart) noColon
  · obtain ⟨c, s, rfl, start⟩ := decimal.begins
    have notName : isNameStart c = false := by
      refine Bool.eq_false_iff.mpr fun isName => ?_
      rw [not_isNumberStart_of_isNameStart isName] at start
      cases start
    have absent := keyName_of_head notName (not_isQuote_of_class start (by decide)) (s ++ rest)
    rw [List.cons_append, key, ← keyName, absent]
  · exact key_of_noColon (keyName_of_isName isName isApart) noColon
  · have absent := keyName_of_head (c := '[') (by decide) (by decide) (inside ++ [']'] ++ rest)
    rw [List.cons_append, key, ← keyName, absent]

/-- An argument is read back where neither its value nor a key goes on. -/
theorem argument_append {a : Argument} {text rest : List Char} (writes : WritesArgument a text)
    (follows : Follows rest) : argument (text ++ rest) = .found a rest := by
  unfold argument
  cases writes with
  | positional writes =>
      simp only [key_of_value writes follows, value_append writes follows.1, Reading.map,
        Reading.orElse]
  | named writesKey triviaBefore triviaAfter writes =>
      have read := key_append writesKey triviaBefore triviaAfter
        (beginsSolid_of_writesValue writes) rest
      simp only [List.append_assoc, List.cons_append, read, value_append writes follows.1,
        Reading.map, Reading.orElse]

theorem beginsSolid_append {s : List Char} (begins : BeginsSolid s) (rest : List Char) :
    BeginsSolid (s ++ rest) := by
  obtain ⟨c, tail, rfl, isSolid⟩ := begins
  exact ⟨c, tail ++ rest, rfl, isSolid⟩

theorem beginsSolid_of_writesArgument {a : Argument} {text : List Char}
    (writes : WritesArgument a text) : BeginsSolid text := by
  cases writes with
  | positional writes => exact beginsSolid_of_writesValue writes
  | named writesKey _ _ _ =>
      refine beginsSolid_append ?_ _
      cases writesKey with
      | bare isName => exact beginsSolid_of_isName isName
      | quoted quoted => exact beginsSolid_of_writesText quoted

theorem reads_argument (size : Nat) : Reads WritesArgument argument size where
  found writes _ _ follows := argument_append writes follows
  begins := beginsSolid_of_writesArgument

theorem closes_argument : Closes argument ')' where
  isSolid := by decide
  isApart := by decide
  notComma := by decide
  notColon := by decide
  absent rest := by
    have noKey : key (')' :: rest) = .absent := by
      rw [key, ← keyName, keyName_of_head (by decide) (by decide)]
    simp only [argument, noKey, value, valueWithin_of_closer (.inr rfl),
      Reading.map, Reading.orElse]

end Migration.Script
