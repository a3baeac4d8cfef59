import Migration.Proofs.Filter.Readable

/-!
# Groups in front of an `and`

A group that is read to its end narrows with what follows it.  In another group some closing parenthesis
is taken for an operand, or reading leaves off, so the group is still open where it should be closed, and
what follows is read inside of it or not at all.  That does no harm where what follows holds, since it is
then a conjunct that changes nothing.  Otherwise it has no say as soon as the group is an alternative to
something that holds.
-/

namespace Migration.Filter

/-! ## Balanced parentheses -/

/-- Whether the parentheses of a text match, with some that are open in front of it. -/
def isBalanced : Nat → List Char → Bool
  | depth, [] => depth == 0
  | depth, c :: s =>
      if c = '(' then isBalanced (depth + 1) s
      else if c = ')' then decide (0 < depth) && isBalanced (depth - 1) s
      else isBalanced depth s

/-- Whether the parentheses among some tokens match, with some that are open in front of them. -/
def areBalanced : Nat → List Token → Bool
  | depth, [] => depth == 0
  | depth, .opening :: read => areBalanced (depth + 1) read
  | depth, .closing :: read => decide (0 < depth) && areBalanced (depth - 1) read
  | depth, _ :: read => areBalanced depth read

theorem ofWord_cases (word : List Char) :
    ofWord word = .or ∨ ofWord word = .and ∨ ofWord word = .not ∨ ofWord word = .name word := by
  unfold ofWord
  dsimp only
  split
  · simp
  split
  · simp
  split
  · simp
  · simp

theorem areBalanced_word (depth : Nat) (word : List Char) (read : List Token) :
    areBalanced depth (ofWord? word ++ read) = areBalanced depth read := by
  unfold ofWord?
  split
  · rfl
  · rcases ofWord_cases word with same | same | same | same <;> rw [same] <;> rfl

theorem symbol?_eq_of_ne {c : Char} {token : Token} (isSymbol : symbol? c = some token)
    (noOpening : c ≠ '(') (noClosing : c ≠ ')') : token = .or ∨ token = .not := by
  simp only [symbol?, noOpening, noClosing, if_false] at isSymbol
  split at isSymbol
  · exact .inl (Option.some.inj isSymbol).symm
  split at isSymbol
  · exact .inr (Option.some.inj isSymbol).symm
  · cases isSymbol

theorem areBalanced_scan (depth : Nat) (s : List Char) :
    areBalanced depth (scan s).2 = isBalanced depth s := by
  induction s generalizing depth with
  | nil => rfl
  | cons c s ih =>
      have whole (depth : Nat) : areBalanced depth (tokens s) = isBalanced depth s :=
        (areBalanced_word depth _ _).trans (ih depth)
      by_cases opening : c = '('
      · subst opening
        exact whole (depth + 1)
      by_cases closing : c = ')'
      · subst closing
        exact congrArg (decide (0 < depth) && ·) (whole (depth - 1))
      rw [isBalanced, if_neg opening, if_neg closing]
      rcases char_cases c with blank | ⟨noBlank, token, isSymbol⟩ | isPart
      · rw [scan_blank blank, whole]
      · rw [scan_symbol noBlank isSymbol]
        rcases symbol?_eq_of_ne isSymbol opening closing with rfl | rfl <;> exact whole depth
      · rw [scan_wordChar isPart, ih]

theorem areBalanced_tokens (depth : Nat) (s : List Char) :
    areBalanced depth (tokens s) = isBalanced depth s :=
  (areBalanced_word depth _ _).trans (areBalanced_scan depth s)

/-! ## Groups in front of what holds -/

variable {holds : List Char → Bool}

theorem Level.operand_true {level : Level} (plain : level.negated = false) :
    level.operand true = level := by
  obtain ⟨earlier, sofar, negated⟩ := level
  cases plain
  simp [Level.operand]

/-- A group around an expression has the expression's value. -/
theorem close_append_start (level : Level) (outer : List Level) :
    close level (outer ++ [.start]) = close level outer := by
  induction outer generalizing level with
  | nil => simp [close, Level.operand, Level.start, Level.value]
  | cons above outer ih => exact ih _

/-- An `and` and an operand at the end of an expression. -/
theorem atOperator_and {second : List Token} {value : Bool}
    (isOperand : ∀ level, IsOperand holds second value level) (level : Level) (outer : List Level) :
    atOperator holds level outer (.and :: second) = close (level.operand value) outer := by
  have reads := isOperand level outer []
  rwa [List.append_nil, atOperator_nil] at reads

/-- Balanced tokens in a group that an operand follows which holds have the value that they have
without group and operand.  The group may be closed at a lower level of brackets than it should be, as
closing parentheses may be taken for operands, but not at a higher one. -/
theorem atOperand_group_of_holds {second read : List Token} {depth : Nat}
    (isOperand : ∀ level, IsOperand holds second true level)
    (balanced : areBalanced depth read = true) (level : Level) (outer : List Level)
    (deep : depth ≤ outer.length) :
    atOperand holds level (outer ++ [.start]) (read ++ .closing :: .and :: second) =
        atOperand holds level outer read ∧
      atOperator holds level (outer ++ [.start]) (read ++ .closing :: .and :: second) =
        atOperator holds level outer read := by
  induction read generalizing depth level outer with
  | nil =>
      have ends (level : Level) (value : Bool) (outer : List Level) :
          atOperator holds (level.operand value) outer (.and :: second) =
            close (level.operand value) outer := by
        rw [atOperator_and isOperand, Level.operand_true (Level.negated_operand level value)]
      refine ⟨(ends level true _).trans (close_append_start _ _), ?_⟩
      cases outer with
      | nil => exact (ends .start level.value []).trans (close_append_start level [])
      | cons above outer => exact (ends above level.value _).trans (close_append_start _ _)
  | cons token read ih =>
      -- An operand cannot continue an expression, so that its value is that of the levels so far.
      have stops := close_append_start level outer
      cases token with
      | name s => exact ⟨(ih balanced _ outer deep).2, stops⟩
      | or => exact ⟨(ih balanced _ outer deep).2, (ih balanced _ outer deep).1⟩
      | and => exact ⟨(ih balanced _ outer deep).2, (ih balanced _ outer deep).1⟩
      | not => exact ⟨(ih balanced _ outer deep).1, stops⟩
      | opening =>
          exact ⟨(ih balanced _ (level :: outer) (Nat.succ_le_succ deep)).1, stops⟩
      | closing =>
          obtain ⟨positive, balanced⟩ := (Bool.and_eq_true _ _).mp balanced
          refine ⟨(ih balanced _ outer (by omega)).2, ?_⟩
          obtain ⟨above, outer, rfl⟩ := List.exists_cons_of_length_pos
            (Nat.lt_of_lt_of_le (of_decide_eq_true positive) deep)
          exact (ih balanced _ outer (Nat.sub_le_of_le_add deep)).2

/-! ## Groups that are read to their end -/

theorem Level.start_operand (value second : Bool) :
    ((Level.start.operand value).operand second).value = (value && second) := by
  simp [Level.operand, Level.start, Level.value]

/-- A group that is read to its end is one operand. -/
theorem atOperand_group_of_isReadable {second read : List Token} {value : Bool}
    (isOperand : ∀ level, IsOperand holds second value level) (readable : IsReadable read) :
    atOperand holds .start [.start] (read ++ .closing :: .and :: second) =
      (atOperand holds .start [] read && value) := by
  obtain ⟨last, -, reads⟩ := @IsReadable.reads holds read readable .start
  have alone := reads [] []
  have behind := isOperand (Level.start.operand last.value) [] []
  rw [List.append_nil] at alone behind
  rw [reads, alone, atOperator, atOperator, behind, atOperator_nil, atOperator_nil, close, close,
    Level.start_operand]

/-! ## Groups that are not read to their end -/

section

variable {own : Level} (earlier : own.earlier = true)

include earlier

/-- An alternative that holds makes its group hold, whatever the groups inside of it are. -/
theorem close_of_earlier (level : Level) (inner : List Level) :
    close level (inner ++ [own, .start]) = true := by
  induction inner generalizing level with
  | nil => simp [close, Level.operand, Level.start, Level.value, earlier]
  | cons above inner ih => exact ih _

variable {second read : List Token} {value : Bool}
  (isOperand : ∀ level, IsOperand holds second value level)

include isOperand

theorem atOperator_closing_of_earlier (level : Level) (inner : List Level) :
    atOperator holds level (inner ++ [own, .start]) (.closing :: .and :: second) = true := by
  cases inner with
  | nil =>
      refine (atOperator_and isOperand (own.operand level.value) [.start]).trans ?_
      simp [close, Level.operand, Level.start, Level.value, earlier]
  | cons above inner =>
      exact (atOperator_and isOperand (above.operand level.value) _).trans
        (close_of_earlier earlier _ inner)

/-- Balanced tokens that are not read to their end in the group of an alternative leave at least that
group open, which then has the next operand in it.  While the tokens are read, more groups are open
than should be, or the tokens that are left are not read to their end. -/
theorem atOperand_group_of_earlier {depth : Nat} (balanced : areBalanced depth read = true)
    (level : Level) (inner : List Level) (deep : depth ≤ inner.length) :
    (depth < inner.length ∨ endsFromOperand inner.length read = false →
      atOperand holds level (inner ++ [own, .start])
        (read ++ .closing :: .closing :: .and :: second) = true) ∧
    (depth < inner.length ∨ endsFromOperator inner.length read = false →
      atOperator holds level (inner ++ [own, .start])
        (read ++ .closing :: .closing :: .and :: second) = true) := by
  have ends := atOperator_closing_of_earlier earlier isOperand
  induction read generalizing depth level inner with
  | nil =>
      refine ⟨fun _ => ends _ inner, fun isOpen => ?_⟩
      cases inner with
      | nil => simp [endsFromOperator] at isOpen
      | cons above inner => exact ends _ inner
  | cons token read ih =>
      have stops := close_of_earlier earlier level inner
      cases token with
      | name s => exact ⟨(ih balanced _ inner deep).2, fun _ => stops⟩
      | or => exact ⟨(ih balanced _ inner deep).2, (ih balanced _ inner deep).1⟩
      | and => exact ⟨(ih balanced _ inner deep).2, (ih balanced _ inner deep).1⟩
      | not => exact ⟨(ih balanced _ inner deep).1, fun _ => stops⟩
      | opening =>
          refine ⟨fun isOpen => ?_, fun _ => stops⟩
          exact (ih balanced _ (level :: inner) (Nat.succ_le_succ deep)).1
            (isOpen.imp_left Nat.succ_lt_succ)
      | closing =>
          obtain ⟨positive, balanced⟩ := (Bool.and_eq_true _ _).mp balanced
          have positive := of_decide_eq_true positive
          refine ⟨fun _ => (ih balanced _ inner (by omega)).2 (.inl (by omega)), fun isOpen => ?_⟩
          obtain ⟨above, inner, rfl⟩ :=
            List.exists_cons_of_length_pos (Nat.lt_of_lt_of_le positive deep)
          rw [List.length_cons] at deep isOpen
          refine (ih balanced _ inner (by omega)).2 (isOpen.imp (by omega) fun unread => ?_)
          simpa [endsFromOperator] using unread

end

/-! ## Groups in texts -/

theorem tokens_group (inner rest : List Char) :
    tokens ('(' :: (inner ++ ')' :: rest)) =
      .opening :: (tokens inner ++ .closing :: tokens rest) := by
  have apart : AreApart inner (')' :: rest) := by
    rintro _ _ _ ⟨⟩ _
    decide
  exact congrArg (Token.opening :: ·) (tokens_append apart)

theorem tokens_group_and (group second : List Char) :
    tokens ('(' :: (group ++ ')' :: (" and ".toList ++ '(' :: (second ++ [')'])))) =
      .opening :: (tokens group ++
        .closing :: .and :: .opening :: (tokens second ++ [.closing])) := by
  have apart : AreApart " and ".toList ('(' :: (second ++ [')'])) := by
    rintro _ _ _ ⟨⟩ _
    decide
  rw [tokens_group, tokens_append apart, tokens_group second []]
  rfl

theorem tokens_or_group {name : List Char} (isName : IsName name) (group : List Char) :
    tokens (name ++ (" or ".toList ++ '(' :: (group ++ [')']))) =
      .name name :: .or :: .opening :: (tokens group ++ [.closing]) := by
  have apartName : AreApart name (" or ".toList ++ '(' :: (group ++ [')'])) := by
    rintro _ _ _ ⟨⟩ _
    decide
  have apartOr : AreApart " or ".toList ('(' :: (group ++ [')'])) := by
    rintro _ _ _ ⟨⟩ _
    decide
  rw [tokens_append apartName, (IsSpelling.name isName).tokens_eq, tokens_append apartOr,
    tokens_group group []]
  rfl

theorem Formula.IsWritten.isOperand {f : Formula} {s : List Char} (written : f.IsWritten s)
    (level : Level) :
    IsOperand holds (.opening :: (tokens s ++ [.closing])) (evaluate holds s) level := by
  rw [Formula.evaluate_eq_value written]
  obtain ⟨read, writes, spells⟩ := written
  rw [tokens_of_spells spells]
  exact (Formula.Writes.group writes).isReadAs level

/-- A group narrows with what follows it, if that holds or the group is read to its end. -/
theorem evaluate_group_and {group second : List Char} {f : Formula}
    (balanced : isBalanced 0 group = true) (written : f.IsWritten second)
    (closed : evaluate holds second = true ∨ IsReadable (tokens group)) :
    evaluate holds ('(' :: (group ++ ')' :: (" and ".toList ++ '(' :: (second ++ [')'])))) =
      (evaluate holds group && evaluate holds second) := by
  have isOperand := @Formula.IsWritten.isOperand holds f second written
  rw [evaluate, tokens_group_and, atOperand]
  rcases closed with counts | readable
  · rw [counts] at isOperand ⊢
    rw [← areBalanced_tokens] at balanced
    rw [Bool.and_true]
    exact (atOperand_group_of_holds isOperand balanced .start [] (Nat.zero_le _)).1
  · exact atOperand_group_of_isReadable isOperand readable

/-- A group that is not read to its end swallows what follows the group that it is an alternative
in. -/
theorem evaluate_or_group_and {name group second : List Char} {f : Formula} (isName : IsName name)
    (holdsName : holds name = true) (balanced : isBalanced 0 group = true)
    (written : f.IsWritten second) (unread : ¬ IsReadable (tokens group)) :
    evaluate holds ('(' :: ((name ++ (" or ".toList ++ '(' :: (group ++ [')']))) ++
      ')' :: (" and ".toList ++ '(' :: (second ++ [')'])))) = true := by
  have isOperand := @Formula.IsWritten.isOperand holds f second written
  rw [isReadable_iff, Bool.not_eq_true] at unread
  rw [← areBalanced_tokens] at balanced
  rw [evaluate, tokens_group_and, tokens_or_group isName]
  simp only [List.cons_append, List.append_assoc, atOperand, atOperator, holdsName]
  exact (atOperand_group_of_earlier rfl isOperand balanced .start [] (Nat.zero_le _)).1
    (.inr unread)

end Migration.Filter

namespace Migration

open Migration.Filter

/-- A group in front of an `and` matches where it matches alone and what follows it matches, if the
latter is so or the group is read to its end.  A balanced group that is not read to its end swallows what
follows, if it is an alternative to a context that is active. -/
theorem ContextExpression.isMatch_group_and {group second : String} {f : Formula}
    {active : List String} (nonempty : active ≠ [])
    (balanced : isBalanced 0 group.toList = true) (written : f.IsWritten second.toList) :
    ((ContextExpression.ofText second).isMatch active = true ∨ IsReadable (tokens group.toList) →
      (ContextExpression.ofText ("(" ++ group ++ ") and (" ++ second ++ ")")).isMatch active =
        ((ContextExpression.ofText group).isMatch active &&
          (ContextExpression.ofText second).isMatch active)) ∧
    (¬ IsReadable (tokens group.toList) → ∀ name ∈ active, IsName name.toList →
      (ContextExpression.ofText ("(" ++ (name ++ " or (" ++ group ++ ")") ++ ") and (" ++ second ++
        ")")).isMatch active = true) := by
  simp only [isMatch_ofText nonempty]
  constructor
  · intro closed
    have text : ("(" ++ group ++ ") and (" ++ second ++ ")").toList =
        '(' :: (group.toList ++ ')' :: (" and ".toList ++ '(' :: (second.toList ++ [')']))) := by
      simp
    rw [text]
    exact evaluate_group_and balanced written closed
  · intro unread name member isName
    have text : ("(" ++ (name ++ " or (" ++ group ++ ")") ++ ") and (" ++ second ++ ")").toList =
        '(' :: ((name.toList ++ (" or ".toList ++ '(' :: (group.toList ++ [')']))) ++
          ')' :: (" and ".toList ++ '(' :: (second.toList ++ [')']))) := by
      simp
    have holdsName : hasName active name.toList = true :=
      List.any_eq_true.mpr ⟨name, member, Text.sameIgnoringCase_refl name⟩
    rw [text]
    exact evaluate_or_group_and isName holdsName balanced written unread

/-- A group with an operator at its front is read to its end, and one with an operator at its end is
not. -/
theorem ContextExpression.isMatch_operatorGroups :
    (ContextExpression.ofText "(and, !a) and (b)").isMatch ["a"] = false ∧
      (ContextExpression.ofText "and, !a").isMatch ["a"] = true ∧
      (ContextExpression.ofText "(a or (c and)) and (b)").isMatch ["a"] = true := by
  have written : Formula.IsWritten (.name ['b']) "b".toList :=
    ⟨_, .disjunct (.conjunct (.name ['b'])), tokens_eq_iff.mp (by decide)⟩
  have front := (@isMatch_group_and "and, !a" "b" _ ["a"] (by decide) (by decide) written).1
    (.inr (by decide))
  have isName : IsName "a".toList := ⟨by decide, List.all_eq_true.mp (by decide), by decide⟩
  have back := (@isMatch_group_and "c and" "b" _ ["a"] (by decide) (by decide) written).2
    (by decide) "a" (by decide) isName
  exact ⟨front.trans (by decide), by decide, back⟩

/-- A group with an operator at its end takes its closing parenthesis for an operand, so that what
follows it stands inside of the group. -/
theorem ContextExpression.not_isMatch_group_and :
    ¬ ∀ (group second : String) (f : Formula) (active : List String), active ≠ [] →
      Text.trimmed group ≠ "" → isBalanced 0 group.toList = true →
      f.IsWritten second.toList →
      (ContextExpression.ofText ("(" ++ group ++ ") and (" ++ second ++ ")")).isMatch active =
        ((ContextExpression.ofText group).isMatch active &&
          (ContextExpression.ofText second).isMatch active) := by
  intro narrows
  have written : Formula.IsWritten (.name ['b']) "b".toList :=
    ⟨_, .disjunct (.conjunct (.name ['b'])), tokens_eq_iff.mp (by decide)⟩
  have narrowed := narrows "a or" "b" _ ["a"] (by decide) (by decide) (by decide) written
  exact absurd narrowed (by decide)

end Migration
