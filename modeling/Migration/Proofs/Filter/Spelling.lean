import Migration.Filter.Expression
import Migration.Text.Case

/-!
# Spellings of filter expressions

Tokens are spelled one after the other, with any blanks before, between and behind them, and at least
one where two words would run into each other.  The main statement, `tokens_eq_iff`, says that a text is
read as exactly those tokens that it spells.
-/

namespace Migration.Filter

/-! ## Words -/

/-- Whether a character is part of a word: neither blank nor a symbol. -/
def isWordChar (c : Char) : Bool :=
  !Text.isBlank c && !(c = ',' || c = '!' || c = '(' || c = ')')

/-- The words that are operators, in small letters. -/
def operators : List (List Char × Token) :=
  [("or".toList, .or), ("and".toList, .and), ("not".toList, .not)]

/-- The words that are no operator in any letter case. -/
structure IsName (word : List Char) : Prop where
  nonempty : word ≠ []
  areWordChars : ∀ c ∈ word, isWordChar c = true
  noOperator : Text.lower word ∉ operators.map (·.1)

/-- How tokens are spelled: the operators as symbols, or as words in any letter case. -/
inductive IsSpelling : Token → List Char → Prop where
  | name {word : List Char} (isName : IsName word) : IsSpelling (.name word) word
  | operator {token : Token} {word : List Char}
      (isOperator : (Text.lower word, token) ∈ operators) : IsSpelling token word
  | comma : IsSpelling .or [',']
  | mark : IsSpelling .not ['!']
  | opening : IsSpelling .opening ['(']
  | closing : IsSpelling .closing [')']

/-- Whether no word goes on from one text into the next. -/
def AreApart (front back : List Char) : Prop :=
  ∀ c ∈ front.getLast?, ∀ d ∈ back.head?, isWordChar c = true → isWordChar d = false

/-- The texts that spell some tokens. -/
inductive Spells : List Token → List Char → Prop where
  | nil {blanks : List Char} (areBlank : ∀ c ∈ blanks, Text.isBlank c = true) : Spells [] blanks
  | cons {token : Token} {tokens : List Token} {blanks word s : List Char}
      (areBlank : ∀ c ∈ blanks, Text.isBlank c = true) (spelling : IsSpelling token word)
      (apart : AreApart word s) (others : Spells tokens s) :
      Spells (token :: tokens) (blanks ++ (word ++ s))

/-! ## Reading the characters of a word -/

theorem symbol?_eq_none {c : Char} (isPart : isWordChar c = true) : symbol? c = none := by
  simp only [isWordChar, Bool.and_eq_true, Bool.not_eq_true', Bool.or_eq_false_iff,
    decide_eq_false_iff_not] at isPart
  simp [symbol?, isPart.2]

theorem not_isBlank_of_isWordChar {c : Char} (isPart : isWordChar c = true) :
    Text.isBlank c = false := by
  simp only [isWordChar, Bool.and_eq_true, Bool.not_eq_true'] at isPart
  exact isPart.1

theorem not_isWordChar_of_isBlank {c : Char} (blank : Text.isBlank c = true) :
    isWordChar c = false := by
  simp [isWordChar, blank]

theorem not_isWordChar_of_symbol? {c : Char} {token : Token} (isSymbol : symbol? c = some token) :
    isWordChar c = false := by
  cases isPart : isWordChar c with
  | true => cases isSymbol.symm.trans (symbol?_eq_none isPart)
  | false => rfl

/-- A character that is neither blank nor a symbol is part of a word. -/
theorem isWordChar_of_symbol? {c : Char} (noBlank : Text.isBlank c = false)
    (noSymbol : symbol? c = none) : isWordChar c = true := by
  have others : ¬ (c = ',' ∨ c = '!' ∨ c = '(' ∨ c = ')') := by
    rintro (rfl | rfl | rfl | rfl) <;> cases noSymbol
  simpa [isWordChar, noBlank, and_assoc] using others

theorem scan_wordChar {c : Char} (isPart : isWordChar c = true) (s : List Char) :
    scan (c :: s) = (c :: (scan s).1, (scan s).2) := by
  simp [scan, not_isBlank_of_isWordChar isPart, symbol?_eq_none isPart]

theorem scan_blank {c : Char} (blank : Text.isBlank c = true) (s : List Char) :
    scan (c :: s) = ([], tokens s) := by
  simp [scan, blank, tokens]

theorem scan_symbol {c : Char} {token : Token} (noBlank : Text.isBlank c = false)
    (isSymbol : symbol? c = some token) (s : List Char) :
    scan (c :: s) = ([], token :: tokens s) := by
  simp [scan, noBlank, isSymbol, tokens]

/-- A character is blank, a symbol or part of a word. -/
theorem char_cases (c : Char) :
    Text.isBlank c = true ∨ (Text.isBlank c = false ∧ ∃ token, symbol? c = some token) ∨
      isWordChar c = true := by
  cases blank : Text.isBlank c with
  | true => exact .inl rfl
  | false =>
      cases isSymbol : symbol? c with
      | none => exact .inr (.inr (isWordChar_of_symbol? blank isSymbol))
      | some token => exact .inr (.inl ⟨rfl, token, rfl⟩)

/-! ## Reading what follows -/

theorem AreApart.tail {c : Char} {front back : List Char} (apart : AreApart (c :: front) back)
    (nonempty : front ≠ []) : AreApart front back := by
  obtain ⟨d, front, rfl⟩ := List.exists_cons_of_ne_nil nonempty
  simpa [AreApart] using apart

theorem scan_of_head {s : List Char} (noWord : ∀ d ∈ s.head?, isWordChar d = false) :
    scan s = ([], tokens s) := by
  cases s with
  | nil => rfl
  | cons c s =>
      have other : isWordChar c = false := noWord c rfl
      rcases char_cases c with blank | ⟨noBlank, token, isSymbol⟩ | isPart
      · simp [tokens, scan_blank blank, ofWord?]
      · simp [tokens, scan_symbol noBlank isSymbol, ofWord?]
      · cases other.symm.trans isPart

/-- The first word of a text ends where the text does, if no word goes on into what follows. -/
theorem scan_append {front back : List Char} (nonempty : front ≠ [])
    (apart : AreApart front back) :
    scan (front ++ back) = ((scan front).1, (scan front).2 ++ tokens back) := by
  induction front with
  | nil => exact absurd rfl nonempty
  | cons c front ih =>
      by_cases last : front = []
      · subst last
        rcases char_cases c with blank | ⟨noBlank, token, isSymbol⟩ | isPart
        · rw [List.singleton_append, scan_blank blank, scan_blank blank]
          rfl
        · rw [List.singleton_append, scan_symbol noBlank isSymbol, scan_symbol noBlank isSymbol]
          rfl
        · have stops := scan_of_head fun d isHead => apart c rfl d isHead isPart
          rw [List.singleton_append, scan_wordChar isPart, scan_wordChar isPart, stops]
          rfl
      · have whole := ih last (apart.tail last)
        have read : tokens (front ++ back) = tokens front ++ tokens back := by
          simp [tokens, whole]
        rcases char_cases c with blank | ⟨noBlank, token, isSymbol⟩ | isPart
        · rw [List.cons_append, scan_blank blank, scan_blank blank, read]
        · rw [List.cons_append, scan_symbol noBlank isSymbol, scan_symbol noBlank isSymbol, read]
          rfl
        · rw [List.cons_append, scan_wordChar isPart, scan_wordChar isPart, whole]

/-- The tokens of two texts are read one after the other where no word goes on from one into the
other. -/
theorem tokens_append {front back : List Char} (apart : AreApart front back) :
    tokens (front ++ back) = tokens front ++ tokens back := by
  by_cases nothing : front = []
  · subst nothing
    rfl
  · simp [tokens, scan_append nothing apart]

/-- A word is the first word of itself. -/
theorem scan_word {word : List Char} (areWordChars : ∀ c ∈ word, isWordChar c = true) :
    scan word = (word, []) := by
  induction word with
  | nil => rfl
  | cons c word ih =>
      obtain ⟨first, others⟩ := List.forall_mem_cons.mp areWordChars
      rw [scan_wordChar first, ih others]

theorem tokens_word {word : List Char} (nonempty : word ≠ [])
    (areWordChars : ∀ c ∈ word, isWordChar c = true) : tokens word = [ofWord word] := by
  simp [tokens, scan_word areWordChars, ofWord?, nonempty]

theorem tokens_cons_blank {c : Char} (blank : Text.isBlank c = true) (s : List Char) :
    tokens (c :: s) = tokens s := by
  simp [tokens, scan_blank blank, ofWord?]

/-- Blanks at the beginning of a text are passed over. -/
theorem tokens_blanks_append {blanks : List Char} (areBlank : ∀ c ∈ blanks, Text.isBlank c = true)
    (s : List Char) : tokens (blanks ++ s) = tokens s := by
  induction blanks with
  | nil => rfl
  | cons c blanks ih =>
      obtain ⟨first, others⟩ := List.forall_mem_cons.mp areBlank
      rw [List.cons_append, tokens_cons_blank first, ih others]

theorem tokens_blanks {blanks : List Char} (areBlank : ∀ c ∈ blanks, Text.isBlank c = true) :
    tokens blanks = [] := by
  have read := tokens_blanks_append areBlank []
  rwa [List.append_nil] at read

/-- Blanks at the end of a text are passed over. -/
theorem tokens_append_blanks {blanks : List Char} (areBlank : ∀ c ∈ blanks, Text.isBlank c = true)
    (s : List Char) : tokens (s ++ blanks) = tokens s := by
  rw [tokens_append, tokens_blanks areBlank, List.append_nil]
  intro _ _ d isHead _
  exact not_isWordChar_of_isBlank (areBlank d (List.mem_of_head? isHead))

theorem tokens_trimStart (s : List Char) : tokens (Text.trimStart s) = tokens s := by
  have blanks : ∀ c ∈ s.takeWhile Text.isBlank, Text.isBlank c = true :=
    List.all_eq_true.mp List.all_takeWhile
  calc tokens (Text.trimStart s)
    _ = tokens (s.takeWhile Text.isBlank ++ Text.trimStart s) :=
        (tokens_blanks_append blanks _).symm
    _ = tokens s := by rw [Text.trimStart, List.takeWhile_append_dropWhile]

theorem tokens_trimEnd (s : List Char) : tokens (Text.trimEnd s) = tokens s := by
  have blanks : ∀ c ∈ (s.reverse.takeWhile Text.isBlank).reverse, Text.isBlank c = true :=
    fun c member => List.all_eq_true.mp List.all_takeWhile c (List.mem_reverse.mp member)
  calc tokens (Text.trimEnd s)
    _ = tokens (Text.trimEnd s ++ (s.reverse.takeWhile Text.isBlank).reverse) :=
        (tokens_append_blanks blanks _).symm
    _ = tokens s := by
        rw [Text.trimEnd, ← List.reverse_append, List.takeWhile_append_dropWhile,
          List.reverse_reverse]

theorem tokens_trim (s : List Char) : tokens (Text.trim s) = tokens s := by
  rw [Text.trim, tokens_trimEnd, tokens_trimStart]

/-! ## Reading spelled tokens -/

theorem isWordChar_of_capital {c : Char} (low : 65 ≤ c.toNat) (high : c.toNat ≤ 90) :
    isWordChar c = true := by
  have noBlank : Text.isBlank c = false := Text.isBlank_eq_false (by omega) (by omega)
  have noSymbol : ¬ (c = ',' ∨ c = '!' ∨ c = '(' ∨ c = ')') := by
    rintro (rfl | rfl | rfl | rfl) <;> exact absurd low (by decide)
  simpa [isWordChar, noBlank, and_assoc] using noSymbol

/-- What is no part of a word is no letter that has another case. -/
theorem toLower_of_not_isWordChar {c : Char} (other : isWordChar c = false) : c.toLower = c := by
  have noCapital : ¬ (65 ≤ c.toNat ∧ c.toNat ≤ 90) := fun capital =>
    Bool.false_ne_true (other.symm.trans (isWordChar_of_capital capital.1 capital.2))
  refine dif_neg ?_
  simp only [ge_iff_le, UInt32.le_iff_toNat_le]
  exact noCapital

/-- A word that is an operator in some letter case has no other characters than letters. -/
theorem areWordChars_of_mem_operators {word : List Char} {token : Token}
    (isOperator : (Text.lower word, token) ∈ operators) : ∀ c ∈ word, isWordChar c = true := by
  have areWords : ∀ operator ∈ operators, operator.1.all isWordChar = true := by decide
  intro c member
  cases isPart : isWordChar c with
  | true => rfl
  | false =>
      have inside : c ∈ Text.lower word :=
        List.mem_map.mpr ⟨c, member, toLower_of_not_isWordChar isPart⟩
      exact isPart.symm.trans (List.all_eq_true.mp (areWords _ isOperator) c inside)

theorem ofWord_of_mem_operators {word : List Char} {token : Token}
    (isOperator : (Text.lower word, token) ∈ operators) : word ≠ [] ∧ ofWord word = token := by
  simp only [operators, Text.lower, List.mem_cons, Prod.mk.injEq, List.not_mem_nil, or_false]
    at isOperator
  rcases isOperator with ⟨same, rfl⟩ | ⟨same, rfl⟩ | ⟨same, rfl⟩
  all_goals
    constructor
    · rintro rfl
      cases same
    · rw [ofWord, same]
      rfl

theorem ofWord_of_isName {word : List Char} (isName : IsName word) : ofWord word = .name word := by
  have other := isName.noOperator
  simp only [operators, Text.lower, List.map_cons, List.map_nil, List.mem_cons, List.not_mem_nil,
    or_false, not_or] at other
  simp only [ofWord, other, if_false]

theorem IsSpelling.tokens_eq {token : Token} {word : List Char} (spelling : IsSpelling token word) :
    tokens word = [token] := by
  cases spelling with
  | name isName => rw [tokens_word isName.nonempty isName.areWordChars, ofWord_of_isName isName]
  | operator isOperator =>
      obtain ⟨nonempty, same⟩ := ofWord_of_mem_operators isOperator
      rw [tokens_word nonempty (areWordChars_of_mem_operators isOperator), same]
  | comma => decide
  | mark => decide
  | opening => decide
  | closing => decide

theorem tokens_of_spells {read : List Token} {s : List Char} (spells : Spells read s) :
    tokens s = read := by
  induction spells with
  | nil areBlank => exact tokens_blanks areBlank
  | cons areBlank spelling apart _ ih =>
      rw [tokens_blanks_append areBlank, tokens_append apart, spelling.tokens_eq, ih]
      rfl

/-! ## Spelling what is read -/

theorem IsSpelling.ofWord {word : List Char} (nonempty : word ≠ [])
    (areWordChars : ∀ c ∈ word, isWordChar c = true) : IsSpelling (ofWord word) word := by
  by_cases isOperator : Text.lower word ∈ operators.map (·.1)
  · obtain ⟨⟨lowered, token⟩, member, same⟩ := List.mem_map.mp isOperator
    dsimp only at same
    rw [same] at member
    rw [(ofWord_of_mem_operators member).2]
    exact .operator member
  · have isName : IsName word := ⟨nonempty, areWordChars, isOperator⟩
    rw [ofWord_of_isName isName]
    exact .name isName

theorem IsSpelling.ofSymbol {c : Char} {token : Token} (isSymbol : symbol? c = some token) :
    IsSpelling token [c] := by
  unfold symbol? at isSymbol
  split at isSymbol
  · cases isSymbol
    subst c
    exact .comma
  split at isSymbol
  · cases isSymbol
    subst c
    exact .mark
  split at isSymbol
  · cases isSymbol
    subst c
    exact .opening
  split at isSymbol
  · cases isSymbol
    subst c
    exact .closing
  · cases isSymbol

/-- A token may be spelled without blanks in front of it. -/
theorem Spells.word {token : Token} {read : List Token} {word s : List Char}
    (spelling : IsSpelling token word) (apart : AreApart word s) (others : Spells read s) :
    Spells (token :: read) (word ++ s) :=
  @Spells.cons token read [] word s nofun spelling apart others

theorem Spells.blank {read : List Token} {c : Char} {s : List Char}
    (isBlank : Text.isBlank c = true) (spells : Spells read s) : Spells read (c :: s) := by
  cases spells with
  | nil areBlank => exact .nil (List.forall_mem_cons.mpr ⟨isBlank, areBlank⟩)
  | cons areBlank spelling apart others =>
      exact .cons (List.forall_mem_cons.mpr ⟨isBlank, areBlank⟩) spelling apart others

/-- Whether a text is its first word, if it begins with one, and a text that spells the tokens behind
that word. -/
def SpellsBehindWord (s : List Char) : Prop :=
  ∃ rest, s = (scan s).1 ++ rest ∧ (∀ c ∈ (scan s).1, isWordChar c = true) ∧
    (∀ d ∈ rest.head?, isWordChar d = false) ∧ Spells (scan s).2 rest

theorem SpellsBehindWord.spells {s : List Char} (behind : SpellsBehindWord s) :
    Spells (tokens s) s := by
  obtain ⟨rest, same, areWordChars, stops, others⟩ := behind
  rw [tokens]
  dsimp only
  by_cases nothing : (scan s).1 = []
  · rw [nothing, List.nil_append] at same
    simpa [nothing, ofWord?, ← same] using others
  · have word := Spells.word (.ofWord nothing areWordChars)
      (fun _ _ d isHead _ => stops d isHead) others
    rw [← same] at word
    simpa [ofWord?, nothing] using word

theorem spellsBehindWord (s : List Char) : SpellsBehindWord s := by
  induction s with
  | nil => exact ⟨[], rfl, by simp [scan], by simp, .nil (by simp)⟩
  | cons c s ih =>
      rcases char_cases c with blank | ⟨noBlank, token, isSymbol⟩ | isPart
      · have isSpelled : Spells (scan (c :: s)).2 (c :: s) := by
          rw [scan_blank blank]
          exact ih.spells.blank blank
        refine ⟨c :: s, ?_, ?_, ?_, isSpelled⟩
        · rw [scan_blank blank, List.nil_append]
        · simp [scan_blank blank]
        · rintro d ⟨⟩
          exact not_isWordChar_of_isBlank blank
      · have isSpelled : Spells (scan (c :: s)).2 (c :: s) := by
          rw [scan_symbol noBlank isSymbol]
          refine Spells.word (.ofSymbol isSymbol) ?_ ih.spells
          rintro d ⟨⟩ _ _ isPart
          cases isPart.symm.trans (not_isWordChar_of_symbol? isSymbol)
        refine ⟨c :: s, ?_, ?_, ?_, isSpelled⟩
        · rw [scan_symbol noBlank isSymbol, List.nil_append]
        · simp [scan_symbol noBlank isSymbol]
        · rintro d ⟨⟩
          exact not_isWordChar_of_symbol? isSymbol
      · obtain ⟨rest, same, areWordChars, stops, others⟩ := ih
        refine ⟨rest, ?_, ?_, stops, ?_⟩ <;> rw [scan_wordChar isPart]
        · rw [List.cons_append, ← same]
        · exact List.forall_mem_cons.mpr ⟨isPart, areWordChars⟩
        · exact others

/-- A text is read as the tokens that it spells, and as no others. -/
theorem tokens_eq_iff {read : List Token} {s : List Char} : tokens s = read ↔ Spells read s := by
  refine ⟨?_, tokens_of_spells⟩
  rintro rfl
  exact (spellsBehindWord s).spells

end Migration.Filter
