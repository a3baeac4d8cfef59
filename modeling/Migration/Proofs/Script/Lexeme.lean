import Migration.Proofs.Number
import Migration.Proofs.Script.Layout

/-!
# Reading the words of a layout

Each step that reads trivia, a name, a quoted text, an integer or a word finds what a layout has
written, and stops where the layout goes on.
-/

namespace Migration

/-! ## First occurrences -/

namespace Text

/-- A text is cut where `needle` is written, when no occurrence of it begins earlier. -/
theorem cutAt_append {needle : List Char} (notEmpty : needle ≠ []) (s rest : List Char)
    (clear : ∀ u, u ≠ [] → u <:+ s → ¬ needle <+: u ++ (needle ++ rest)) :
    cutAt needle (s ++ (needle ++ rest)) = some (s, rest) := by
  induction s with
  | nil =>
      obtain ⟨c, tail, rfl⟩ := List.exists_cons_of_ne_nil notEmpty
      have here : (c :: tail).isPrefixOf (c :: (tail ++ rest)) :=
        List.isPrefixOf_iff_prefix.mpr ⟨rest, rfl⟩
      rw [List.nil_append, List.cons_append, cutAt, if_pos here, ← List.cons_append,
        List.drop_left]
  | cons c s ih =>
      have noneHere : ¬ needle.isPrefixOf (c :: (s ++ (needle ++ rest))) := fun here =>
        clear (c :: s) (by simp) List.suffix_rfl (List.isPrefixOf_iff_prefix.mp here)
      have later := ih fun u notNil isTail => clear u notNil (isTail.trans (List.suffix_cons c s))
      rw [List.cons_append, cutAt, if_neg noneHere, later, Option.map_some]

end Text

namespace Script

/-! ## Trivia -/

/-- A character that begins no trivia. -/
def IsSolid (c : Char) : Prop :=
  isSpace c = false ∧ c ≠ ';' ∧ c ≠ '/'

instance (c : Char) : Decidable (IsSolid c) :=
  inferInstanceAs (Decidable (_ ∧ _))

theorem ne_of_class {isIn : Char → Bool} {c other : Char} (member : isIn c)
    (clear : isIn other = false) : c ≠ other := by
  rintro rfl
  rw [clear] at member
  cases member

theorem not_isQuote_of_class {isIn : Char → Bool} {c : Char} (member : isIn c)
    (clear : ['"', '\''].any isIn = false) : isQuote c = false := by
  obtain ⟨double, single⟩ : isIn '"' = false ∧ isIn '\'' = false := by simpa using clear
  simp [isQuote, ne_of_class member double, ne_of_class member single]

/-- A class that has none of the characters that begin trivia. -/
def IsClearOfTrivia (isIn : Char → Bool) : Prop :=
  [' ', '\t', '\r', '\n', ';', '/'].any isIn = false

instance (isIn : Char → Bool) : Decidable (IsClearOfTrivia isIn) :=
  inferInstanceAs (Decidable (_ = false))

theorem isSolid_of_class {isIn : Char → Bool} {c : Char} (member : isIn c)
    (clear : IsClearOfTrivia isIn) : IsSolid c := by
  have notIn : c ∉ [' ', '\t', '\r', '\n', ';', '/'] := fun listed => by
    rw [IsClearOfTrivia, List.any_eq_false] at clear
    exact clear c listed member
  simpa [IsSolid, isSpace, and_assoc] using notIn

theorem skipTrivia_of_trivium? {s rest : List Char} (found : trivium? s = some rest) :
    skipTrivia s = skipTrivia rest := by
  rw [skipTrivia.eq_def]
  split <;> simp_all

@[simp]
theorem skipTrivia_nil : skipTrivia [] = [] := by
  rw [skipTrivia.eq_def]
  rfl

theorem skipTrivia_of_solid {c : Char} (isSolid : IsSolid c) (s : List Char) :
    skipTrivia (c :: s) = c :: s := by
  have nothing : trivium? (c :: s) = none := by
    obtain ⟨notSpace, notSemicolon, notSlash⟩ := isSolid
    unfold trivium?
    split <;> simp_all
  rw [skipTrivia.eq_def]
  split <;> simp_all

theorem trivium?_blank {c : Char} (isBlank : isSpace c ∨ c = ';') (s : List Char) :
    trivium? (c :: s) = some s := by
  have notSlash : c ≠ '/' := by
    rintro rfl
    revert isBlank
    decide
  rw [trivium?, if_pos (by simpa using isBlank)]
  · exact fun _ same => absurd same notSlash
  · exact fun _ same => absurd same notSlash

theorem trivium?_lineComment {body : List Char} (oneLine : '\n' ∉ body ∧ '\r' ∉ body)
    {newline : Char} (ends : newline = '\n' ∨ newline = '\r') (s : List Char) :
    trivium? ('/' :: '/' :: (body ++ newline :: s)) = some (newline :: s) := by
  have inLine : ∀ c ∈ body, (decide (c ≠ '\r') && decide (c ≠ '\n')) = true := by
    intro c isIn
    have notReturn : c ≠ '\r' := fun same => oneLine.2 (same ▸ isIn)
    have notFeed : c ≠ '\n' := fun same => oneLine.1 (same ▸ isIn)
    simp [notReturn, notFeed]
  rw [trivium?, List.dropWhile_append_of_pos inLine]
  rcases ends with rfl | rfl <;> simp

theorem trivium?_blockComment {body : List Char} (closesLast : ¬ ['*', '/'] <:+: body)
    (s : List Char) : trivium? ('/' :: '*' :: (body ++ '*' :: '/' :: s)) = some s := by
  have cut : Text.cutAt ['*', '/'] (body ++ (['*', '/'] ++ s)) = some (body, s) := by
    refine Text.cutAt_append (by simp) body s ?_
    intro u notNil isTail starts
    match u, notNil with
    | [c], _ => simp at starts
    | c :: d :: u, _ =>
        obtain ⟨rfl, rfl⟩ : '*' = c ∧ '/' = d := by simpa using starts
        exact closesLast ((List.prefix_append ['*', '/'] u).isInfix.trans isTail.isInfix)
  rw [trivium?]
  exact congrArg (Option.map (·.2)) cut

/-- All trivia of a layout are skipped. -/
theorem skipTrivia_append {gap : List Char} (trivia : IsTrivia gap) (rest : List Char) :
    skipTrivia (gap ++ rest) = skipTrivia rest := by
  induction trivia with
  | nil => rfl
  | blank isBlank _ ih =>
      rw [List.cons_append, skipTrivia_of_trivium? (trivium?_blank isBlank _), ih]
  | @lineComment body s newline oneLine ends _ ih =>
      have isBlank : isSpace newline ∨ newline = ';' := by
        rcases ends with rfl | rfl <;> decide
      simp only [List.cons_append, List.append_assoc]
      rw [skipTrivia_of_trivium? (trivium?_lineComment oneLine ends _),
        skipTrivia_of_trivium? (trivium?_blank isBlank _), ih]
  | @blockComment body s closesLast _ ih =>
      simp only [List.cons_append, List.append_assoc]
      rw [skipTrivia_of_trivium? (trivium?_blockComment closesLast _), ih]

theorem skipTrivia_of_isTrivia {gap : List Char} (trivia : IsTrivia gap) :
    skipTrivia gap = [] := by
  have skipped := skipTrivia_append trivia []
  rwa [List.append_nil, skipTrivia_nil] at skipped

theorem skipTrivia_append_solid {gap : List Char} (trivia : IsTrivia gap) {c : Char}
    (isSolid : IsSolid c) (s : List Char) : skipTrivia (gap ++ c :: s) = c :: s := by
  rw [skipTrivia_append trivia, skipTrivia_of_solid isSolid]

/-! ## Where a word ends -/

/-- A place where a word may end: neither a name nor a quoted text goes on there. -/
def IsApart (rest : List Char) : Prop :=
  ∀ c ∈ rest.head?, isNameChar c = false ∧ isQuote c = false

theorem isApart_cons {c : Char} {s : List Char} :
    IsApart (c :: s) ↔ isNameChar c = false ∧ isQuote c = false := by
  simp [IsApart]

theorem isApart_of_trivia {gap : List Char} (trivia : IsTrivia gap) (notEmpty : gap ≠ [])
    (rest : List Char) : IsApart (gap ++ rest) := by
  cases trivia with
  | nil => exact absurd rfl notEmpty
  | @blank c s isBlank _ =>
      rw [List.cons_append, isApart_cons]
      rcases isBlank with isBlank | rfl
      · simp only [isSpace, Bool.or_eq_true, decide_eq_true_eq] at isBlank
        rcases isBlank with ((rfl | rfl) | rfl) | rfl <;> decide
      · decide
  | lineComment => exact isApart_cons.mpr (by decide)
  | blockComment => exact isApart_cons.mpr (by decide)

theorem isApart_append {gap rest : List Char} (trivia : IsTrivia gap) (isApart : IsApart rest) :
    IsApart (gap ++ rest) := by
  by_cases empty : gap = []
  · rw [empty, List.nil_append]
    exact isApart
  · exact isApart_of_trivia trivia empty rest

theorem takeWhile_append {keep : Char → Bool} {s rest : List Char} (kept : ∀ c ∈ s, keep c)
    (stops : ∀ c ∈ rest.head?, keep c = false) : (s ++ rest).takeWhile keep = s := by
  rw [List.takeWhile_append_of_pos kept]
  cases rest with
  | nil => simp
  | cons c rest => simp [stops c rfl]

theorem dropWhile_append {keep : Char → Bool} {s rest : List Char} (kept : ∀ c ∈ s, keep c)
    (stops : ∀ c ∈ rest.head?, keep c = false) : (s ++ rest).dropWhile keep = rest := by
  rw [List.dropWhile_append_of_pos kept]
  cases rest with
  | nil => rfl
  | cons c rest => simp [stops c rfl]

/-! ## Names and words -/

theorem name?_append {text rest : List Char} (isName : IsName text)
    (stops : ∀ c ∈ rest.head?, isNameChar c = false) :
    name? (text ++ rest) = some (String.ofList text, rest) := by
  cases isName with
  | @intro c s start others =>
      rw [List.cons_append, name?, if_pos start, takeWhile_append others stops,
        dropWhile_append others stops]

theorem name?_of_head {c : Char} (notName : isNameStart c = false) (s : List Char) :
    name? (c :: s) = none := by
  simp [name?, notName]

theorem word_append {name : String} {rest : List Char} (isName : IsName name.toList)
    (isApart : IsApart rest) : word (name.toList ++ rest) = .found (ofWord name) rest := by
  rw [word, name?_append isName fun c isHead => (isApart c isHead).1, String.ofList_toList]
  rfl

/-! ## Texts -/

theorem shortText?_append {quote : Char} (isQuote : isQuote quote) {content body : List Char}
    (writes : WritesShort quote content body) (rest : List Char) :
    shortText? quote (body ++ quote :: rest) = some (content, rest) := by
  induction writes with
  | nil => rw [List.nil_append, shortText?.eq_def]; simp
  | plain noQuote noEscape _ ih =>
      rw [List.cons_append, shortText?.eq_def]
      simp [noQuote, noEscape, ih]
  | escaped _ ih =>
      have notQuote : '\\' ≠ quote := by
        rintro rfl
        revert isQuote
        decide
      rw [List.cons_append, List.cons_append, shortText?.eq_def]
      simp [notQuote, ih]

/-- A short text does not begin like a long one. -/
theorem longText?_short {quote : Char} (isQuote : isQuote quote) {content body rest : List Char}
    (writes : WritesShort quote content body) (isApart : IsApart rest) (fence : Char) :
    longText? fence (quote :: (body ++ quote :: rest)) = none := by
  have noFence : ¬ [fence, fence, fence].isPrefixOf (quote :: (body ++ quote :: rest)) := by
    intro starts
    rw [List.isPrefixOf_iff_prefix, List.cons_prefix_cons] at starts
    obtain ⟨rfl, starts⟩ := starts
    cases writes with
    -- only behind an empty text could a third quote stand, and there it would be in `rest`
    | nil =>
        cases rest with
        | nil => simp at starts
        | cons c rest =>
            have same : fence = c := by simpa using starts
            have notQuote := (isApart_cons.mp isApart).2
            rw [← same, isQuote] at notQuote
            cases notQuote
    | plain noQuote => exact noQuote (List.cons_prefix_cons.mp starts).1.symm
    | escaped =>
        have same : fence = '\\' := (List.cons_prefix_cons.mp starts).1
        rw [same] at isQuote
        revert isQuote
        decide
  simp only [longText?, if_neg noFence]

theorem longText?_append {quote : Char} {content : List Char}
    (noFence : ¬ [quote, quote, quote] <:+: content) (noQuoteLast : content.getLast? ≠ some quote)
    (rest : List Char) :
    longText? quote (quote :: quote :: quote :: (content ++ ([quote, quote, quote] ++ rest))) =
      some (content, rest) := by
  have cut : Text.cutAt [quote, quote, quote] (content ++ ([quote, quote, quote] ++ rest)) =
      some (content, rest) := by
    refine Text.cutAt_append (by simp) content rest ?_
    intro u notNil isTail starts
    have last : u.getLast? ≠ some quote := by
      obtain ⟨before, rfl⟩ := isTail
      simpa [List.getLast?_append, Option.or_eq_some_iff, notNil] using noQuoteLast
    -- an earlier fence begins at most two characters before the end, or lies in the content
    match u, notNil with
    | [a], _ =>
        have same : quote = a := (List.cons_prefix_cons.mp starts).1
        exact last (congrArg some same.symm)
    | [a, b], _ =>
        have same : quote = b := by
          simp only [List.cons_append, List.nil_append, List.cons_prefix_cons] at starts
          exact starts.2.1
        exact last (congrArg some same.symm)
    | a :: b :: c :: u, _ =>
        obtain ⟨rfl, rfl, rfl⟩ : quote = a ∧ quote = b ∧ quote = c := by simpa using starts
        exact noFence ((List.prefix_append [quote, quote, quote] u).isInfix.trans isTail.isInfix)
  simp [longText?, List.isPrefixOf, ← cut]

/-- A quoted text is read back, whichever form it has. -/
theorem quoted_append {s : String} {text rest : List Char} (writes : WritesText s text)
    (isApart : IsApart rest) : quoted (text ++ rest) = .found s rest := by
  cases writes with
  | @short quote body isQuote content =>
      rw [List.cons_append, List.append_assoc, List.singleton_append]
      unfold quoted
      simp only [longText?_short isQuote content isApart, isQuote, if_true,
        shortText?_append isQuote content, String.ofList_toList]
  | @long quote isQuote noFence noQuoteLast =>
      have found := longText?_append noFence noQuoteLast rest
      simp only [List.cons_append, List.append_assoc] at found ⊢
      have either : quote = '"' ∨ quote = '\'' := by simpa [Script.isQuote] using isQuote
      unfold quoted
      rcases either with rfl | rfl
      · simp only [found, String.ofList_toList]
      · have noDouble : ∀ tail, longText? '"' ('\'' :: tail) = none := by
          simp [longText?]
        simp only [found, noDouble, String.ofList_toList]

/-- Only a quote begins a quoted text. -/
theorem quoted_of_head {c : Char} (notQuote : isQuote c = false) (s : List Char) :
    quoted (c :: s) = .absent := by
  have noLong : ∀ quote, isQuote quote → longText? quote (c :: s) = none := by
    intro quote isQuote
    have noFence : ¬ [quote, quote, quote].isPrefixOf (c :: s) := by
      intro starts
      have same : quote = c := (List.cons_prefix_cons.mp (List.isPrefixOf_iff_prefix.mp starts)).1
      rw [← same, isQuote] at notQuote
      cases notQuote
    simp only [longText?, if_neg noFence]
  unfold quoted
  simp [noLong '"' (by decide), noLong '\'' (by decide), notQuote]

/-! ## Numbers -/

theorem not_isNameStart_of_not_isNameChar {c : Char} (notIn : isNameChar c = false) :
    isNameStart c = false := by
  simp only [isNameChar, isNameStart, Char.isAlphanum, Bool.or_eq_false_iff] at notIn ⊢
  exact ⟨notIn.1.1.1, notIn.1.2⟩

theorem not_isDigit_of_isNameStart {c : Char} (start : isNameStart c) : c.isDigit = false := by
  by_cases isLow : c = '_'
  · rw [isLow]
    decide
  · have isAlpha : c.isAlpha := by simpa [isNameStart, isLow] using start
    have letter : decide ('A'.val ≤ c.val ∧ c.val ≤ 'Z'.val) ||
        (decide ('a'.val ≤ c.val) && decide (c.val ≤ 'z'.val)) := isAlpha
    show (decide ('0'.val ≤ c.val) && decide (c.val ≤ '9'.val)) = false
    grind

theorem not_isDigit_of_not_isNameChar {c : Char} (notIn : isNameChar c = false) :
    c.isDigit = false := by
  simp only [isNameChar, Char.isAlphanum, Bool.or_eq_false_iff] at notIn
  exact notIn.1.1.2

/-- A number begins with its sign or a digit. -/
def isNumberStart (c : Char) : Bool :=
  c = '-' || c.isDigit

theorem not_isNumberStart_of_isNameStart {c : Char} (start : isNameStart c) :
    isNumberStart c = false := by
  have notSign : c ≠ '-' := ne_of_class start (by decide)
  simp [isNumberStart, notSign, not_isDigit_of_isNameStart start]

theorem fraction?_of_isApart {rest : List Char} (isApart : IsApart rest) :
    fraction? rest = none := by
  unfold fraction?
  split
  · exact absurd (isApart_cons.mp isApart).1 (by decide)
  · rfl

/-- Both signs are read by one argument. -/
theorem number_signed {n : Int64} {negative : Bool} {digits rest : List Char}
    (areDigits : Number.isDigits digits)
    (size : n.toInt = if negative then -(Number.ofDigits digits : Int) else Number.ofDigits digits)
    (isApart : IsApart rest) :
    number ((if negative then ['-'] else []) ++ (digits ++ rest)) = .found (.int n) rest := by
  have noLetter : rest.head?.any isNameStart = false := by
    rw [Option.any_eq_false]
    exact fun c isHead => by simp [not_isNameStart_of_not_isNameChar (isApart c isHead).1]
  have stops : ∀ c ∈ rest.head?, c.isDigit = false := fun c isHead =>
    not_isDigit_of_not_isNameChar (isApart c isHead).1
  have noFraction := fraction?_of_isApart isApart
  have fits := Number.fit64?_toInt n
  obtain ⟨notEmpty, allDigits⟩ := Number.isDigits_iff.mp areDigits
  have noSign : ∀ body, digits ++ rest ≠ '-' :: body := by
    obtain ⟨c, others, rfl⟩ := List.exists_cons_of_ne_nil notEmpty
    intro body same
    have digit := allDigits c List.mem_cons_self
    rw [(List.cons.inj same).1] at digit
    exact absurd digit (by decide)
  unfold number
  split
  -- the sign that is read stays a variable, `signed`, until the digits are read too
  next signed body sign =>
    have facts : negative = signed ∧ digits ++ rest = body := by
      cases negative with
      | true => exact Prod.mk.inj sign
      | false =>
          rw [if_neg Bool.false_ne_true, List.nil_append] at sign
          split at sign
          next tail same => exact absurd same (noSign tail)
          next => exact Prod.mk.inj sign
    obtain ⟨same, rfl⟩ := facts
    rw [same] at size
    rw [takeWhile_append allDigits stops, dropWhile_append allDigits stops]
    simp [noFraction, notEmpty, noLetter, ← size, fits]

theorem number_append {n : Int64} {text rest : List Char} (writes : WritesInt n text)
    (isApart : IsApart rest) : number (text ++ rest) = .found (.int n) rest := by
  cases writes with
  | natural areDigits size => exact @number_signed n false _ rest areDigits size isApart
  | negative areDigits size => exact @number_signed n true _ rest areDigits size isApart

theorem number_of_head {c : Char} (notNumber : isNumberStart c = false) (s : List Char) :
    number (c :: s) = .absent := by
  obtain ⟨notSign, notDigit⟩ : c ≠ '-' ∧ c.isDigit = false := by
    simpa [isNumberStart] using notNumber
  unfold number
  split
  next signed body sign =>
    have whole : body = c :: s := by
      split at sign
      next tail same => exact absurd (List.cons.inj same).1 notSign
      next => exact (Prod.mk.inj sign).2.symm
    have noDigits : body.takeWhile Char.isDigit = [] := by
      rw [whole, List.takeWhile_cons_of_neg (by simp [notDigit])]
    simp [noDigits]

end Script

end Migration
