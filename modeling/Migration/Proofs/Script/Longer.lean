import Migration.Proofs.Script.Argument
import Migration.Proofs.Script.Rest

/-!
# Reading in a longer script

What is read from a text is read from every longer one in which the text is followed by a new line:
no word goes on there.  Only a text whose opening triple quote is never closed is read differently,
if the closing one is in what follows.
-/

namespace Migration

namespace Text

/-- What has no line feed begins a line if it begins a longer text. -/
theorem isPrefixOf_newline {needle : List Char} (oneLine : '\n' ∉ needle) (s b : List Char) :
    needle.isPrefixOf (s ++ '\n' :: b) = needle.isPrefixOf s := by
  induction needle generalizing s with
  | nil => simp
  | cons c needle ih =>
      obtain ⟨different, rest⟩ : '\n' ≠ c ∧ '\n' ∉ needle := by simpa using oneLine
      cases s with
      | nil => simp [List.isPrefixOf, Ne.symm different]
      | cons d s =>
          rw [List.cons_append, List.isPrefixOf_cons_cons, List.isPrefixOf_cons_cons, ih rest]

/-- A text is cut at the first occurrence also when it goes on, and behind its end if there is none
in it. -/
theorem cutAt_newline {needle : List Char} (oneLine : '\n' ∉ needle) (notEmpty : needle ≠ [])
    (s b : List Char) : cutAt needle (s ++ '\n' :: b) =
      match cutAt needle s with
      | some (before, rest) => some (before, rest ++ '\n' :: b)
      | none => (cutAt needle b).map fun (before, rest) => (s ++ '\n' :: before, rest) := by
  induction s with
  | nil =>
      have noneHere : needle.isPrefixOf ('\n' :: b) = false := by
        rw [← List.nil_append ('\n' :: b), isPrefixOf_newline oneLine]
        cases needle with
        | nil => exact absurd rfl notEmpty
        | cons => rfl
      simp [cutAt, notEmpty, noneHere]
  | cons c s ih =>
      have same := isPrefixOf_newline oneLine (c :: s) b
      rw [List.cons_append] at same ⊢
      rw [cutAt, cutAt, same, ih]
      split
      · rename_i here
        have le := (List.isPrefixOf_iff_prefix.mp here).length_le
        rw [← List.cons_append, List.drop_append_of_le_length le]
      · cases cutAt needle s with
        | some cut => rfl
        | none => cases cutAt needle b <;> rfl

/-- A text cannot be cut where the needle does not stand. -/
theorem cutAt_eq_none_iff {needle : List Char} (notEmpty : needle ≠ []) {s : List Char} :
    cutAt needle s = none ↔ ¬ needle <:+: s := by
  induction s with
  | nil => simp [cutAt, notEmpty]
  | cons c s ih =>
      rw [List.infix_cons_iff, ← List.isPrefixOf_iff_prefix, cutAt]
      split
      · rename_i here
        simp [here]
      · rename_i noneHere
        simp [noneHere, ih]

end Text

namespace Script

variable {s b rest : List Char}

theorem takeWhile_newline {keep : Char → Bool} (stops : keep '\n' = false) (s b : List Char) :
    (s ++ '\n' :: b).takeWhile keep = s.takeWhile keep := by
  induction s with
  | nil => simp [stops]
  | cons c s ih => rw [List.cons_append, List.takeWhile_cons, List.takeWhile_cons, ih]

theorem dropWhile_newline {keep : Char → Bool} (stops : keep '\n' = false) (s b : List Char) :
    (s ++ '\n' :: b).dropWhile keep = s.dropWhile keep ++ '\n' :: b := by
  induction s with
  | nil => simp [stops]
  | cons c s ih =>
      rw [List.cons_append, List.dropWhile_cons, List.dropWhile_cons, ih]
      split <;> rfl

/-! ## Trivia -/

theorem trivium?_newline (found : trivium? s = some rest) (b : List Char) :
    trivium? (s ++ '\n' :: b) = some (rest ++ '\n' :: b) := by
  unfold trivium? at found
  split at found
  · cases found
  · rename_i tail
    cases found
    rw [List.cons_append, List.cons_append, trivium?, dropWhile_newline (by decide)]
  · rename_i tail
    obtain ⟨⟨before, rest⟩, cut, rfl⟩ := Option.map_eq_some_iff.mp found
    rw [List.cons_append, List.cons_append, trivium?,
      Text.cutAt_newline (by decide) (by decide), cut]
    rfl
  · split at found
    · rename_i isBlank
      cases found
      exact trivium?_blank (by simpa using isBlank) _
    · cases found

theorem skipTrivia_of_none (nothing : trivium? s = none) : skipTrivia s = s := by
  rw [skipTrivia.eq_def]
  split <;> simp_all

theorem skipTrivia_newline (s b : List Char) :
    skipTrivia (s ++ '\n' :: b) = skipTrivia (skipTrivia s ++ '\n' :: b) := by
  fun_induction skipTrivia s with
  | case1 s rest found ih => rw [skipTrivia_of_trivium? (trivium?_newline found b), ih]
  | case2 s nothing => rfl

/-- What is left behind trivia begins with something solid, or with a stroke that begins none. -/
theorem isSolid_of_skipTrivia {c : Char} (left : skipTrivia s = c :: rest) (noStroke : c ≠ '/') :
    IsSolid c := by
  have nothing : trivium? (c :: rest) = none := by
    rw [← left]
    fun_induction skipTrivia s with
    | case1 s rest found ih => exact ih left
    | case2 s nothing => exact nothing
  unfold trivium? at nothing
  split at nothing
  · rename_i same
    cases same
  · rename_i same
    cases same
    exact absurd rfl noStroke
  · rename_i same
    cases same
    exact absurd rfl noStroke
  · rename_i same
    cases same
    split at nothing
    · cases nothing
    · rename_i notBlank
      obtain ⟨notSpace, notSemicolon⟩ : isSpace c = false ∧ c ≠ ';' := by simpa using notBlank
      exact ⟨notSpace, notSemicolon, noStroke⟩

theorem skipTrivia_newline_cons {c : Char} (left : skipTrivia s = c :: rest) (noStroke : c ≠ '/')
    (b : List Char) : skipTrivia (s ++ '\n' :: b) = c :: (rest ++ '\n' :: b) := by
  rw [skipTrivia_newline, left, List.cons_append,
    skipTrivia_of_solid (isSolid_of_skipTrivia left noStroke)]

theorem skipTrivia_newline_nil (left : skipTrivia s = []) (b : List Char) :
    skipTrivia (s ++ '\n' :: b) = skipTrivia b := by
  rw [skipTrivia_newline, left, List.nil_append,
    skipTrivia_of_trivium? (trivium?_blank (by decide) b)]

/-! ## Words -/

theorem name?_newline {name : String} (found : name? s = some (name, rest)) (b : List Char) :
    name? (s ++ '\n' :: b) = some (name, rest ++ '\n' :: b) := by
  cases s with
  | nil => cases found
  | cons c s =>
      rw [name?] at found
      split at found
      · rename_i start
        cases found
        rw [List.cons_append, name?, if_pos start, takeWhile_newline (by decide),
          dropWhile_newline (by decide)]
      · cases found

theorem fraction?_newline (s b : List Char) : fraction? (s ++ '\n' :: b) =
    (fraction? s).map fun (digits, rest) => (digits, rest ++ '\n' :: b) := by
  cases s with
  | nil => rfl
  | cons c s =>
      by_cases point : c = '.'
      · subst point
        simp only [fraction?, List.cons_append, takeWhile_newline (show Char.isDigit '\n' = false by
          decide), dropWhile_newline (show Char.isDigit '\n' = false by decide)]
        split <;> rfl
      · simp [fraction?, point]

theorem unsigned_newline {start body : List Char} {negative : Bool} {value : Literal}
    (found : unsigned start negative body = .found value rest) (other b : List Char) :
    unsigned other negative (body ++ '\n' :: b) = .found value (rest ++ '\n' :: b) := by
  have head (s : List Char) : (s ++ '\n' :: b).head?.any isNameStart = s.head?.any isNameStart := by
    cases s <;> rfl
  unfold unsigned at found ⊢
  simp only [takeWhile_newline (show Char.isDigit '\n' = false by decide),
    dropWhile_newline (show Char.isDigit '\n' = false by decide), fraction?_newline]
  cases fraction : fraction? (body.dropWhile Char.isDigit) with
  | none =>
      simp only [fraction, Option.map_none, head] at found ⊢
      split at found
      · cases found
      next noName =>
        rw [if_neg noName]
        split at found
        · cases found
          rfl
        · cases found
  | some pair =>
      simp only [fraction, Option.map_some, head] at found ⊢
      split at found
      · cases found
      next noName =>
        cases found
        rw [if_neg noName]

theorem number_newline {value : Literal} (found : number s = .found value rest) (b : List Char) :
    number (s ++ '\n' :: b) = .found value (rest ++ '\n' :: b) := by
  by_cases sign : s.head? = some '-'
  · obtain ⟨body, rfl⟩ := List.head?_eq_some_iff.mp sign
    exact unsigned_newline found _ b
  · have noSign : (s ++ '\n' :: b).head? ≠ some '-' := by
      cases s with
      | nil => simp
      | cons c s => simpa using sign
    rw [number_of_ne_minus sign] at found
    rw [number_of_ne_minus noSign]
    exact unsigned_newline found _ b

/-! ## Texts -/

/-- Three quotes, which open and close a long text. -/
def tripled (quote : Char) : List Char :=
  [quote, quote, quote]

theorem tripled_oneLine {quote : Char} (quotes : isQuote quote) : '\n' ∉ tripled quote := by
  have different : '\n' ≠ quote := Ne.symm (ne_of_class quotes (by decide))
  simp [tripled, different]

theorem shortText?_newline {quote : Char} {text : List Char}
    (found : shortText? quote s = some (text, rest)) (b : List Char) :
    shortText? quote (s ++ '\n' :: b) = some (text, rest ++ '\n' :: b) := by
  fun_induction shortText? quote s generalizing text rest with
  | case1 => cases found
  | case2 s =>
      cases found
      rw [List.cons_append, shortText?.eq_def]
      simp
  | case3 => cases found
  | case4 escaped s notQuote ih =>
      obtain ⟨⟨inner, tail⟩, read, same⟩ := Option.map_eq_some_iff.mp found
      cases same
      rw [List.cons_append, List.cons_append, shortText?.eq_def]
      simp [notQuote, ih read]
  | case5 c s notQuote notEscape ih =>
      obtain ⟨⟨inner, tail⟩, read, same⟩ := Option.map_eq_some_iff.mp found
      cases same
      rw [List.cons_append, shortText?.eq_def]
      simp [notQuote, notEscape, ih read]

theorem longText?_eq (quote : Char) (s : List Char) : longText? quote s =
    if (tripled quote).isPrefixOf s then Text.cutAt (tripled quote) (s.drop 3) else none := rfl

theorem longText?_newline {quote : Char} (quotes : isQuote quote) (s b : List Char) :
    longText? quote (s ++ '\n' :: b) =
      match longText? quote s with
      | some (text, rest) => some (text, rest ++ '\n' :: b)
      | none =>
          if (tripled quote).isPrefixOf s then
            (Text.cutAt (tripled quote) b).map fun (before, rest) =>
              (s.drop 3 ++ '\n' :: before, rest)
          else none := by
  have oneLine := tripled_oneLine quotes
  rw [longText?_eq, longText?_eq, Text.isPrefixOf_newline oneLine]
  split
  · rename_i opened
    have le : 3 ≤ s.length := (List.isPrefixOf_iff_prefix.mp opened).length_le
    rw [List.drop_append_of_le_length le, Text.cutAt_newline oneLine (by simp [tripled])]
  · rfl

/-- How a text is read that begins with a quote. -/
theorem quoted_cons {quote : Char} (quotes : isQuote quote) (body : List Char) :
    quoted (quote :: body) =
      match longText? quote (quote :: body), shortText? quote body with
      | some (text, rest), _ => .found (String.ofList text) rest
      | none, some (text, rest) => .found (String.ofList text) rest
      | none, none => .malformed ⟨.quote, quote :: body⟩ := by
  have either : quote = '"' ∨ quote = '\'' := by simpa [isQuote] using quotes
  unfold quoted
  rcases either with rfl | rfl
  · have noSingle : longText? '\'' ('"' :: body) = none := by simp [longText?]
    rw [noSingle]
    cases longText? '"' ('"' :: body) with
    | some found => rfl
    | none =>
        dsimp only
        rw [if_pos quotes]
        cases shortText? '"' body <;> rfl
  · have noDouble : longText? '"' ('\'' :: body) = none := by simp [longText?]
    rw [noDouble]
    cases longText? '\'' ('\'' :: body) with
    | some found => rfl
    | none =>
        dsimp only
        rw [if_pos quotes]
        cases shortText? '\'' body <;> rfl

/-- Where a text is read a quote stands. -/
theorem isQuote_of_quoted {text : String} (found : quoted s = .found text rest) :
    ∃ quote body, s = quote :: body ∧ isQuote quote := by
  cases s with
  | nil => cases found
  | cons c body =>
      refine ⟨c, body, rfl, ?_⟩
      cases quotes : isQuote c with
      | true => rfl
      | false =>
          rw [quoted_of_head quotes] at found
          cases found

/-- A place where three quotes open a text that is never closed, so that they are an empty short
text and an opening quote. -/
def IsUnclosed (quote : Char) (s : List Char) : Prop :=
  ∃ inner, s = tripled quote ++ inner ∧ Text.cutAt (tripled quote) inner = none

theorem longText?_of_isUnclosed {quote : Char} (isUnclosed : IsUnclosed quote s) :
    longText? quote s = none := by
  obtain ⟨inner, rfl, uncut⟩ := isUnclosed
  rw [longText?_eq, if_pos (List.isPrefixOf_iff_prefix.mpr (List.prefix_append _ _))]
  exact uncut

/-- What is read at an unclosed text. -/
theorem quoted_of_isUnclosed {quote : Char} (quotes : isQuote quote) {text : String}
    (isUnclosed : IsUnclosed quote s) (found : quoted s = .found text rest) :
    text = "" ∧ rest = s.drop 2 := by
  have noLong := longText?_of_isUnclosed isUnclosed
  obtain ⟨inner, rfl, -⟩ := isUnclosed
  simp only [tripled, List.cons_append, List.nil_append] at found noLong ⊢
  rw [quoted_cons quotes, noLong, shortText?.eq_def] at found
  simp only [if_true] at found
  cases found
  exact ⟨rfl, rfl⟩

/-- A text is read in the same way when the script goes on, except where three quotes open it that
nothing closes. -/
theorem quoted_newline {text : String} (found : quoted s = .found text rest) (b : List Char)
    (closed : ∀ quote, isQuote quote → IsUnclosed quote s → Text.cutAt (tripled quote) b = none) :
    quoted (s ++ '\n' :: b) = .found text (rest ++ '\n' :: b) := by
  obtain ⟨quote, body, rfl, quotes⟩ := isQuote_of_quoted found
  have longer := longText?_newline quotes (quote :: body) b
  rw [quoted_cons quotes] at found
  rw [List.cons_append] at longer ⊢
  rw [quoted_cons quotes, longer]
  cases long : longText? quote (quote :: body) with
  | some pair =>
      rw [long] at found
      cases found
      rfl
  | none =>
      rw [long] at found
      have noneBehind : (if (tripled quote).isPrefixOf (quote :: body) then
          (Text.cutAt (tripled quote) b).map fun (before, rest) =>
            ((quote :: body).drop 3 ++ '\n' :: before, rest) else none) = none := by
        split
        · rename_i opened
          obtain ⟨inner, same⟩ := List.isPrefixOf_iff_prefix.mp opened
          rw [longText?_eq, if_pos opened, ← same] at long
          rw [closed quote quotes ⟨inner, same.symm, long⟩]
          rfl
        · rfl
      simp only [noneBehind]
      cases short : shortText? quote body with
      | none =>
          rw [short] at found
          cases found
      | some pair =>
          rw [short] at found
          rw [shortText?_newline short]
          cases found
          rfl

/-- Where no text begins none begins when the script goes on. -/
theorem quoted_newline_of_absent (absent : quoted s = .absent) (b : List Char) :
    quoted (s ++ '\n' :: b) = .absent := by
  cases s with
  | nil => exact quoted_of_head (by decide) b
  | cons c body =>
      refine quoted_of_head ?_ _
      cases quotes : isQuote c with
      | false => rfl
      | true =>
          rw [quoted_cons quotes] at absent
          split at absent <;> cases absent

theorem head?_of_newline {c : Char} {tail : List Char} (begins : s ++ '\n' :: b = c :: tail)
    (notFeed : c ≠ '\n') : s.head? = some c := by
  cases s with
  | nil =>
      cases begins
      exact absurd rfl notFeed
  | cons first body =>
      cases begins
      rfl

/-- An unclosed text goes on to the first three quotes that follow. -/
theorem quoted_newline_of_isUnclosed {quote : Char} (quotes : isQuote quote) {b before : List Char}
    (isUnclosed : IsUnclosed quote s) (cut : Text.cutAt (tripled quote) b = some (before, rest)) :
    ∃ text, quoted (s ++ '\n' :: b) = .found text rest ∧ text ≠ "" := by
  have noLong := longText?_of_isUnclosed isUnclosed
  obtain ⟨inner, rfl, -⟩ := isUnclosed
  have longer := longText?_newline quotes (tripled quote ++ inner) b
  rw [noLong, if_pos (List.isPrefixOf_iff_prefix.mpr (List.prefix_append _ _)), cut] at longer
  refine ⟨String.ofList (inner ++ '\n' :: before), ?_, ?_⟩
  · simp only [tripled, List.cons_append, List.nil_append] at longer ⊢
    rw [quoted_cons quotes, longer]
    simp
  · intro empty
    have nothing := congrArg String.toList empty
    simp at nothing

/-! ## Lists between brackets -/

/-- The characters that may stand behind an item of a list. -/
def isListMark (c : Char) : Bool :=
  c = ',' || c = ')' || c = ']'

/-- A place where an item of a list ends. -/
def EndsItem (rest : List Char) : Prop :=
  ∃ mark tail, skipTrivia rest = mark :: tail ∧ isListMark mark

/-- A place where a list ends: a closing bracket stands there, perhaps behind a comma. -/
def EndsList (rest : List Char) : Prop :=
  ∃ closer tail, skipLastComma rest = closer :: tail ∧ (closer = ')' ∨ closer = ']')

/-- Whether the items that one step finds are found by the other in a longer text. -/
structure Extends {α : Type} (item longer : List Char → Reading α) (b : List Char) : Prop where
  found : ∀ {s rest : List Char} {value : α}, item s = .found value rest → EndsItem rest →
    longer (s ++ '\n' :: b) = .found value (rest ++ '\n' :: b)
  begins : ∀ {s rest : List Char} {value : α}, item s = .found value rest → BeginsSolid s
  absent : ∀ {mark : Char}, isListMark mark → ∀ tail, longer (mark :: tail) = .absent

theorem ne_stroke_of_isListMark {mark : Char} (isMark : isListMark mark) : mark ≠ '/' :=
  ne_of_class isMark (by decide)

theorem skipTrivia_skipTrivia (s : List Char) : skipTrivia (skipTrivia s) = skipTrivia s := by
  fun_induction skipTrivia s with
  | case1 s rest found ih => exact ih
  | case2 s nothing => exact skipTrivia_of_none nothing

/-- Where a list ends stands its closing bracket, or a comma and then the bracket. -/
theorem EndsList.cases (endsList : EndsList s) :
    ∃ closer tail, (closer = ')' ∨ closer = ']') ∧ (skipTrivia s = closer :: tail ∨
      ∃ behind, skipTrivia s = ',' :: behind ∧ skipTrivia behind = closer :: tail) := by
  obtain ⟨closer, tail, left, isCloser⟩ := endsList
  refine ⟨closer, tail, isCloser, ?_⟩
  unfold skipLastComma at left
  split at left
  · rename_i behind comma
    exact .inr ⟨behind, comma, left⟩
  · exact .inl left

theorem isListMark_of_closer {closer : Char} (isCloser : closer = ')' ∨ closer = ']') :
    isListMark closer := by
  rcases isCloser with rfl | rfl <;> decide

theorem EndsList.endsItem (endsList : EndsList s) : EndsItem s := by
  obtain ⟨closer, tail, isCloser, left | ⟨behind, comma, -⟩⟩ := endsList.cases
  · exact ⟨closer, tail, left, isListMark_of_closer isCloser⟩
  · exact ⟨',', behind, comma, by decide⟩

theorem skipLastComma_newline {closer : Char} (left : skipLastComma s = closer :: rest)
    (isCloser : closer = ')' ∨ closer = ']') (b : List Char) :
    skipLastComma (s ++ '\n' :: b) = closer :: (rest ++ '\n' :: b) := by
  have noStroke := ne_stroke_of_isListMark (isListMark_of_closer isCloser)
  unfold skipLastComma at left ⊢
  split at left
  · rename_i behind comma
    rw [skipTrivia_newline_cons comma (by decide)]
    exact skipTrivia_newline_cons left noStroke b
  · rename_i noComma
    rw [skipTrivia_newline_cons left noStroke]
    split
    · rename_i same
      cases same
      exact absurd left (noComma _)
    · rfl

theorem comma?_newline {afterComma : Char} {tail : List Char}
    (found : comma? s = some (afterComma :: tail)) (noStroke : afterComma ≠ '/') (b : List Char) :
    comma? (s ++ '\n' :: b) = some (afterComma :: (tail ++ '\n' :: b)) := by
  obtain ⟨behind, comma, left⟩ := comma?_eq_some found
  unfold comma?
  rw [skipTrivia_newline_cons comma (by decide)]
  exact congrArg some (skipTrivia_newline_cons left.symm noStroke b)

section Brackets

variable {α : Type} {item longer : List Char → Reading α}

/-- Nothing more is read where a list ends. -/
theorem moreItems_of_endsList (extends' : Extends item longer b) (endsList : EndsList s)
    (fuel : Nat) : moreItems longer fuel (s ++ '\n' :: b) = .ok ([], s ++ '\n' :: b) := by
  cases fuel with
  | zero => rfl
  | succ fuel =>
      obtain ⟨closer, tail, isCloser, ending⟩ := endsList.cases
      have isMark := isListMark_of_closer isCloser
      have noStroke := ne_stroke_of_isListMark isMark
      rw [moreItems]
      rcases ending with left | ⟨behind, comma, left⟩
      · have noComma : comma? (s ++ '\n' :: b) = none := by
          unfold comma?
          rw [skipTrivia_newline_cons left noStroke]
          rcases isCloser with rfl | rfl <;> rfl
        rw [noComma]
      · have found : comma? s = some (closer :: tail) := by
          unfold comma?
          rw [comma]
          exact congrArg some left
        rw [comma?_newline found noStroke]
        simp only [extends'.absent isMark]

theorem moreItems_newline (extends' : Extends item longer b) {fuel : Nat} {values : List α}
    (read : moreItems item fuel s = .ok (values, rest)) (endsList : EndsList rest) {more : Nat}
    (enough : fuel ≤ more) :
    moreItems longer more (s ++ '\n' :: b) = .ok (values, rest ++ '\n' :: b) ∧ EndsItem s := by
  induction fuel generalizing s values more with
  | zero =>
      cases read
      exact ⟨moreItems_of_endsList extends' endsList more, endsList.endsItem⟩
  | succ fuel ih =>
      rcases moreItems_cases read with
        ⟨rfl, rfl, -⟩ | ⟨less, afterComma, value, behind, others, same, comma, found, rest, rfl⟩
      · exact ⟨moreItems_of_endsList extends' endsList more, endsList.endsItem⟩
      · cases same
        obtain ⟨more, rfl⟩ : ∃ fewer, more = fewer + 1 := ⟨more - 1, by omega⟩
        obtain ⟨readOthers, ends⟩ := ih rest (Nat.le_of_succ_le_succ enough)
        obtain ⟨c, tail, rfl, isSolid⟩ := extends'.begins found
        have foundLonger := extends'.found found ends
        rw [List.cons_append] at foundLonger
        obtain ⟨unread, commaHere, -⟩ := comma?_eq_some comma
        refine ⟨?_, ',', unread, commaHere, by decide⟩
        rw [moreItems, comma?_newline comma isSolid.2.2]
        simp only [foundLonger, readOthers]

/-- The inside of a pair of brackets is read in the same way when the script goes on behind the
closing one. -/
theorem bracketed_newline (extends' : Extends item longer b) {values : List α} {closer : Char}
    (read : bracketed item s = .ok (values, closer :: rest))
    (isCloser : closer = ')' ∨ closer = ']') :
    bracketed longer (s ++ '\n' :: b) = .ok (values, closer :: (rest ++ '\n' :: b)) := by
  unfold bracketed commaItems
  rcases bracketed_cases read with
    ⟨-, rfl, left⟩ | ⟨value, behind, more, unread, found, others, rfl, left⟩
  · have endsList : EndsList (skipTrivia s) := ⟨closer, rest, left.symm, isCloser⟩
    obtain ⟨mark, tail, here, isMark⟩ := endsList.endsItem
    rw [skipTrivia_skipTrivia] at here
    rw [skipTrivia_newline_cons here (ne_stroke_of_isListMark isMark)]
    simp only [extends'.absent isMark]
    rw [← List.cons_append, ← here, skipLastComma_newline left.symm isCloser]
  · have endsList : EndsList unread := ⟨closer, rest, left.symm, isCloser⟩
    have enough : behind.length ≤ (behind ++ '\n' :: b).length := by simp
    obtain ⟨readOthers, ends⟩ := moreItems_newline extends' others endsList enough
    obtain ⟨c, tail, here, isSolid⟩ := extends'.begins found
    have foundLonger := extends'.found found ends
    rw [here, List.cons_append] at foundLonger
    rw [skipTrivia_newline_cons here isSolid.2.2]
    simp only [foundLonger, readOthers]
    rw [skipLastComma_newline left.symm isCloser]

end Brackets

/-! ## Values -/

/-- A text that ends where no quote stands is no unclosed one. -/
theorem not_isUnclosed {quote : Char} (quotes : isQuote quote) {text : String}
    (found : quoted s = .found text rest) {mark : Char} {tail : List Char}
    (here : skipTrivia rest = mark :: tail) (noQuote : isQuote mark = false) :
    ¬ IsUnclosed quote s := by
  intro isUnclosed
  obtain ⟨-, rfl⟩ := quoted_of_isUnclosed quotes isUnclosed found
  obtain ⟨inner, rfl, -⟩ := isUnclosed
  have isSolid := isSolid_of_class quotes (show IsClearOfTrivia isQuote by decide)
  simp only [tripled, List.cons_append, List.nil_append, List.drop_succ_cons, List.drop_zero,
    skipTrivia_of_solid isSolid] at here
  cases here
  rw [quotes] at noQuote
  cases noQuote

theorem not_isQuote_of_isListMark {mark : Char} (isMark : isListMark mark) :
    isQuote mark = false :=
  not_isQuote_of_class isMark (by decide)

theorem quoted_newline_of_endsItem {text : String} (found : quoted s = .found text rest)
    (ends : EndsItem rest) (b : List Char) :
    quoted (s ++ '\n' :: b) = .found text (rest ++ '\n' :: b) := by
  obtain ⟨mark, tail, here, isMark⟩ := ends
  refine quoted_newline found b fun quote quotes isUnclosed => ?_
  exact absurd isUnclosed (not_isUnclosed quotes found here (not_isQuote_of_isListMark isMark))

theorem EndsItem.newline (ends : EndsItem rest) (b : List Char) :
    EndsItem (rest ++ '\n' :: b) := by
  obtain ⟨mark, tail, here, isMark⟩ := ends
  exact ⟨mark, _, skipTrivia_newline_cons here (ne_stroke_of_isListMark isMark) b, isMark⟩

theorem number_begins {value : Literal} (found : number s = .found value rest) :
    ∃ c tail, s = c :: tail ∧ isNumberStart c := by
  cases s with
  | nil => cases found
  | cons c tail =>
      refine ⟨c, tail, rfl, ?_⟩
      cases start : isNumberStart c with
      | true => rfl
      | false =>
          rw [number_of_head start] at found
          cases found

theorem name?_begins {name : String} (found : name? s = some (name, rest)) :
    ∃ c tail, s = c :: tail ∧ isNameStart c := by
  cases s with
  | nil => cases found
  | cons c tail =>
      refine ⟨c, tail, rfl, ?_⟩
      cases start : isNameStart c with
      | true => rfl
      | false =>
          rw [name?_of_head start] at found
          cases found

theorem word_eq_found {value : Literal} (found : word s = .found value rest) :
    ∃ name, name? s = some (name, rest) ∧ value = ofWord name := by
  obtain ⟨name, read, rfl⟩ := map_eq_found found
  exact ⟨name, ofOption_eq_found read, rfl⟩

/-- A value is a text, a list, a number or a word. -/
theorem valueWithin_cases {fuel : Nat} {value : Literal}
    (found : valueWithin fuel s = .found value rest) :
    ∃ less, fuel = less + 1 ∧ ((∃ text, quoted s = .found text rest ∧ value = .str text) ∨
      list (valueWithin less) s = .found value rest ∨ number s = .found value rest ∨
      ∃ name, name? s = some (name, rest) ∧ value = ofWord name) := by
  cases fuel with
  | zero => cases found
  | succ fuel =>
      refine ⟨fuel, rfl, ?_⟩
      rcases orElse_eq_found found with quotedText | ⟨-, found⟩
      · obtain ⟨text, read, rfl⟩ := map_eq_found quotedText
        exact .inl ⟨text, read, rfl⟩
      · rcases orElse_eq_found found with found | ⟨-, found⟩
        · exact .inr (.inl found)
        · rcases orElse_eq_found found with found | ⟨-, found⟩
          · exact .inr (.inr (.inl found))
          · exact .inr (.inr (.inr (word_eq_found found)))

theorem valueWithin_begins {fuel : Nat} {value : Literal}
    (found : valueWithin fuel s = .found value rest) : BeginsSolid s := by
  obtain ⟨less, -, ⟨text, read, -⟩ | read | read | ⟨name, read, -⟩⟩ := valueWithin_cases found
  · obtain ⟨c, tail, rfl, quotes⟩ := isQuote_of_quoted read
    exact ⟨c, tail, rfl, isSolid_of_class quotes (by decide)⟩
  · obtain ⟨inner, values, rfl, -, -⟩ := list_eq_found read
    exact ⟨'[', inner, rfl, by decide⟩
  · obtain ⟨c, tail, rfl, start⟩ := number_begins read
    exact ⟨c, tail, rfl, isSolid_of_class start (by decide)⟩
  · obtain ⟨c, tail, rfl, start⟩ := name?_begins read
    exact ⟨c, tail, rfl, isSolid_of_class start (by decide)⟩

theorem isListMark_apart {mark : Char} (isMark : isListMark mark) :
    isQuote mark = false ∧ isNumberStart mark = false ∧ isNameStart mark = false ∧ mark ≠ '[' := by
  have marks : (mark = ',' ∨ mark = ')') ∨ mark = ']' := by simpa [isListMark] using isMark
  rcases marks with (rfl | rfl) | rfl <;> decide

theorem valueWithin_of_isListMark {mark : Char} (isMark : isListMark mark) (fuel : Nat)
    (tail : List Char) : valueWithin fuel (mark :: tail) = .absent := by
  obtain ⟨notQuote, notNumber, notName, notList⟩ := isListMark_apart isMark
  cases fuel with
  | zero => rfl
  | succ fuel =>
      rw [valueWithin_of_head notQuote notList, number_of_head notNumber]
      simp [word, name?_of_head notName, Reading.map, Reading.orElse, Reading.ofOption]

/-- A value is read in the same way when the script goes on, given no less fuel. -/
theorem valueWithin_newline {fuel more : Nat} (enough : fuel ≤ more) {value : Literal}
    (found : valueWithin fuel s = .found value rest) (ends : EndsItem rest) (b : List Char) :
    valueWithin more (s ++ '\n' :: b) = .found value (rest ++ '\n' :: b) := by
  induction fuel generalizing s value rest more with
  | zero => cases found
  | succ fuel ih =>
      obtain ⟨more, rfl⟩ : ∃ fewer, more = fewer + 1 := ⟨more - 1, by omega⟩
      have less : fuel ≤ more := Nat.le_of_succ_le_succ enough
      have extends' : Extends (valueWithin fuel) (valueWithin more) b :=
        { found := fun found ends => ih less found ends
          begins := valueWithin_begins
          absent := fun isMark tail => valueWithin_of_isListMark isMark more tail }
      obtain ⟨_, same, ⟨text, read, rfl⟩ | read | read | ⟨name, read, rfl⟩⟩ :=
        valueWithin_cases found
      · simp only [valueWithin, quoted_newline_of_endsItem read ends, Reading.map, Reading.orElse]
      · cases same
        obtain ⟨inner, values, rfl, inside, rfl⟩ := list_eq_found read
        have longer := bracketed_newline extends' inside (.inr rfl)
        simp only [valueWithin, List.cons_append, list, longer,
          quoted_of_head (show isQuote '[' = false by decide), Reading.map, Reading.orElse]
      · have longer := number_newline read b
        obtain ⟨c, tail, rfl, start⟩ := number_begins read
        rw [List.cons_append] at longer ⊢
        rw [valueWithin_of_head (not_isQuote_of_class start (by decide))
          (ne_of_class start (by decide)), longer]
        rfl
      · have longer := name?_newline read b
        obtain ⟨c, tail, rfl, start⟩ := name?_begins read
        rw [List.cons_append] at longer ⊢
        rw [valueWithin_of_head (not_isQuote_of_class start (by decide))
          (ne_of_class start (by decide)),
          number_of_head (not_isNumberStart_of_isNameStart start), word, longer]
        rfl

theorem value_newline {v : Literal} (found : value s = .found v rest) (ends : EndsItem rest)
    (b : List Char) : value (s ++ '\n' :: b) = .found v (rest ++ '\n' :: b) :=
  valueWithin_newline (by simp) found ends b

/-! ## Arguments -/

theorem not_isNameStart_of_isQuote {quote : Char} (quotes : isQuote quote) :
    isNameStart quote = false := by
  have either : quote = '"' ∨ quote = '\'' := by simpa [isQuote] using quotes
  rcases either with rfl | rfl <;> decide

theorem keyName_newline {name : String} (found : keyName s = .found name rest) {mark : Char}
    {tail : List Char} (here : skipTrivia rest = mark :: tail) (noQuote : isQuote mark = false)
    (b : List Char) : keyName (s ++ '\n' :: b) = .found name (rest ++ '\n' :: b) := by
  rcases orElse_eq_found found with named | ⟨-, read⟩
  · rw [keyName, name?_newline (ofOption_eq_found named)]
    rfl
  · have longer := quoted_newline read b fun quote quotes isUnclosed =>
      absurd isUnclosed (not_isUnclosed quotes read here noQuote)
    obtain ⟨quote, body, rfl, quotes⟩ := isQuote_of_quoted read
    rw [List.cons_append] at longer ⊢
    rw [keyName, name?_of_head (not_isNameStart_of_isQuote quotes)]
    exact longer

theorem key_newline {name : String} (found : key s = .found name rest) (begins : BeginsSolid rest)
    (b : List Char) : key (s ++ '\n' :: b) = .found name (rest ++ '\n' :: b) := by
  obtain ⟨behind, tail, read, colon, left⟩ := key_eq_found found
  obtain ⟨c, more, rfl, isSolid⟩ := begins
  have longer := keyName_newline read colon (by decide) b
  unfold key
  rw [← keyName, longer]
  simp only [skipTrivia_newline_cons colon (by decide),
    skipTrivia_newline_cons left.symm isSolid.2.2, List.cons_append]

/-- A value where an item ends is not taken for a key. -/
theorem key_of_endsItem {v : Literal} (found : value s = .found v rest) (ends : EndsItem rest) :
    key s = .absent := by
  have noColon : (skipTrivia rest).head? ≠ some ':' := by
    obtain ⟨mark, tail, here, isMark⟩ := ends
    rw [here]
    simpa using ne_of_class isMark (show isListMark ':' = false by decide)
  have other {c : Char} (notName : isNameStart c = false) (notQuote : isQuote c = false)
      (tail : List Char) : key (c :: tail) = .absent := by
    rw [key, ← keyName, keyName_of_head notName notQuote]
  obtain ⟨less, -, ⟨text, read, -⟩ | read | read | ⟨name, read, -⟩⟩ := valueWithin_cases found
  · obtain ⟨quote, body, rfl, quotes⟩ := isQuote_of_quoted read
    have named : keyName (quote :: body) = .found text rest := by
      rw [keyName, name?_of_head (not_isNameStart_of_isQuote quotes)]
      exact read
    exact key_of_noColon named noColon
  · obtain ⟨inner, values, rfl, -, -⟩ := list_eq_found read
    exact other (by decide) (by decide) inner
  · obtain ⟨c, tail, rfl, start⟩ := number_begins read
    refine other ?_ (not_isQuote_of_class start (by decide)) tail
    cases named : isNameStart c with
    | false => rfl
    | true =>
        rw [not_isNumberStart_of_isNameStart named] at start
        cases start
  · have named : keyName s = .found name rest := by
      rw [keyName, read]
      rfl
    exact key_of_noColon named noColon

theorem argument_begins {a : Argument} (found : argument s = .found a rest) : BeginsSolid s := by
  rcases argument_cases found with ⟨name, behind, v, read, -, -⟩ | ⟨-, v, read, -⟩
  · obtain ⟨behind, tail, read, -, -⟩ := key_eq_found read
    rcases orElse_eq_found read with named | ⟨-, read⟩
    · obtain ⟨c, tail, rfl, start⟩ := name?_begins (ofOption_eq_found named)
      exact ⟨c, tail, rfl, isSolid_of_class start (by decide)⟩
    · obtain ⟨c, tail, rfl, quotes⟩ := isQuote_of_quoted read
      exact ⟨c, tail, rfl, isSolid_of_class quotes (by decide)⟩
  · exact valueWithin_begins read

theorem argument_of_isListMark {mark : Char} (isMark : isListMark mark) (tail : List Char) :
    argument (mark :: tail) = .absent := by
  obtain ⟨notQuote, -, notName, -⟩ := isListMark_apart isMark
  have noKey : key (mark :: tail) = .absent := by
    rw [key, ← keyName, keyName_of_head notName notQuote]
  simp only [argument, noKey, value, valueWithin_of_isListMark isMark, Reading.map, Reading.orElse]

/-- An argument is read in the same way when the script goes on. -/
theorem argument_newline {a : Argument} (found : argument s = .found a rest)
    (ends : EndsItem rest) (b : List Char) :
    argument (s ++ '\n' :: b) = .found a (rest ++ '\n' :: b) := by
  rcases argument_cases found with ⟨name, behind, v, named, read, rfl⟩ | ⟨-, v, read, rfl⟩
  · have longerKey := key_newline named (valueWithin_begins read) b
    simp only [argument, longerKey, value_newline read ends, Reading.map, Reading.orElse]
  · have longer := value_newline read ends b
    have noKey := key_of_endsItem longer (ends.newline b)
    simp only [argument, noKey, longer, Reading.map, Reading.orElse]

theorem extends_argument (b : List Char) : Extends argument argument b where
  found found ends := argument_newline found ends b
  begins := argument_begins
  absent := argument_of_isListMark

/-- A place behind a name where three quotes open a single argument that nothing closes. -/
def HasUnclosedArgument (quote : Char) (s : List Char) : Prop :=
  IsUnclosed quote (s.dropWhile fun c => c = ' ' || c = '\t')

/-- The arguments behind a name are read in the same way when the script goes on, except where
three quotes open a single one that nothing closes. -/
theorem arguments_newline {given : List Argument} (read : arguments s = .ok (given, rest))
    (b : List Char) (closed : ∀ quote, isQuote quote → HasUnclosedArgument quote s →
      Text.cutAt (tripled quote) b = none) :
    arguments (s ++ '\n' :: b) = .ok (given, rest ++ '\n' :: b) := by
  unfold arguments
  rw [dropWhile_newline (by decide)]
  rcases arguments_cases read with
    ⟨inner, opened, inside⟩ | ⟨notOpened, ⟨text, found, rfl⟩ | ⟨absent, rfl, same⟩⟩
  · rw [opened]
    have longer := bracketed_newline (extends_argument b) inside (.inl rfl)
    simp only [List.cons_append, longer]
  · have longer := quoted_newline found b closed
    obtain ⟨quote, body, same, quotes⟩ := isQuote_of_quoted found
    rw [same] at longer ⊢
    split
    · rename_i inner opened
      cases opened
      exact absurd quotes (by decide)
    · simp only [longer]
  · subst same
    have nothing := quoted_newline_of_absent absent b
    split
    · rename_i inner opened
      exact absurd (head?_of_newline opened (by decide)) notOpened
    · simp only [nothing]

end Script

end Migration
