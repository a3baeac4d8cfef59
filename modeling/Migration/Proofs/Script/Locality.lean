import Migration.Proofs.Failure
import Migration.Proofs.Script.Line
import Migration.Proofs.Script.Longer
import Migration.Proofs.Script.Parse

/-!
# Two scripts one after the other

Reading is local up to one thing.  Three quotes open a long text, and where nothing closes it they
are an empty short text and an opening quote.  If more of the script follows it may close that
text, and then the script in front is read in another way.  With no such place the two scripts
written one below the other are read as the elements of both.
-/

namespace Migration

namespace Script

/-! ## Places left open -/

mutual
/-- Reading an element meets three quotes that open a text which nothing closes. -/
inductive ElementLeavesOpen (quote : Char) (total : Nat) : Nat → List Char → Prop where
  | argument {fuel : Nat} {name : String} {s afterName : List Char}
      (named : name? s = some (name, afterName)) (unclosed : HasUnclosedArgument quote afterName) :
      ElementLeavesOpen quote total (fuel + 1) s
  | block {fuel : Nat} {name : String} {given : List Argument}
      {s afterName behind inner : List Char}
      (named : name? s = some (name, afterName))
      (called : arguments afterName = .ok (given, behind))
      (opened : skipTrivia behind = '{' :: inner)
      (inside : BlockLeavesOpen quote total fuel inner) :
      ElementLeavesOpen quote total (fuel + 1) s

/-- Reading the items of a block meets three quotes that open a text which nothing closes. -/
inductive BlockLeavesOpen (quote : Char) (total : Nat) : Nat → List Char → Prop where
  | text {fuel : Nat} {s : List Char} (unclosed : IsUnclosed quote (skipTrivia s)) :
      BlockLeavesOpen quote total (fuel + 1) s
  | behindText {fuel : Nat} {text : String} {s behind : List Char}
      (found : quoted (skipTrivia s) = .found text behind)
      (others : BlockLeavesOpen quote total fuel behind) :
      BlockLeavesOpen quote total (fuel + 1) s
  | element {fuel : Nat} {s : List Char} (absent : quoted (skipTrivia s) = .absent)
      (inside : ElementLeavesOpen quote total fuel (skipTrivia s)) :
      BlockLeavesOpen quote total (fuel + 1) s
  | behindElement {fuel : Nat} {e : Element} {s behind : List Char}
      (absent : quoted (skipTrivia s) = .absent)
      (found : Script.element total fuel (skipTrivia s) = .ok (e, behind))
      (others : BlockLeavesOpen quote total fuel behind) :
      BlockLeavesOpen quote total (fuel + 1) s
end

/-- Reading elements up to the end meets three quotes that open a text which nothing closes. -/
inductive ElementsLeaveOpen (quote : Char) (total : Nat) : Nat → List Char → Prop where
  | here {fuel : Nat} {s : List Char}
      (inside : ElementLeavesOpen quote total ((skipTrivia s).length + 2) (skipTrivia s)) :
      ElementsLeaveOpen quote total (fuel + 1) s
  | behind {fuel : Nat} {e : Element} {s behind : List Char}
      (found : element total ((skipTrivia s).length + 2) (skipTrivia s) = .ok (e, behind))
      (others : ElementsLeaveOpen quote total fuel behind) :
      ElementsLeaveOpen quote total (fuel + 1) s

/-- Whether reading a script meets three quotes of this kind that open a text which nothing
closes. -/
def LeavesOpen (quote : Char) (source : String) : Prop :=
  ElementsLeaveOpen quote (lineFeeds source.toList) (source.toList.length + 1) source.toList

/-! Where quotes are left open they stand three times in a row. -/

theorem IsUnclosed.tripled_infix {quote : Char} {s : List Char} (isUnclosed : IsUnclosed quote s) :
    tripled quote <:+: s := by
  obtain ⟨inner, rfl, -⟩ := isUnclosed
  exact (List.prefix_append _ inner).isInfix

theorem HasUnclosedArgument.tripled_infix {quote : Char} {s : List Char}
    (unclosed : HasUnclosedArgument quote s) : tripled quote <:+: s :=
  (IsUnclosed.tripled_infix unclosed).trans (List.dropWhile_suffix _).isInfix

mutual
theorem ElementLeavesOpen.tripled_infix {quote : Char} {total : Nat} : {fuel : Nat} →
    {s : List Char} → ElementLeavesOpen quote total fuel s → tripled quote <:+: s
  | _, _, .argument named unclosed =>
      unclosed.tripled_infix.trans (name?_suffix named).isInfix
  | _, _, .block named called opened inside => by
      have inner := (List.suffix_cons '{' _).trans (opened ▸ skipTrivia_suffix _)
      exact inside.tripled_infix.trans
        (inner.trans ((arguments_suffix called).trans (name?_suffix named))).isInfix

theorem BlockLeavesOpen.tripled_infix {quote : Char} {total : Nat} : {fuel : Nat} →
    {s : List Char} → BlockLeavesOpen quote total fuel s → tripled quote <:+: s
  | _, _, .text unclosed => unclosed.tripled_infix.trans (skipTrivia_suffix _).isInfix
  | _, _, .behindText found others =>
      others.tripled_infix.trans ((quoted_suffix found).trans (skipTrivia_suffix _)).isInfix
  | _, _, .element _ inside => inside.tripled_infix.trans (skipTrivia_suffix _).isInfix
  | _, _, .behindElement _ found others =>
      others.tripled_infix.trans ((element_suffix _ found).trans (skipTrivia_suffix _)).isInfix
end

theorem ElementsLeaveOpen.tripled_infix {quote : Char} {total fuel : Nat} {s : List Char}
    (opens : ElementsLeaveOpen quote total fuel s) : tripled quote <:+: s := by
  induction opens with
  | here inside => exact inside.tripled_infix.trans (skipTrivia_suffix _).isInfix
  | behind found _ ih =>
      exact ih.trans ((element_suffix _ found).trans (skipTrivia_suffix _)).isInfix

theorem LeavesOpen.tripled_infix {quote : Char} {source : String}
    (opens : LeavesOpen quote source) : tripled quote <:+: source.toList :=
  ElementsLeaveOpen.tripled_infix opens

/-- Whether no text left open is closed by what follows: `leavesOpen` says which quotes leave one
open. -/
def IsSettled (leavesOpen : Char → Prop) (b : List Char) : Prop :=
  ∀ quote, isQuote quote → leavesOpen quote → Text.cutAt (tripled quote) b = none

variable {s b rest : List Char}

theorem IsSettled.mono {leavesOpen more : Char → Prop} (isSettled : IsSettled more b)
    (weaker : ∀ quote, leavesOpen quote → more quote) : IsSettled leavesOpen b :=
  fun quote quotes opens => isSettled quote quotes (weaker quote opens)

/-- A text left open that is closed by what follows. -/
theorem exists_of_not_isSettled {leavesOpen : Char → Prop} (notSettled : ¬ IsSettled leavesOpen b) :
    ∃ quote before rest, isQuote quote ∧ leavesOpen quote ∧
      Text.cutAt (tripled quote) b = some (before, rest) := by
  simp only [IsSettled, Classical.not_forall] at notSettled
  obtain ⟨quote, quotes, opens, cut⟩ := notSettled
  cases found : Text.cutAt (tripled quote) b with
  | none => exact absurd found cut
  | some pair => exact ⟨quote, pair.1, pair.2, quotes, opens, found⟩

/-! ## Texts and arguments -/

theorem quoted_of_isSettled {text : String} (found : quoted s = .found text rest)
    (isSettled : IsSettled (IsUnclosed · s) b) :
    quoted (s ++ '\n' :: b) = .found text (rest ++ '\n' :: b) :=
  quoted_newline found b isSettled

/-- A text left open that what follows closes is another one in the longer script. -/
theorem quoted_of_not_isSettled {text : String} (found : quoted s = .found text rest)
    (notSettled : ¬ IsSettled (IsUnclosed · s) b) :
    ∃ longer behind, quoted (s ++ '\n' :: b) = .found longer behind ∧ longer ≠ text := by
  obtain ⟨quote, before, behind, quotes, isUnclosed, cut⟩ := exists_of_not_isSettled notSettled
  obtain ⟨longer, read, notEmpty⟩ := quoted_newline_of_isUnclosed quotes isUnclosed cut
  obtain ⟨rfl, -⟩ := quoted_of_isUnclosed quotes isUnclosed found
  exact ⟨longer, behind, read, notEmpty⟩

theorem arguments_of_isSettled {given : List Argument} (read : arguments s = .ok (given, rest))
    (isSettled : IsSettled (HasUnclosedArgument · s) b) :
    arguments (s ++ '\n' :: b) = .ok (given, rest ++ '\n' :: b) :=
  arguments_newline read b isSettled

theorem arguments_of_not_isSettled {given : List Argument} (read : arguments s = .ok (given, rest))
    (notSettled : ¬ IsSettled (HasUnclosedArgument · s) b) :
    ∃ others behind, arguments (s ++ '\n' :: b) = .ok (others, behind) ∧ others ≠ given := by
  obtain ⟨quote, before, behind, quotes, isUnclosed, cut⟩ := exists_of_not_isSettled notSettled
  rcases arguments_cases read with
    ⟨inner, opened, -⟩ | ⟨notOpened, ⟨text, found, rfl⟩ | ⟨absent, -, -⟩⟩
  · obtain ⟨inner', same, -⟩ := isUnclosed
    rw [opened] at same
    cases same
    exact absurd quotes (by decide)
  · obtain ⟨longer, behind, readLonger, different⟩ := quoted_of_not_isSettled found notSettled
    refine ⟨[⟨none, .str longer⟩], behind, ?_, by simpa using different⟩
    unfold arguments
    rw [dropWhile_newline (by decide)]
    split
    · rename_i inner opened
      exact absurd (head?_of_newline opened (by decide)) notOpened
    · simp only [readLonger]
  · obtain ⟨inner, same, -⟩ := isUnclosed
    rw [same, tripled, List.cons_append, quoted_cons quotes] at absent
    split at absent <;> cases absent

/-! ## Elements and blocks -/

/-- A script in front of which no block begins goes on behind an element without one. -/
theorem hasNoBlock_newline (hasNoBlock : HasNoBlock b) (noBrace : HasNoBlock s)
    (noStroke : (skipTrivia s).head? ≠ some '/') : HasNoBlock (s ++ '\n' :: b) := by
  unfold HasNoBlock at *
  cases left : skipTrivia s with
  | nil => rwa [skipTrivia_newline_nil left]
  | cons c tail =>
      rw [left] at noBrace noStroke
      rw [skipTrivia_newline_cons left (by simpa using noStroke)]
      exact noBrace

/-- A block that is read goes on with its closing brace, a text or an element. -/
theorem begins_of_block {total fuel : Nat} {items : List (Item Element)}
    (read : block total fuel s = .ok (items, rest)) :
    ∃ c tail, skipTrivia s = c :: tail ∧ (c = '}' ∨ isQuote c ∨ isNameStart c) := by
  obtain ⟨less, -, ⟨closed, -⟩ | ⟨text, behind, more, found, -, -⟩ |
    ⟨e, behind, more, -, found, -, -⟩⟩ := block_cases read
  · exact ⟨'}', rest, closed, .inl rfl⟩
  · obtain ⟨quote, body, same, quotes⟩ := isQuote_of_quoted found
    exact ⟨quote, body, same, .inr (.inl quotes)⟩
  · obtain ⟨less, name, afterName, given, left, -, named, -, -⟩ := element_cases found
    obtain ⟨c, tail, same, start⟩ := name?_begins named
    exact ⟨c, tail, same, .inr (.inr start)⟩

theorem head?_ne_stroke_of_block {total fuel : Nat} {items : List (Item Element)}
    (read : block total fuel s = .ok (items, rest)) : (skipTrivia s).head? ≠ some '/' := by
  obtain ⟨c, tail, same, rfl | quotes | start⟩ := begins_of_block read
  · simp [same]
  · simpa [same] using ne_of_class quotes (show isQuote '/' = false by decide)
  · simpa [same] using ne_of_class start (show isNameStart '/' = false by decide)

theorem skipTrivia_newline_of_block {total fuel : Nat} {items : List (Item Element)}
    (read : block total fuel s = .ok (items, rest)) (b : List Char) :
    skipTrivia (s ++ '\n' :: b) = skipTrivia s ++ '\n' :: b := by
  have noStroke := head?_ne_stroke_of_block read
  obtain ⟨c, tail, same, -⟩ := begins_of_block read
  rw [same] at noStroke ⊢
  exact skipTrivia_newline_cons same (by simpa using noStroke) b

/-- Reading a block where a text stands. -/
theorem block_of_quoted {total fuel : Nat} {text : String}
    (found : quoted (skipTrivia s) = .found text rest) : block total (fuel + 1) s =
      (block total fuel rest).map fun (items, rest) => (.text text :: items, rest) := by
  obtain ⟨quote, body, same, quotes⟩ := isQuote_of_quoted found
  rw [Script.block]
  split
  · rename_i nothing
    rw [nothing] at same
    cases same
  · rename_i closed
    rw [closed] at same
    cases same
    exact absurd quotes (by decide)
  · simp only [found]
    cases block total fuel rest <;> rfl

/-- Reading a block where an element stands. -/
theorem block_of_isNameStart {total fuel : Nat} {c : Char} {tail : List Char}
    (begins : skipTrivia s = c :: tail) (start : isNameStart c) : block total (fuel + 1) s =
      Script.element total fuel (skipTrivia s) >>= fun (e, rest) =>
        (block total fuel rest).map fun (items, rest) => (.element e :: items, rest) := by
  have absent : quoted (c :: tail) = .absent :=
    quoted_of_head (not_isQuote_of_class start (by decide)) tail
  rw [Script.block, begins]
  split
  · rename_i nothing
    cases nothing
  · rename_i closed
    cases closed
    exact absurd start (by decide)
  · simp only [absent]
    cases Script.element total fuel (c :: tail) with
    | error fault => rfl
    | ok read =>
        obtain ⟨e, behind⟩ := read
        dsimp only [bind, Except.bind]
        cases block total fuel behind <;> rfl

theorem isNameStart_of_element {total fuel : Nat} {e : Element}
    (read : element total fuel s = .ok (e, rest)) :
    ∃ c tail, s = c :: tail ∧ isNameStart c := by
  obtain ⟨less, name, afterName, given, behind, -, named, -, -⟩ := element_cases read
  exact name?_begins named

theorem lineOf_newline (total : Nat) (s b : List Char) :
    lineOf (total + lineFeeds ('\n' :: b)) (s ++ '\n' :: b) = lineOf total s := by
  rw [lineOf, lineOf, lineFeeds_append, Nat.add_sub_add_right]

mutual
/-- An element is read in the same way when the script goes on, if no text that it leaves open is
closed there. -/
theorem element_newline {total : Nat} (hasNoBlock : HasNoBlock b) : (fuel : Nat) →
    {e : Element} → {s rest : List Char} → element total fuel s = .ok (e, rest) →
    (skipTrivia rest).head? ≠ some '/' → IsSettled (ElementLeavesOpen · total fuel s) b →
    {more : Nat} → fuel ≤ more →
    element (total + lineFeeds ('\n' :: b)) more (s ++ '\n' :: b) = .ok (e, rest ++ '\n' :: b)
  | fuel, e, s, rest, read, noStroke, isSettled, more, enough => by
      obtain ⟨less, name, afterName, given, behind, rfl, named, called, ending⟩ :=
        element_cases read
      obtain ⟨more, rfl⟩ : ∃ fewer, more = fewer + 1 := ⟨more - 1, by omega⟩
      have calledLonger := arguments_of_isSettled called
        (isSettled.mono fun quote => ElementLeavesOpen.argument named)
      rw [Script.element, name?_newline named]
      simp only [calledLonger, lineOf_newline]
      rcases ending with ⟨inner, items, opened, inside, rfl⟩ | ⟨notOpened, rfl, rfl⟩
      · have insideLonger := block_newline hasNoBlock less inside
          (isSettled.mono fun quote => ElementLeavesOpen.block named called opened)
          (Nat.le_of_succ_le_succ enough)
        rw [skipTrivia_newline_cons opened (by decide)]
        simp only [insideLonger]
      · have notOpenedLonger := hasNoBlock_newline hasNoBlock notOpened noStroke
        split
        · rename_i inner opened
          exact absurd (by rw [opened]; rfl) notOpenedLonger
        · rfl

/-- The items of a block are read in the same way when the script goes on, if no text that they
leave open is closed there. -/
theorem block_newline {total : Nat} (hasNoBlock : HasNoBlock b) : (fuel : Nat) →
    {items : List (Item Element)} → {s rest : List Char} →
    block total fuel s = .ok (items, rest) → IsSettled (BlockLeavesOpen · total fuel s) b →
    {more : Nat} → fuel ≤ more →
    block (total + lineFeeds ('\n' :: b)) more (s ++ '\n' :: b) = .ok (items, rest ++ '\n' :: b)
  | fuel, items, s, rest, read, isSettled, more, enough => by
      obtain ⟨less, rfl, ending⟩ := block_cases read
      obtain ⟨more, rfl⟩ : ∃ fewer, more = fewer + 1 := ⟨more - 1, by omega⟩
      have left := Nat.le_of_succ_le_succ enough
      have skipped := skipTrivia_newline_of_block read b
      rcases ending with ⟨closed, rfl⟩ | ⟨text, behind, others, found, readOthers, rfl⟩ |
        ⟨e, behind, others, absent, found, readOthers, rfl⟩
      · rw [Script.block, skipTrivia_newline_cons closed (by decide)]
        rfl
      · have foundLonger := quoted_of_isSettled found
          (isSettled.mono fun quote => BlockLeavesOpen.text)
        rw [← skipped] at foundLonger
        have othersLonger := block_newline hasNoBlock less readOthers
          (isSettled.mono fun quote => BlockLeavesOpen.behindText found) left
        rw [block_of_quoted foundLonger, othersLonger]
        rfl
      · have foundLonger := element_newline hasNoBlock less found
          (head?_ne_stroke_of_block readOthers)
          (isSettled.mono fun quote => BlockLeavesOpen.element absent) left
        have othersLonger := block_newline hasNoBlock less readOthers
          (isSettled.mono fun quote => BlockLeavesOpen.behindElement absent found) left
        obtain ⟨c, tail, begins, start⟩ := isNameStart_of_element found
        have beginsLonger : skipTrivia (s ++ '\n' :: b) = c :: (tail ++ '\n' :: b) := by
          rw [skipped, begins, List.cons_append]
        rw [block_of_isNameStart beginsLonger start, skipped, foundLonger]
        dsimp only [bind, Except.bind]
        rw [othersLonger]
        rfl
end

/-! ## Texts closed by what follows -/

theorem ElementLeavesOpen.cases {quote : Char} {total fuel : Nat} {name : String}
    {given : List Argument} {afterName behind : List Char}
    (opens : ElementLeavesOpen quote total (fuel + 1) s) (named : name? s = some (name, afterName))
    (called : arguments afterName = .ok (given, behind)) :
    HasUnclosedArgument quote afterName ∨
      ∃ inner, skipTrivia behind = '{' :: inner ∧ BlockLeavesOpen quote total fuel inner := by
  cases opens with
  | argument named' unclosed =>
      rw [named] at named'
      cases named'
      exact .inl unclosed
  | block named' called' opened inside =>
      rw [named] at named'
      cases named'
      rw [called] at called'
      cases called'
      exact .inr ⟨_, opened, inside⟩

theorem ElementLeavesOpen.begins {quote : Char} {total fuel : Nat}
    (opens : ElementLeavesOpen quote total fuel s) : ∃ c tail, s = c :: tail ∧ isNameStart c := by
  cases opens with
  | argument named _ => exact name?_begins named
  | block named _ _ _ => exact name?_begins named

theorem quoted_ne_absent {quote : Char} (quotes : isQuote quote) (unclosed : IsUnclosed quote s) :
    quoted s ≠ .absent := by
  obtain ⟨inner, rfl, -⟩ := unclosed
  rw [tripled, List.cons_append, quoted_cons quotes]
  intro absent
  split at absent <;> cases absent

/-- A block that leaves a text open does not end at once. -/
theorem BlockLeavesOpen.not_closed {quote : Char} (quotes : isQuote quote) {total fuel : Nat}
    (opens : BlockLeavesOpen quote total fuel s) : (skipTrivia s).head? ≠ some '}' := by
  cases opens with
  | text unclosed =>
      obtain ⟨inner, same, -⟩ := unclosed
      simpa [same, tripled] using ne_of_class quotes (show isQuote '}' = false by decide)
  | behindText found others =>
      obtain ⟨c, body, same, quotes⟩ := isQuote_of_quoted found
      simpa [same] using ne_of_class quotes (show isQuote '}' = false by decide)
  | element absent inside =>
      obtain ⟨c, tail, same, start⟩ := inside.begins
      simpa [same] using ne_of_class start (show isNameStart '}' = false by decide)
  | behindElement absent found others =>
      obtain ⟨c, tail, same, start⟩ := isNameStart_of_element found
      simpa [same] using ne_of_class start (show isNameStart '}' = false by decide)

theorem BlockLeavesOpen.cases_of_quoted {quote : Char} {total fuel : Nat} {text : String}
    {behind : List Char} (opens : BlockLeavesOpen quote total (fuel + 1) s)
    (found : quoted (skipTrivia s) = .found text behind) :
    IsUnclosed quote (skipTrivia s) ∨ BlockLeavesOpen quote total fuel behind := by
  cases opens with
  | text unclosed => exact .inl unclosed
  | behindText found' others =>
      rw [found] at found'
      cases found'
      exact .inr others
  | element absent inside =>
      rw [found] at absent
      cases absent
  | behindElement absent found' others =>
      rw [found] at absent
      cases absent

theorem BlockLeavesOpen.cases_of_element {quote : Char} (quotes : isQuote quote)
    {total fuel : Nat} {e : Element} {behind : List Char}
    (opens : BlockLeavesOpen quote total (fuel + 1) s) (absent : quoted (skipTrivia s) = .absent)
    (found : Script.element total fuel (skipTrivia s) = .ok (e, behind)) :
    ElementLeavesOpen quote total fuel (skipTrivia s) ∨
      BlockLeavesOpen quote total fuel behind := by
  cases opens with
  | text unclosed => exact absurd absent (quoted_ne_absent quotes unclosed)
  | behindText found' others =>
      rw [absent] at found'
      cases found'
  | element _ inside => exact .inl inside
  | behindElement _ found' others =>
      rw [found] at found'
      cases found'
      exact .inr others

mutual
/-- An element that leaves a text open is another one when what follows closes that text. -/
theorem element_newline_ne {total : Nat} (hasNoBlock : HasNoBlock b) : (fuel : Nat) →
    {e : Element} → {s rest : List Char} → element total fuel s = .ok (e, rest) →
    ¬ IsSettled (ElementLeavesOpen · total fuel s) b → {more : Nat} → fuel ≤ more →
    (rest' : List Char) →
    element (total + lineFeeds ('\n' :: b)) more (s ++ '\n' :: b) ≠ .ok (e, rest')
  | fuel, e, s, rest, read, notSettled, more, enough, rest' => by
      obtain ⟨less, name, afterName, given, behind, rfl, named, called, ending⟩ :=
        element_cases read
      intro readLonger
      obtain ⟨more, name', afterName', given', behind', rfl, named', called', ending'⟩ :=
        element_cases readLonger
      rw [name?_newline named] at named'
      cases named'
      by_cases argumentSettled : IsSettled (HasUnclosedArgument · afterName) b
      · rw [arguments_of_isSettled called argumentSettled] at called'
        cases called'
        rcases ending with ⟨inner, items, opened, inside, rfl⟩ | ⟨notOpened, -, -⟩
        · have insideOpen : ¬ IsSettled (BlockLeavesOpen · total less inner) b := by
            refine fun insideSettled => notSettled fun quote quotes opens => ?_
            rcases opens.cases named called with unclosed | ⟨inner', opened', leavesOpen⟩
            · exact argumentSettled quote quotes unclosed
            · rw [opened] at opened'
              cases opened'
              exact insideSettled quote quotes leavesOpen
          rw [skipTrivia_newline_cons opened (by decide)] at ending'
          rcases ending' with ⟨inner', items', same, insideLonger, same'⟩ | ⟨notOpened, -⟩
          · cases same
            obtain rfl : items = items' := by simpa using congrArg Element.block same'
            exact block_newline_ne hasNoBlock less inside insideOpen
              (Nat.le_of_succ_le_succ enough) _ insideLonger
          · exact notOpened rfl
        · refine notSettled fun quote quotes opens => ?_
          rcases opens.cases named called with unclosed | ⟨inner, opened, -⟩
          · exact argumentSettled quote quotes unclosed
          · exact absurd (by rw [opened]; rfl) notOpened
      · obtain ⟨others, behind'', calledLonger, different⟩ :=
          arguments_of_not_isSettled called argumentSettled
        rw [calledLonger] at called'
        cases called'
        have here : e.arguments = given := by
          rcases ending with ⟨-, -, -, -, rfl⟩ | ⟨-, -, rfl⟩ <;> rfl
        have there : e.arguments = given' := by
          rcases ending' with ⟨_, _, -, -, same⟩ | ⟨-, -, same⟩ <;> rw [same]
        exact different (there.symm.trans here)

/-- A block that leaves a text open has other items when what follows closes that text. -/
theorem block_newline_ne {total : Nat} (hasNoBlock : HasNoBlock b) : (fuel : Nat) →
    {items : List (Item Element)} → {s rest : List Char} →
    block total fuel s = .ok (items, rest) → ¬ IsSettled (BlockLeavesOpen · total fuel s) b →
    {more : Nat} → fuel ≤ more →
    (rest' : List Char) →
    block (total + lineFeeds ('\n' :: b)) more (s ++ '\n' :: b) ≠ .ok (items, rest')
  | fuel, items, s, rest, read, notSettled, more, enough, rest' => by
      have skipped := skipTrivia_newline_of_block read b
      intro readLonger
      obtain ⟨less, rfl, ending⟩ := block_cases read
      obtain ⟨more, rfl⟩ : ∃ fewer, more = fewer + 1 := ⟨more - 1, by omega⟩
      have left := Nat.le_of_succ_le_succ enough
      rcases ending with ⟨closed, rfl⟩ | ⟨text, behind, others, found, readOthers, rfl⟩ |
        ⟨e, behind, others, absent, found, readOthers, rfl⟩
      · refine notSettled fun quote quotes opens => ?_
        exact absurd (by rw [closed]; rfl) (opens.not_closed quotes)
      · by_cases textSettled : IsSettled (IsUnclosed · (skipTrivia s)) b
        · have foundLonger := quoted_of_isSettled found textSettled
          have othersOpen : ¬ IsSettled (BlockLeavesOpen · total less behind) b :=
            fun othersSettled => notSettled fun quote quotes opens =>
              (opens.cases_of_quoted found).elim (textSettled quote quotes)
                (othersSettled quote quotes)
          rw [← skipped] at foundLonger
          rw [block_of_quoted foundLonger] at readLonger
          obtain ⟨⟨items, rest⟩, othersLonger, same⟩ := map_eq_ok.mp readLonger
          cases same
          exact block_newline_ne hasNoBlock less readOthers othersOpen left _ othersLonger
        · obtain ⟨longer, behind, foundLonger, different⟩ :=
            quoted_of_not_isSettled found textSettled
          rw [← skipped] at foundLonger
          rw [block_of_quoted foundLonger] at readLonger
          obtain ⟨⟨items, rest⟩, -, same⟩ := map_eq_ok.mp readLonger
          cases same
          exact different rfl
      · obtain ⟨c, tail, begins, start⟩ := isNameStart_of_element found
        have beginsLonger : skipTrivia (s ++ '\n' :: b) = c :: (tail ++ '\n' :: b) := by
          rw [skipped, begins, List.cons_append]
        rw [block_of_isNameStart beginsLonger start, skipped] at readLonger
        obtain ⟨⟨longer, behind'⟩, foundLonger, readLonger⟩ := bind_eq_ok.mp readLonger
        obtain ⟨⟨items, rest⟩, othersLonger, same⟩ := map_eq_ok.mp readLonger
        cases same
        by_cases elementSettled : IsSettled (ElementLeavesOpen · total less (skipTrivia s)) b
        · have othersOpen : ¬ IsSettled (BlockLeavesOpen · total less behind) b :=
            fun othersSettled => notSettled fun quote quotes opens =>
              (opens.cases_of_element quotes absent found).elim (elementSettled quote quotes)
                (othersSettled quote quotes)
          have sameElement := element_newline hasNoBlock less found
            (head?_ne_stroke_of_block readOthers) elementSettled left
          rw [foundLonger] at sameElement
          cases sameElement
          exact block_newline_ne hasNoBlock less readOthers othersOpen left _ othersLonger
        · exact element_newline_ne hasNoBlock less found elementSettled left _ foundLonger
end

/-! ## Whole scripts -/

theorem topLevel_mono {total fuel more : Nat} (enough : fuel ≤ more) {elements : List Element}
    (read : topLevel total fuel s = .ok elements) : topLevel total more s = .ok elements := by
  induction fuel generalizing s elements more with
  | zero => cases read
  | succ fuel ih =>
      obtain ⟨more, rfl⟩ : ∃ fewer, more = fewer + 1 := ⟨more - 1, by omega⟩
      rw [topLevel] at read ⊢
      split at read
      · exact read
      · split at read
        · cases read
        · rename_i e behind found
          obtain ⟨others, readOthers, same⟩ := map_eq_ok.mp read
          simp only [ih (Nat.le_of_succ_le_succ enough) readOthers]
          exact congrArg Except.ok same

/-- How elements are read up to the end: nothing is left but trivia, or an element stands in
front. -/
theorem topLevel_cases {total fuel : Nat} {elements : List Element}
    (read : topLevel total fuel s = .ok elements) :
    ∃ less, fuel = less + 1 ∧ ((skipTrivia s = [] ∧ elements = []) ∨
      ∃ e behind others,
        element total ((skipTrivia s).length + 2) (skipTrivia s) = .ok (e, behind) ∧
        topLevel total less behind = .ok others ∧ elements = e :: others) := by
  cases fuel with
  | zero => cases read
  | succ fuel =>
      refine ⟨fuel, rfl, ?_⟩
      rw [topLevel] at read
      split at read
      · rename_i nothing
        cases read
        exact .inl ⟨nothing, rfl⟩
      · split at read
        · cases read
        · rename_i e behind found
          obtain ⟨others, readOthers, same⟩ := map_eq_ok.mp read
          exact .inr ⟨e, behind, others, found, readOthers, same.symm⟩

/-- Where a script ends or an element begins. -/
theorem begins_of_topLevel {total fuel : Nat} {elements : List Element}
    (read : topLevel total fuel s = .ok elements) :
    skipTrivia s = [] ∨ ∃ c tail, skipTrivia s = c :: tail ∧ isNameStart c := by
  obtain ⟨less, -, ⟨nothing, -⟩ | ⟨e, behind, others, found, -, -⟩⟩ := topLevel_cases read
  · exact .inl nothing
  · exact .inr (isNameStart_of_element found)

theorem hasNoBlock_of_topLevel {total fuel : Nat} {elements : List Element}
    (read : topLevel total fuel s = .ok elements) : HasNoBlock s := by
  unfold HasNoBlock
  rcases begins_of_topLevel read with nothing | ⟨c, tail, same, start⟩
  · simp [nothing]
  · simpa [same] using ne_of_class start (show isNameStart '{' = false by decide)

theorem head?_ne_stroke_of_topLevel {total fuel : Nat} {elements : List Element}
    (read : topLevel total fuel s = .ok elements) : (skipTrivia s).head? ≠ some '/' := by
  rcases begins_of_topLevel read with nothing | ⟨c, tail, same, start⟩
  · simp [nothing]
  · simpa [same] using ne_of_class start (show isNameStart '/' = false by decide)

theorem topLevel_of_skipTrivia {t : List Char} (same : skipTrivia s = skipTrivia t)
    (total fuel : Nat) : topLevel total (fuel + 1) s = topLevel total (fuel + 1) t := by
  rw [topLevel, topLevel, same]

/-- Reading a longer script where an element stands. -/
theorem topLevel_newline_of_isNameStart {total fuel : Nat} {c : Char} {tail : List Char}
    (begins : skipTrivia s = c :: tail) (start : isNameStart c) (b : List Char) :
    topLevel total (fuel + 1) (s ++ '\n' :: b) =
      element total ((skipTrivia s ++ '\n' :: b).length + 2) (skipTrivia s ++ '\n' :: b) >>=
        fun (e, rest) => (topLevel total fuel rest).map (e :: ·) := by
  rw [topLevel, skipTrivia_newline_cons begins (ne_of_class start (by decide)), begins,
    ← List.cons_append]
  split
  · rename_i nothing
    cases nothing
  · cases element total ((c :: tail ++ '\n' :: b).length + 2) (c :: tail ++ '\n' :: b) <;> rfl

theorem ElementsLeaveOpen.cases {quote : Char} {total fuel : Nat} {e : Element}
    {behind : List Char} (opens : ElementsLeaveOpen quote total (fuel + 1) s)
    (found : element total ((skipTrivia s).length + 2) (skipTrivia s) = .ok (e, behind)) :
    ElementLeavesOpen quote total ((skipTrivia s).length + 2) (skipTrivia s) ∨
      ElementsLeaveOpen quote total fuel behind := by
  cases opens with
  | here inside => exact .inl inside
  | behind found' others =>
      rw [found] at found'
      cases found'
      exact .inr others

theorem ElementsLeaveOpen.skipTrivia_ne_nil {quote : Char} {total fuel : Nat}
    (opens : ElementsLeaveOpen quote total fuel s) : skipTrivia s ≠ [] := by
  cases opens with
  | here inside =>
      obtain ⟨c, tail, same, -⟩ := inside.begins
      simp [same]
  | behind found _ =>
      obtain ⟨c, tail, same, -⟩ := isNameStart_of_element found
      simp [same]

/-- The elements in front are read in the same way, if no text that they leave open is closed
behind them, and then those that follow are read. -/
theorem topLevel_newline {total fuel : Nat} (hasNoBlock : HasNoBlock b) {elements : List Element}
    (read : topLevel total fuel s = .ok elements)
    (isSettled : IsSettled (ElementsLeaveOpen · total fuel s) b) (extra : Nat) :
    ∃ left, extra < left ∧
      topLevel (total + lineFeeds ('\n' :: b)) (fuel + extra) (s ++ '\n' :: b) =
        (topLevel (total + lineFeeds ('\n' :: b)) left b).map (elements ++ ·) := by
  induction fuel generalizing s elements with
  | zero => cases read
  | succ fuel ih =>
      obtain ⟨less, same, ⟨nothing, rfl⟩ | ⟨e, behind, others, found, readOthers, rfl⟩⟩ :=
        topLevel_cases read
      · refine ⟨fuel + extra + 1, by omega, ?_⟩
        rw [Nat.add_right_comm, topLevel_of_skipTrivia (skipTrivia_newline_nil nothing b)]
        cases topLevel (total + lineFeeds ('\n' :: b)) (fuel + extra + 1) b <;> rfl
      · cases same
        obtain ⟨left, more, othersLonger⟩ := ih readOthers
          (isSettled.mono fun quote => ElementsLeaveOpen.behind found)
        have foundLonger := element_newline hasNoBlock _ found
          (head?_ne_stroke_of_topLevel readOthers)
          (isSettled.mono fun quote => ElementsLeaveOpen.here)
          (show _ ≤ (skipTrivia s ++ '\n' :: b).length + 2 by simp)
        obtain ⟨c, tail, begins, start⟩ := isNameStart_of_element found
        refine ⟨left, more, ?_⟩
        rw [Nat.add_right_comm, topLevel_newline_of_isNameStart begins start, foundLonger]
        dsimp only [bind, Except.bind]
        rw [othersLonger]
        cases topLevel (total + lineFeeds ('\n' :: b)) left b <;> rfl

/-- Elements that leave a text open are other ones when what follows closes that text. -/
theorem topLevel_newline_ne {total fuel more : Nat} (hasNoBlock : HasNoBlock b)
    {elements longer : List Element} (read : topLevel total fuel s = .ok elements)
    (notSettled : ¬ IsSettled (ElementsLeaveOpen · total fuel s) b)
    (readLonger : topLevel (total + lineFeeds ('\n' :: b)) more (s ++ '\n' :: b) = .ok longer) :
    ¬ elements <+: longer := by
  induction fuel generalizing s elements longer more with
  | zero => cases read
  | succ fuel ih =>
      intro front
      obtain ⟨less, same, ⟨nothing, -⟩ | ⟨e, behind, others, found, readOthers, rfl⟩⟩ :=
        topLevel_cases read
      · exact notSettled fun quote quotes opens => absurd nothing opens.skipTrivia_ne_nil
      · cases same
        cases more with
        | zero => cases readLonger
        | succ more =>
            obtain ⟨c, tail, begins, start⟩ := isNameStart_of_element found
            rw [topLevel_newline_of_isNameStart begins start] at readLonger
            obtain ⟨⟨e', behind'⟩, foundLonger, readLonger⟩ := bind_eq_ok.mp readLonger
            obtain ⟨others', othersLonger, rfl⟩ := map_eq_ok.mp readLonger
            obtain ⟨rfl, frontOthers⟩ := List.cons_prefix_cons.mp front
            have enough : (skipTrivia s).length + 2 ≤ (skipTrivia s ++ '\n' :: b).length + 2 := by
              simp
            by_cases settled :
                IsSettled (ElementLeavesOpen · total ((skipTrivia s).length + 2) (skipTrivia s)) b
            · have sameElement := element_newline hasNoBlock _ found
                (head?_ne_stroke_of_topLevel readOthers) settled enough
              rw [foundLonger] at sameElement
              cases sameElement
              have othersOpen : ¬ IsSettled (ElementsLeaveOpen · total fuel behind) b :=
                fun othersSettled => notSettled fun quote quotes opens =>
                  (opens.cases found).elim (settled quote quotes) (othersSettled quote quotes)
              exact ih readOthers othersOpen othersLonger frontOthers
            · exact element_newline_ne hasNoBlock _ found settled enough _ foundLonger

theorem parse_eq_ok_iff {source : String} {script : Script} :
    parse source = .ok script ↔ parseChars source.toList = .ok script.elements := by
  unfold parse
  cases parseChars source.toList with
  | error fault => simp
  | ok elements =>
      constructor
      · intro same
        cases same
        rfl
      · intro same
        cases same
        rfl

theorem exists_of_isSome {source : String} (isRead : (parse source).toOption.isSome) :
    ∃ script, parse source = .ok script := by
  cases read : parse source with
  | error malformed =>
      rw [read] at isRead
      cases isRead
  | ok script => exact ⟨script, rfl⟩

/-- For two scripts that are read on their own, one written below the other is read as the elements
of the first and then those of the second, further down by the lines of the first, exactly if
no kind of quotes that the first leaves open stands three times in a row in the second. -/
theorem parse_below_iff {a b : String} {first second : Script} (readFirst : parse a = .ok first)
    (readSecond : parse b = .ok second) :
    parse (a ++ "\n" ++ b) =
        .ok ⟨first.elements ++ (second.movedDown (lineFeeds a.toList + 1)).elements⟩ ↔
      ∀ quote, isQuote quote → LeavesOpen quote a → ¬ tripled quote <:+: b.toList := by
  rw [parse_eq_ok_iff] at readFirst readSecond ⊢
  have settled_iff : IsSettled (LeavesOpen · a) b.toList ↔
      ∀ quote, isQuote quote → LeavesOpen quote a → ¬ tripled quote <:+: b.toList := by
    simp only [IsSettled, Text.cutAt_eq_none_iff (show tripled _ ≠ [] by simp [tripled])]
  have hasNoBlock := hasNoBlock_of_topLevel readSecond
  have below : topLevel (lineFeeds a.toList + lineFeeds ('\n' :: b.toList)) (b.toList.length + 1)
      b.toList = .ok (second.movedDown (lineFeeds a.toList + 1)).elements := by
    have lines : lineFeeds a.toList + lineFeeds ('\n' :: b.toList) =
        lineFeeds b.toList + (lineFeeds a.toList + 1) := by
      simp only [lineFeeds, List.count_cons_self]
      omega
    rw [lines, topLevel_movedDown _ (Nat.le_refl _)]
    unfold parseChars at readSecond
    rw [readSecond]
    rfl
  have text : (a ++ "\n" ++ b).toList = a.toList ++ '\n' :: b.toList := by simp
  have size : (a.toList ++ '\n' :: b.toList).length + 1 =
      a.toList.length + 1 + (b.toList.length + 1) := by
    simp only [List.length_append, List.length_cons]
    omega
  rw [text, parseChars, lineFeeds_append, size, ← settled_iff]
  constructor
  · intro readLonger
    refine Classical.byContradiction fun notSettled => ?_
    exact topLevel_newline_ne hasNoBlock readFirst notSettled readLonger (List.prefix_append _ _)
  · intro isSettled
    obtain ⟨left, more, readLonger⟩ :=
      topLevel_newline hasNoBlock readFirst isSettled (b.toList.length + 1)
    rw [readLonger, topLevel_mono (Nat.le_of_lt more) below]
    rfl

/-- The three double quotes of this script open a text that nothing closes. -/
theorem leavesOpen_sample : LeavesOpen '"' r#"a{"""x"}"# := by
  have solid {c : Char} {s : List Char} (nothing : trivium? (c :: s) = none) :
      skipTrivia (c :: s) = c :: s := skipTrivia_of_none nothing
  have named : name? (skipTrivia r#"a{"""x"}"#.toList) = some ("a", r#"{"""x"}"#.toList) :=
    (congrArg name? (solid rfl)).trans rfl
  have called : arguments r#"{"""x"}"#.toList = .ok ([], r#"{"""x"}"#.toList) := rfl
  have opened : skipTrivia r#"{"""x"}"#.toList = '{' :: r#""""x"}"#.toList := solid rfl
  have unclosed : IsUnclosed '"' (skipTrivia r#""""x"}"#.toList) :=
    ⟨r#"x"}"#.toList, solid rfl, by decide⟩
  exact .here (.block named called opened (.text unclosed))

/-- Below a script that leaves double quotes open stands one in which single quotes are tripled. -/
theorem parse_below_samples : LeavesOpen '"' r#"a{"""x"}"# ∧ ∃ first second,
    parse r#"a{"""x"}"# = .ok first ∧ parse "b '''y'''" = .ok second ∧
      parse (r#"a{"""x"}"# ++ "\n" ++ "b '''y'''") =
        .ok ⟨first.elements ++ (second.movedDown 1).elements⟩ := by
  obtain ⟨first, readFirst⟩ := @exists_of_isSome r#"a{"""x"}"# (by decide +kernel)
  obtain ⟨second, readSecond⟩ := @exists_of_isSome "b '''y'''" (by decide +kernel)
  have only {quote : Char} {s : List Char} (absent : quote ∉ s) : ¬ tripled quote <:+: s :=
    fun inside => absent (inside.subset (by simp [tripled]))
  refine ⟨leavesOpen_sample, first, second, readFirst, readSecond, ?_⟩
  refine (parse_below_iff readFirst readSecond).mpr fun quote quotes leavesOpen => ?_
  have either : quote = '"' ∨ quote = '\'' := by simpa [isQuote] using quotes
  rcases either with rfl | rfl
  · exact only (by decide)
  · exact absurd leavesOpen.tripled_infix (only (by decide))
/-- A text left open in a block is closed by the quotes of the script below it, and then the block
has no end. -/
theorem not_parse_below : (∃ first, parse r#"a{"""x"}"# = .ok first) ∧
    (∃ second, parse "b \"\"\"y\"\"\"" = .ok second) ∧
    ∀ script, parse (r#"a{"""x"}"# ++ "\n" ++ "b \"\"\"y\"\"\"") ≠ .ok script := by
  refine ⟨exists_of_isSome (by decide +kernel), exists_of_isSome (by decide +kernel), ?_⟩
  intro script read
  have unread : (parse (r#"a{"""x"}"# ++ "\n" ++ "b \"\"\"y\"\"\"")).toOption.isNone := by
    decide +kernel
  rw [read] at unread
  cases unread

end Script

end Migration
