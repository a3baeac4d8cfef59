import Migration.Proofs.Script.Argument

/-!
# Reading elements, blocks and scripts

Elements and blocks are read back from each of their layouts, with the lines of their names, and so
is a whole script.
-/

namespace Migration

namespace Script

/-! ## Lines -/

@[simp]
theorem lineFeeds_append (s t : List Char) : lineFeeds (s ++ t) = lineFeeds s + lineFeeds t :=
  List.count_append

theorem lineFeeds_cons {c : Char} (noFeed : c ≠ '\n') (s : List Char) :
    lineFeeds (c :: s) = lineFeeds s :=
  List.count_cons_of_ne noFeed

theorem lineOf_append {total before : Nat} {rest : List Char}
    (split : total = before + lineFeeds rest) : lineOf total rest = before + 1 := by
  rw [lineOf, split, Nat.add_sub_cancel]

/-! ## Names and argument lists -/

/-- The arguments are read behind blanks, up to the bracket that closes them. -/
theorem arguments_append {args : List Argument} {blanks inside : List Char}
    (areBlanks : AreBlanks blanks) (list : WritesList WritesArgument args inside)
    (rest : List Char) :
    arguments (blanks ++ '(' :: (inside ++ ')' :: rest)) = .ok (args, rest) := by
  have skipped : (blanks ++ '(' :: (inside ++ ')' :: rest)).dropWhile
      (fun c => c = ' ' || c = '\t') = '(' :: (inside ++ ')' :: rest) := by
    refine dropWhile_append ?_ ?_
    · intro c isIn
      simpa using areBlanks c isIn
    · simp
  have read := bracketed_append (reads_argument inside.length) closes_argument list
    (Nat.le_refl _) rest
  unfold arguments
  rw [skipped]
  simp only [read]

/-- The head of an element is read as its name and then its arguments. -/
theorem head_append {name : String} {args : List Argument} {head : List Char}
    (writes : WritesHead name args head) (rest : List Char) :
    ∃ afterName, name? (head ++ rest) = some (name, afterName) ∧
      arguments afterName = .ok (args, rest) := by
  cases writes with
  | @intro blanks inside isName areBlanks list =>
      have stops : ∀ c ∈ (blanks ++ '(' :: (inside ++ ')' :: rest)).head?,
          isNameChar c = false := by
        cases blanks with
        | nil => simp [isNameChar]
        | cons blank blanks =>
            intro c isHead
            obtain rfl : blank = c := by simpa using isHead
            rcases areBlanks blank List.mem_cons_self with rfl | rfl <;> decide
      refine ⟨_, ?_, arguments_append areBlanks list rest⟩
      have read := name?_append isName stops
      rw [String.ofList_toList] at read
      simpa using read

theorem WritesHead.begins {name : String} {args : List Argument} {head : List Char}
    (writes : WritesHead name args head) : ∃ c s, head = c :: s ∧ isNameStart c := by
  cases writes with
  | intro isName _ _ =>
      obtain ⟨c, s, same, start⟩ := isName.begins
      exact ⟨c, _, by rw [same, List.cons_append], start⟩

theorem WritesElement.begins {before : Nat} {e : Element} {text : List Char}
    (writes : WritesElement before e text) : ∃ c s, text = c :: s ∧ isNameStart c := by
  cases writes with
  | plain writesHead => exact writesHead.begins
  | block writesHead _ _ =>
      obtain ⟨c, s, rfl, start⟩ := writesHead.begins
      exact ⟨c, _, rfl, start⟩

/-! ## Elements and blocks -/

/-- A place behind an element where no block begins. -/
def HasNoBlock (rest : List Char) : Prop :=
  (skipTrivia rest).head? ≠ some '{'

theorem hasNoBlock_append {gap text : List Char} (trivia : IsTrivia gap) {isIn : Char → Bool}
    (begins : ∃ c s, text = c :: s ∧ isIn c)
    (clear : IsClearOfTrivia isIn) (notBrace : isIn '{' = false) (rest : List Char) :
    HasNoBlock (gap ++ (text ++ rest)) := by
  obtain ⟨c, s, rfl, member⟩ := begins
  rw [HasNoBlock, List.cons_append, skipTrivia_append_solid trivia (isSolid_of_class member clear)]
  simpa using ne_of_class member notBrace

theorem element_plain {total fuel : Nat} {name : String} {args : List Argument}
    {head rest : List Char} (writes : WritesHead name args head) (hasNoBlock : HasNoBlock rest) :
    element total (fuel + 1) (head ++ rest) =
      .ok (⟨name, args, none, lineOf total (head ++ rest)⟩, rest) := by
  obtain ⟨afterName, readName, readArguments⟩ := head_append writes rest
  rw [element, readName]
  simp only [readArguments]
  split
  next inner same => exact absurd (by rw [same]; rfl) hasNoBlock
  next => rfl

theorem element_block {total fuel : Nat} {name : String} {args : List Argument}
    {items : List (Item Element)} {head gap inner rest : List Char}
    (writes : WritesHead name args head) (trivia : IsTrivia gap)
    (readBlock : block total fuel inner = .ok (items, rest)) :
    element total (fuel + 1) (head ++ (gap ++ '{' :: inner)) =
      .ok (⟨name, args, some items, lineOf total (head ++ (gap ++ '{' :: inner))⟩, rest) := by
  obtain ⟨afterName, readName, readArguments⟩ := head_append writes (gap ++ '{' :: inner)
  rw [element, readName]
  simp only [readArguments, skipTrivia_append_solid trivia (show IsSolid '{' by decide), readBlock]

theorem block_done {total fuel : Nat} {gap : List Char} (trivia : IsTrivia gap) (rest : List Char) :
    block total (fuel + 1) (gap ++ '}' :: rest) = .ok ([], rest) := by
  rw [block, skipTrivia_append_solid trivia (by decide)]
  rfl

theorem block_text {total fuel : Nat} {s : String} {items : List (Item Element)}
    {gap text more rest : List Char} (trivia : IsTrivia gap) (writes : WritesText s text)
    (isApart : IsApart more) (readBlock : block total fuel more = .ok (items, rest)) :
    block total (fuel + 1) (gap ++ (text ++ more)) = .ok (.text s :: items, rest) := by
  have read := quoted_append writes isApart
  rw [block, skipTrivia_begins trivia (beginsSolid_of_writesText writes)]
  obtain ⟨c, tail, rfl, isQuote⟩ := writes.begins
  split
  next same => cases same
  next same => exact absurd (List.cons.inj same).1 (ne_of_class isQuote (by decide))
  next => simp only [read, readBlock]

theorem block_element {total fuel : Nat} {e : Element} {items : List (Item Element)}
    {gap start more rest : List Char} (trivia : IsTrivia gap)
    (begins : ∃ c s, start = c :: s ∧ isNameStart c)
    (readElement : element total fuel start = .ok (e, more))
    (readBlock : block total fuel more = .ok (items, rest)) :
    block total (fuel + 1) (gap ++ start) = .ok (.element e :: items, rest) := by
  obtain ⟨c, tail, rfl, isName⟩ := begins
  rw [block, skipTrivia_append_solid trivia (isSolid_of_class isName (by decide))]
  split
  next same => cases same
  next same => exact absurd (List.cons.inj same).1 (ne_of_class isName (by decide))
  next =>
    simp only [quoted_of_head (not_isQuote_of_class isName (by decide)), readElement, readBlock]

/-- What stands behind an item of a block does not go on with it. -/
theorem WritesItems.isApart {before : Nat} {items : List (Item Element)} {more : List Char}
    (writes : WritesItems before false items more) (rest : List Char) :
    IsApart (more ++ '}' :: rest) := by
  cases writes with
  | done trivia => exact isApart_append trivia (isApart_cons.mpr (by decide))
  | text trivia apart _ _ =>
      rw [List.append_assoc]
      exact isApart_of_trivia trivia (apart rfl) _
  | element trivia apart _ _ =>
      rw [List.append_assoc]
      exact isApart_of_trivia trivia (apart rfl) _

theorem WritesItems.hasNoBlock {before : Nat} {first : Bool} {items : List (Item Element)}
    {more : List Char} (writes : WritesItems before first items more) (rest : List Char) :
    HasNoBlock (more ++ '}' :: rest) := by
  cases writes with
  | done trivia =>
      rw [HasNoBlock, skipTrivia_append_solid trivia (by decide)]
      simp
  | text trivia _ quoted _ =>
      rw [List.append_assoc, List.append_assoc]
      exact hasNoBlock_append trivia quoted.begins (by decide) (by decide) _
  | element trivia _ element _ =>
      rw [List.append_assoc, List.append_assoc]
      exact hasNoBlock_append trivia element.begins (by decide) (by decide) _

mutual
/-- An element is read back with its line, given more fuel than its text is long. -/
theorem element_append {total before fuel : Nat} {e : Element} {text rest : List Char}
    (writes : WritesElement before e text) (enough : text.length < fuel)
    (split : total = before + lineFeeds (text ++ rest)) (hasNoBlock : HasNoBlock rest) :
    element total fuel (text ++ rest) = .ok (e, rest) := by
  obtain ⟨fuel, rfl⟩ : ∃ less, fuel = less + 1 := ⟨fuel - 1, by omega⟩
  have line := lineOf_append split
  match writes with
  | .plain writesHead => rw [element_plain writesHead hasNoBlock, line]
  | @WritesElement.block _ name args items head gap inside writesHead trivia writesItems =>
      -- the braces and the name are more than the two characters that a block needs
      have short : inside.length + 1 < fuel := by
        obtain ⟨c, s, rfl, -⟩ := writesHead.begins
        simp only [List.length_append, List.length_cons, List.length_nil] at enough
        omega
      have readBlock : block total fuel (inside ++ '}' :: rest) = .ok (items, rest) := by
        refine block_append writesItems short ?_
        rw [split]
        simp [lineFeeds_cons, Nat.add_assoc]
      have read := element_block writesHead trivia readBlock
      simp only [List.append_assoc, List.cons_append, List.nil_append] at line ⊢
      rw [read, line]
/-- The items of a block are read back up to its closing brace. -/
theorem block_append {total before fuel : Nat} {first : Bool} {items : List (Item Element)}
    {inside : List Char} (writes : WritesItems before first items inside)
    (enough : inside.length + 1 < fuel) {rest : List Char}
    (split : total = before + lineFeeds (inside ++ '}' :: rest)) :
    block total fuel (inside ++ '}' :: rest) = .ok (items, rest) := by
  obtain ⟨fuel, rfl⟩ : ∃ less, fuel = less + 1 := ⟨fuel - 1, by omega⟩
  match writes with
  | .done trivia => exact block_done trivia rest
  | @WritesItems.text _ _ s items gap text more trivia apart quoted others =>
      obtain ⟨c, tail, notEmpty, -⟩ := quoted.begins
      have readBlock : block total fuel (more ++ '}' :: rest) = .ok (items, rest) := by
        refine block_append others ?_ ?_
        · simp only [notEmpty, List.length_append, List.length_cons] at enough
          omega
        · rw [split]
          simp [Nat.add_assoc]
      simp only [List.append_assoc]
      exact block_text trivia quoted (others.isApart rest) readBlock
  | @WritesItems.element _ _ e items gap text more trivia apart writesElement others =>
      obtain ⟨c, tail, notEmpty, start⟩ := writesElement.begins
      have readElement : element total fuel (text ++ (more ++ '}' :: rest)) =
          .ok (e, more ++ '}' :: rest) := by
        refine element_append writesElement ?_ ?_ (others.hasNoBlock rest)
        · simp only [List.length_append] at enough
          omega
        · rw [split]
          simp [Nat.add_assoc]
      have readBlock : block total fuel (more ++ '}' :: rest) = .ok (items, rest) := by
        refine block_append others ?_ ?_
        · simp only [notEmpty, List.length_append, List.length_cons] at enough
          omega
        · rw [split]
          simp [Nat.add_assoc]
      have begins : ∃ c s, text ++ (more ++ '}' :: rest) = c :: s ∧ isNameStart c :=
        ⟨c, _, by rw [notEmpty, List.cons_append], start⟩
      simp only [List.append_assoc]
      exact block_element trivia begins readElement readBlock
end

/-! ## Scripts -/

theorem WritesElements.hasNoBlock {before : Nat} {elements : List Element} {rest : List Char}
    (writes : WritesElements before elements rest) : HasNoBlock rest := by
  cases writes with
  | done trivia =>
      rw [HasNoBlock, skipTrivia_of_isTrivia trivia]
      simp
  | element trivia writesElement _ =>
      exact hasNoBlock_append trivia writesElement.begins (by decide) (by decide) _

theorem topLevel_of_writes {total before fuel : Nat} {elements : List Element} {text : List Char}
    (writes : WritesElements before elements text) (enough : text.length < fuel)
    (split : total = before + lineFeeds text) : topLevel total fuel text = .ok elements := by
  induction writes generalizing fuel with
  | done trivia =>
      obtain ⟨fuel, rfl⟩ : ∃ less, fuel = less + 1 := ⟨fuel - 1, by omega⟩
      rw [topLevel, skipTrivia_of_isTrivia trivia]
  | @element before e elements gap text rest trivia writesElement others ih =>
      obtain ⟨fuel, rfl⟩ : ∃ less, fuel = less + 1 := ⟨fuel - 1, by omega⟩
      obtain ⟨c, tail, notEmpty, start⟩ := writesElement.begins
      have begins : BeginsSolid text := ⟨c, tail, notEmpty, isSolid_of_class start (by decide)⟩
      have readElement : element total ((text ++ rest).length + 2) (text ++ rest) =
          .ok (e, rest) := by
        refine element_append writesElement ?_ ?_ others.hasNoBlock
        · rw [List.length_append]
          omega
        · rw [split]
          simp [Nat.add_assoc]
      have readOthers : topLevel total fuel rest = .ok elements := by
        refine ih ?_ ?_
        · simp only [notEmpty, List.length_append, List.length_cons] at enough
          omega
        · rw [split]
          simp [Nat.add_assoc]
      rw [topLevel, skipTrivia_begins trivia begins]
      split
      next same => simp [notEmpty] at same
      next => simp only [readElement, readOthers, Except.map]

end Script

/-- Every layout of a script is read as that script, with each element on the line of its name. -/
theorem Script.parse_eq_ok {script : Script} {source : String}
    (isWritten : script.IsWritten source) : Script.parse source = .ok script := by
  have read : Script.parseChars source.toList = .ok script.elements :=
    Script.topLevel_of_writes isWritten (Nat.lt_succ_self _) (Nat.zero_add _).symm
  rw [Script.parse, read]

end Migration
