import Migration.Proofs.Script.Lexeme
import Migration.Script.Grammar

/-!
# Reading lists between brackets

What is proved here of the items of a list is all that values and arguments have in common: an item
is read where it is written, it begins with something that is no trivia, and nothing is read where
the closing bracket stands.
-/

namespace Migration.Script

variable {α : Type} {writes : α → List Char → Prop} {item : List Char → Reading α}

/-- What may follow an item: the item ends there, and it is not the key of an argument. -/
def Follows (rest : List Char) : Prop :=
  IsApart rest ∧ (skipTrivia rest).head? ≠ some ':'

/-- Whether a text begins with something that is no trivia. -/
def BeginsSolid (s : List Char) : Prop :=
  ∃ c tail, s = c :: tail ∧ IsSolid c

/-- Whether the items with texts of up to `size` characters are read back. -/
structure Reads (writes : α → List Char → Prop) (item : List Char → Reading α) (size : Nat) :
    Prop where
  found : ∀ {value : α} {text : List Char}, writes value text → text.length ≤ size →
    ∀ {rest : List Char}, Follows rest → item (text ++ rest) = .found value rest
  begins : ∀ {value : α} {text : List Char}, writes value text → BeginsSolid text

/-- Whether a bracket can end a list of items. -/
structure Closes (item : List Char → Reading α) (closer : Char) : Prop where
  isSolid : IsSolid closer
  isApart : isNameChar closer = false ∧ isQuote closer = false
  notComma : closer ≠ ','
  notColon : closer ≠ ':'
  absent : ∀ rest, item (closer :: rest) = .absent

/-! ## What follows an item -/

theorem follows_append {gap : List Char} (trivia : IsTrivia gap) {c : Char} (isSolid : IsSolid c)
    (isApart : isNameChar c = false ∧ isQuote c = false) (notColon : c ≠ ':') (s : List Char) :
    Follows (gap ++ c :: s) := by
  refine ⟨isApart_append trivia (isApart_cons.mpr isApart), ?_⟩
  rw [skipTrivia_append_solid trivia isSolid]
  simpa using notColon

theorem follows_comma {gap : List Char} (trivia : IsTrivia gap) (s : List Char) :
    Follows (gap ++ ',' :: s) :=
  follows_append trivia (by decide) (by decide) (by decide) s

theorem follows_more {items : List α} {more rest : List Char}
    (others : WritesMore writes items more) (follows : Follows rest) : Follows (more ++ rest) := by
  cases others with
  | nil => exact follows
  | cons triviaBefore _ _ _ =>
      rw [List.append_assoc, List.cons_append]
      exact follows_comma triviaBefore _

theorem follows_close {closer : Char} (closes : Closes item closer) {close : List Char}
    (isEnd : IsListEnd close) (rest : List Char) : Follows (close ++ closer :: rest) := by
  cases isEnd with
  | trivia trivia =>
      exact follows_append trivia closes.isSolid closes.isApart closes.notColon rest
  | comma triviaBefore _ =>
      rw [List.append_assoc, List.cons_append]
      exact follows_comma triviaBefore _

/-! ## Commas -/

theorem skipTrivia_begins {gap text : List Char} (trivia : IsTrivia gap) (begins : BeginsSolid text)
    (rest : List Char) : skipTrivia (gap ++ (text ++ rest)) = text ++ rest := by
  obtain ⟨c, tail, rfl, isSolid⟩ := begins
  exact skipTrivia_append_solid trivia isSolid (tail ++ rest)

theorem comma?_append {before after text : List Char} (triviaBefore : IsTrivia before)
    (triviaAfter : IsTrivia after) (begins : BeginsSolid text) (rest : List Char) :
    comma? (before ++ ',' :: (after ++ (text ++ rest))) = some (text ++ rest) := by
  unfold comma?
  rw [skipTrivia_append_solid triviaBefore (by decide)]
  exact congrArg some (skipTrivia_begins triviaAfter begins rest)

/-- Behind the last item stands no comma, or one without an item behind it. -/
theorem comma?_close {closer : Char} (closes : Closes item closer) {close : List Char}
    (isEnd : IsListEnd close) (rest : List Char) :
    comma? (close ++ closer :: rest) = none ∨
      comma? (close ++ closer :: rest) = some (closer :: rest) := by
  cases isEnd with
  | trivia trivia =>
      refine Or.inl ?_
      unfold comma?
      rw [skipTrivia_append_solid trivia closes.isSolid]
      split
      next s same => exact absurd (List.cons.inj same).1 closes.notComma
      next => rfl
  | comma triviaBefore triviaAfter =>
      refine Or.inr ?_
      unfold comma?
      rw [List.append_assoc, List.cons_append, skipTrivia_append_solid triviaBefore (by decide)]
      exact congrArg some (skipTrivia_append_solid triviaAfter closes.isSolid rest)

theorem skipLastComma_append {closer : Char} (closes : Closes item closer) {close : List Char}
    (isEnd : IsListEnd close) (rest : List Char) :
    skipLastComma (close ++ closer :: rest) = closer :: rest := by
  unfold skipLastComma
  cases isEnd with
  | trivia trivia =>
      rw [skipTrivia_append_solid trivia closes.isSolid]
      split
      next s same => exact absurd (List.cons.inj same).1 closes.notComma
      next => rfl
  | comma triviaBefore triviaAfter =>
      rw [List.append_assoc, List.cons_append, skipTrivia_append_solid triviaBefore (by decide)]
      exact skipTrivia_append_solid triviaAfter closes.isSolid rest

/-! ## Items -/

theorem moreItems_close {closer : Char} (closes : Closes item closer) {close : List Char}
    (isEnd : IsListEnd close) (rest : List Char) (fuel : Nat) :
    moreItems item fuel (close ++ closer :: rest) = .ok ([], close ++ closer :: rest) := by
  cases fuel with
  | zero => rfl
  | succ fuel =>
      rw [moreItems]
      rcases comma?_close closes isEnd rest with noComma | lastComma
      · rw [noComma]
      · simp only [lastComma, closes.absent]

/-- All further items are read, and what stands behind the last one is left. -/
theorem moreItems_append {size : Nat} (reads : Reads writes item size) {closer : Char}
    (closes : Closes item closer) {close : List Char} (isEnd : IsListEnd close) (rest : List Char)
    {items : List α} {more : List Char} (others : WritesMore writes items more)
    (short : more.length ≤ size) {fuel : Nat} (enough : more.length ≤ fuel) :
    moreItems item fuel (more ++ (close ++ closer :: rest)) =
      .ok (items, close ++ closer :: rest) := by
  induction others generalizing fuel with
  | nil => exact moreItems_close closes isEnd rest fuel
  | @cons value items before after text more triviaBefore triviaAfter first others ih =>
      simp only [List.length_append, List.length_cons] at short enough
      obtain ⟨fuel, rfl⟩ : ∃ less, fuel = less + 1 := ⟨fuel - 1, by omega⟩
      have follows := follows_more others (follows_close closes isEnd rest)
      simp only [List.append_assoc, List.cons_append]
      rw [moreItems, comma?_append triviaBefore triviaAfter (reads.begins first)]
      simp only [reads.found first (by omega) follows]
      rw [ih (by omega) (by omega)]

/-- The inside of a pair of brackets is read up to the closing one. -/
theorem bracketed_append {size : Nat} (reads : Reads writes item size) {closer : Char}
    (closes : Closes item closer) {items : List α} {inside : List Char}
    (list : WritesList writes items inside) (short : inside.length ≤ size) (rest : List Char) :
    bracketed item (inside ++ closer :: rest) = .ok (items, closer :: rest) := by
  unfold bracketed commaItems
  cases list with
  | empty trivia =>
      have isEnd : IsListEnd [] := .trivia .nil
      rw [skipTrivia_append_solid trivia closes.isSolid]
      simp only [closes.absent]
      exact congrArg (fun left => Except.ok ([], left)) (skipLastComma_append closes isEnd rest)
  | @items value others gap text more close trivia first writesMore isEnd =>
      simp only [List.length_append] at short
      have follows := follows_more writesMore (follows_close closes isEnd rest)
      simp only [List.append_assoc]
      rw [skipTrivia_begins trivia (reads.begins first)]
      simp only [reads.found first (by omega) follows]
      rw [moreItems_append reads closes isEnd rest writesMore (by omega)
        (by simp only [List.length_append]; omega)]
      simp only [skipLastComma_append closes isEnd rest]

end Migration.Script
