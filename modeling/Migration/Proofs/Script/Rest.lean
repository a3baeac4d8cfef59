import Migration.Script.Grammar

/-!
# What is left of a script

How each step of the grammar comes to its result, and that what it leaves is an end of the text that
it was given.
-/

namespace Migration

namespace Text

theorem cutAt_suffix {needle s before rest : List Char}
    (found : cutAt needle s = some (before, rest)) : rest <:+ s := by
  induction s generalizing before rest with
  | nil =>
      unfold cutAt at found
      split at found
      · cases found
        exact List.suffix_rfl
      · cases found
  | cons c s ih =>
      unfold cutAt at found
      split at found
      · cases found
        exact List.drop_suffix _ _
      · obtain ⟨⟨inner, tail⟩, cut, same⟩ := Option.map_eq_some_iff.mp found
        cases same
        exact (ih cut).trans (List.suffix_cons c s)

end Text

namespace Script

/-! ## What is left of a text -/

theorem trivium?_suffix {s rest : List Char} (found : trivium? s = some rest) : rest <:+ s := by
  unfold trivium? at found
  split at found
  · cases found
  · rename_i tail
    cases found
    exact (List.dropWhile_suffix _).trans (List.suffix_append ['/', '/'] tail)
  · rename_i tail
    obtain ⟨⟨before, rest⟩, cut, rfl⟩ := Option.map_eq_some_iff.mp found
    exact (Text.cutAt_suffix cut).trans (List.suffix_append ['/', '*'] tail)
  · split at found
    · cases found
      exact List.suffix_cons _ _
    · cases found

theorem skipTrivia_suffix (s : List Char) : skipTrivia s <:+ s := by
  fun_induction skipTrivia s with
  | case1 s rest found ih => exact ih.trans (trivium?_suffix found)
  | case2 s none => exact List.suffix_rfl

theorem name?_suffix {name : String} {s rest : List Char} (found : name? s = some (name, rest)) :
    rest <:+ s := by
  cases s with
  | nil => cases found
  | cons c s =>
      rw [name?] at found
      split at found
      · cases found
        exact (List.dropWhile_suffix _).trans (List.suffix_cons c s)
      · cases found

theorem shortText?_suffix {quote : Char} {s text rest : List Char}
    (found : shortText? quote s = some (text, rest)) : rest <:+ s := by
  fun_induction shortText? quote s generalizing text rest with
  | case1 => cases found
  | case2 s =>
      cases found
      exact List.suffix_cons _ _
  | case3 => cases found
  | case4 escaped s notQuote ih =>
      obtain ⟨⟨inner, tail⟩, read, same⟩ := Option.map_eq_some_iff.mp found
      cases same
      exact (ih read).trans (List.suffix_append ['\\', escaped] s)
  | case5 c s notQuote notEscape ih =>
      obtain ⟨⟨inner, tail⟩, read, same⟩ := Option.map_eq_some_iff.mp found
      cases same
      exact (ih read).trans (List.suffix_cons c s)

theorem longText?_suffix {quote : Char} {s text rest : List Char}
    (found : longText? quote s = some (text, rest)) : rest <:+ s := by
  simp only [longText?] at found
  split at found
  · exact (Text.cutAt_suffix found).trans (List.drop_suffix _ _)
  · cases found

theorem quoted_suffix {text : String} {s rest : List Char} (found : quoted s = .found text rest) :
    rest <:+ s := by
  unfold quoted at found
  split at found
  · rename_i long
    cases found
    exact longText?_suffix long
  · rename_i long
    cases found
    exact longText?_suffix long
  · cases found
  · rename_i c body _ _
    split at found
    · split at found
      · rename_i short
        cases found
        exact (shortText?_suffix short).trans (List.suffix_cons c body)
      · cases found
    · cases found

theorem fraction?_suffix {s digits rest : List Char} (found : fraction? s = some (digits, rest)) :
    rest <:+ s := by
  unfold fraction? at found
  split at found
  · dsimp only at found
    split at found
    · cases found
    · cases found
      exact (List.dropWhile_suffix _).trans (List.suffix_cons _ _)
  · cases found

/-- Reads a number behind its sign, which stands at `start` if there is one. -/
def unsigned (start : List Char) (negative : Bool) (body : List Char) : Reading Literal :=
  let whole := body.takeWhile Char.isDigit
  let afterWhole := body.dropWhile Char.isDigit
  let (fraction, rest) : Option (List Char) × List Char :=
    match fraction? afterWhole with
    | some (digits, rest) => (some digits, rest)
    | none => (none, afterWhole)
  if whole = [] || rest.head?.any isNameStart then .absent
  else
    match fraction with
    | some digits =>
        let exponent : Int := -digits.length
        .found (.float (.ofDecimal negative (Number.ofDigits (whole ++ digits)) exponent)) rest
    | none =>
        let size : Int := Number.ofDigits whole
        match Number.fit64? (if negative then -size else size) with
        | some n => .found (.int n) rest
        | none => .malformed ⟨.number, start⟩

theorem number_minus (body : List Char) :
    number ('-' :: body) = unsigned ('-' :: body) true body := rfl

theorem number_of_ne_minus {s : List Char} (noSign : s.head? ≠ some '-') :
    number s = unsigned s false s := by
  unfold number
  split
  next signed body sign =>
    have facts : signed = false ∧ body = s := by
      split at sign
      next tail => exact absurd rfl noSign
      next =>
        cases sign
        exact ⟨rfl, rfl⟩
    obtain ⟨rfl, rfl⟩ := facts
    rfl

theorem unsigned_suffix {start body rest : List Char} {negative : Bool} {value : Literal}
    (found : unsigned start negative body = .found value rest) : rest <:+ body := by
  unfold unsigned at found
  cases fraction : fraction? (body.dropWhile Char.isDigit) with
  | none =>
      simp only [fraction] at found
      split at found
      · cases found
      · split at found
        · cases found
          exact List.dropWhile_suffix _
        · cases found
  | some pair =>
      simp only [fraction] at found
      split at found
      · cases found
      · cases found
        exact (fraction?_suffix fraction).trans (List.dropWhile_suffix _)

theorem number_suffix {value : Literal} {s rest : List Char}
    (found : number s = .found value rest) : rest <:+ s := by
  by_cases sign : s.head? = some '-'
  · obtain ⟨body, rfl⟩ := List.head?_eq_some_iff.mp sign
    rw [number_minus] at found
    exact (unsigned_suffix found).trans (List.suffix_cons '-' body)
  · rw [number_of_ne_minus sign] at found
    exact unsigned_suffix found

theorem ofOption_eq_found {α : Type} {read : Option (α × List Char)} {value : α}
    {rest : List Char} (found : Reading.ofOption read = .found value rest) :
    read = some (value, rest) := by
  unfold Reading.ofOption at found
  split at found <;> cases found
  rfl

theorem map_eq_found {α β : Type} {f : α → β} {read : Reading α} {value : β} {rest : List Char}
    (found : read.map f = .found value rest) :
    ∃ inner, read = .found inner rest ∧ f inner = value := by
  unfold Reading.map at found
  split at found <;> cases found
  exact ⟨_, rfl, rfl⟩

/-- What one of two steps finds is found by the first, or by the second where the first finds
nothing. -/
theorem orElse_eq_found {α : Type} {first : Reading α} {second : Unit → Reading α} {value : α}
    {rest : List Char} (found : first.orElse second = .found value rest) :
    first = .found value rest ∨ first = .absent ∧ second () = .found value rest := by
  unfold Reading.orElse at found
  split at found
  · exact .inl found
  · exact .inr ⟨rfl, found⟩
  · cases found

theorem word_suffix {value : Literal} {s rest : List Char} (found : word s = .found value rest) :
    rest <:+ s := by
  obtain ⟨name, read, -⟩ := map_eq_found found
  exact name?_suffix (ofOption_eq_found read)

/-! ## Lists between brackets -/

section Brackets

variable {α : Type} {item : List Char → Reading α}

theorem comma?_eq_some {s rest : List Char} (found : comma? s = some rest) :
    ∃ tail, skipTrivia s = ',' :: tail ∧ rest = skipTrivia tail := by
  unfold comma? at found
  split at found
  · rename_i tail same
    cases found
    exact ⟨tail, same, rfl⟩
  · cases found

theorem comma?_suffix {s rest : List Char} (found : comma? s = some rest) : rest <:+ s := by
  obtain ⟨tail, comma, rfl⟩ := comma?_eq_some found
  have behind : tail <:+ s := (List.suffix_cons ',' tail).trans (comma ▸ skipTrivia_suffix s)
  exact (skipTrivia_suffix tail).trans behind

/-- How further items are read: there are none, or one stands behind a comma. -/
theorem moreItems_cases {fuel : Nat} {s rest : List Char} {values : List α}
    (read : moreItems item fuel s = .ok (values, rest)) :
    (values = [] ∧ rest = s ∧ (fuel = 0 ∨ comma? s = none ∨
      ∃ afterComma, comma? s = some afterComma ∧ item afterComma = .absent)) ∨
    ∃ less afterComma value behind more, fuel = less + 1 ∧ comma? s = some afterComma ∧
      item afterComma = .found value behind ∧ moreItems item less behind = .ok (more, rest) ∧
      values = value :: more := by
  cases fuel with
  | zero =>
      cases read
      exact .inl ⟨rfl, rfl, .inl rfl⟩
  | succ fuel =>
      rw [moreItems] at read
      split at read
      · rename_i none
        cases read
        exact .inl ⟨rfl, rfl, .inr (.inl none)⟩
      · rename_i afterComma comma
        split at read
        · rename_i absent
          cases read
          exact .inl ⟨rfl, rfl, .inr (.inr ⟨afterComma, comma, absent⟩)⟩
        · cases read
        · rename_i value behind found
          split at read
          · cases read
          · rename_i more left others
            cases read
            exact .inr ⟨fuel, afterComma, value, behind, more, rfl, comma, found, others, rfl⟩

theorem moreItems_suffix (shorter : ∀ {s value rest}, item s = .found value rest → rest <:+ s)
    {fuel : Nat} {s rest : List Char} {values : List α}
    (read : moreItems item fuel s = .ok (values, rest)) : rest <:+ s := by
  induction fuel generalizing s values with
  | zero =>
      cases read
      exact List.suffix_rfl
  | succ fuel ih =>
      rcases moreItems_cases read with
        ⟨-, rfl, -⟩ | ⟨less, afterComma, value, behind, more, same, comma, found, others, -⟩
      · exact List.suffix_rfl
      · cases same
        exact ((ih others).trans (shorter found)).trans (comma?_suffix comma)

theorem skipLastComma_suffix (s : List Char) : skipLastComma s <:+ s := by
  unfold skipLastComma
  split
  · rename_i tail comma
    have behind : tail <:+ s := (List.suffix_cons ',' tail).trans (comma ▸ skipTrivia_suffix s)
    exact (skipTrivia_suffix tail).trans behind
  · exact skipTrivia_suffix s

/-- How the inside of brackets is read: it is empty, or there is a first item. -/
theorem bracketed_cases {s rest : List Char} {values : List α}
    (read : bracketed item s = .ok (values, rest)) :
    (item (skipTrivia s) = .absent ∧ values = [] ∧ rest = skipLastComma (skipTrivia s)) ∨
    ∃ value behind more left, item (skipTrivia s) = .found value behind ∧
      moreItems item behind.length behind = .ok (more, left) ∧ values = value :: more ∧
      rest = skipLastComma left := by
  unfold bracketed commaItems at read
  cases first : item (skipTrivia s) with
  | absent =>
      simp only [first] at read
      cases read
      exact .inl ⟨rfl, rfl, rfl⟩
  | malformed fault =>
      simp only [first] at read
      cases read
  | found value behind =>
      simp only [first] at read
      cases others : moreItems item behind.length behind with
      | error fault =>
          simp only [others] at read
          cases read
      | ok result =>
          obtain ⟨more, left⟩ := result
          simp only [others] at read
          cases read
          exact .inr ⟨value, behind, more, left, rfl, others, rfl, rfl⟩

theorem bracketed_suffix (shorter : ∀ {s value rest}, item s = .found value rest → rest <:+ s)
    {s rest : List Char} {values : List α} (read : bracketed item s = .ok (values, rest)) :
    rest <:+ s := by
  rcases bracketed_cases read with
    ⟨-, -, rfl⟩ | ⟨value, behind, more, left, found, others, -, rfl⟩
  · exact (skipLastComma_suffix _).trans (skipTrivia_suffix s)
  · have front : behind <:+ s := (shorter found).trans (skipTrivia_suffix s)
    exact ((skipLastComma_suffix left).trans (moreItems_suffix shorter others)).trans front

end Brackets

/-! ## Values and arguments -/

/-- A list is what stands between square brackets. -/
theorem list_eq_found {item : List Char → Reading Literal} {value : Literal} {s rest : List Char}
    (found : list item s = .found value rest) :
    ∃ inner values, s = '[' :: inner ∧ bracketed item inner = .ok (values, ']' :: rest) ∧
      value = .list values := by
  unfold list at found
  split at found
  · rename_i inner
    split at found
    · cases found
    · rename_i values rest read
      cases found
      exact ⟨inner, values, rfl, read, rfl⟩
    · cases found
  · cases found

theorem list_suffix {item : List Char → Reading Literal}
    (shorter : ∀ {s value rest}, item s = .found value rest → rest <:+ s) {value : Literal}
    {s rest : List Char} (found : list item s = .found value rest) : rest <:+ s := by
  obtain ⟨inner, values, rfl, read, -⟩ := list_eq_found found
  have front : ']' :: rest <:+ '[' :: inner :=
    (bracketed_suffix shorter read).trans (List.suffix_cons '[' inner)
  exact (List.suffix_cons ']' rest).trans front

theorem valueWithin_suffix {fuel : Nat} {value : Literal} {s rest : List Char}
    (found : valueWithin fuel s = .found value rest) : rest <:+ s := by
  induction fuel generalizing s value rest with
  | zero => cases found
  | succ fuel ih =>
      rcases orElse_eq_found found with text | ⟨-, found⟩
      · obtain ⟨inner, read, -⟩ := map_eq_found text
        exact quoted_suffix read
      · rcases orElse_eq_found found with found | ⟨-, found⟩
        · exact list_suffix ih found
        · rcases orElse_eq_found found with found | ⟨-, found⟩
          · exact number_suffix found
          · exact word_suffix found

/-- A key is a name or a quoted text with a colon behind it. -/
theorem key_eq_found {name : String} {s rest : List Char} (found : key s = .found name rest) :
    ∃ behind tail, ((Reading.ofOption (name? s)).orElse fun _ => quoted s) = .found name behind ∧
      skipTrivia behind = ':' :: tail ∧ rest = skipTrivia tail := by
  unfold key at found
  split at found
  · rename_i given behind read
    split at found
    · rename_i tail colon
      cases found
      exact ⟨behind, tail, read, colon, rfl⟩
    · cases found
  · cases found
  · cases found

theorem key_suffix {name : String} {s rest : List Char} (found : key s = .found name rest) :
    rest <:+ s := by
  obtain ⟨behind, tail, read, colon, rfl⟩ := key_eq_found found
  have front : behind <:+ s := by
    rcases orElse_eq_found read with found | ⟨-, found⟩
    · exact name?_suffix (ofOption_eq_found found)
    · exact quoted_suffix found
  have middle : tail <:+ behind :=
    (List.suffix_cons ':' tail).trans (colon ▸ skipTrivia_suffix behind)
  exact ((skipTrivia_suffix tail).trans middle).trans front

/-- An argument is a key and a value, or a value alone where these are not found. -/
theorem argument_cases {a : Argument} {s rest : List Char} (found : argument s = .found a rest) :
    (∃ name behind v, key s = .found name behind ∧ value behind = .found v rest ∧
      a = ⟨some name, v⟩) ∨
    ((key s = .absent ∨ ∃ name behind, key s = .found name behind ∧ value behind = .absent) ∧
      ∃ v, value s = .found v rest ∧ a = ⟨none, v⟩) := by
  simp only [argument] at found
  rcases orElse_eq_found found with named | ⟨noKey, alone⟩
  · left
    split at named
    · rename_i name behind read
      obtain ⟨v, foundValue, rfl⟩ := map_eq_found named
      exact ⟨name, behind, v, read, foundValue, rfl⟩
    · cases named
    · cases named
  · right
    obtain ⟨v, foundValue, rfl⟩ := map_eq_found alone
    refine ⟨?_, v, foundValue, rfl⟩
    split at noKey
    · rename_i name behind read
      refine .inr ⟨name, behind, read, ?_⟩
      unfold Reading.map at noKey
      split at noKey <;> first | assumption | cases noKey
    · rename_i absent
      exact .inl absent
    · cases noKey

theorem argument_suffix {a : Argument} {s rest : List Char} (found : argument s = .found a rest) :
    rest <:+ s := by
  rcases argument_cases found with ⟨name, behind, v, read, found, -⟩ | ⟨-, v, found, -⟩
  · exact (valueWithin_suffix found).trans (key_suffix read)
  · exact valueWithin_suffix found

/-- How the arguments behind a name are given. -/
theorem arguments_cases {given : List Argument} {s rest : List Char}
    (read : arguments s = .ok (given, rest)) :
    (∃ inner, (s.dropWhile fun c => c = ' ' || c = '\t') = '(' :: inner ∧
      bracketed argument inner = .ok (given, ')' :: rest)) ∨
    (s.dropWhile fun c => c = ' ' || c = '\t').head? ≠ some '(' ∧
      ((∃ text, quoted (s.dropWhile fun c => c = ' ' || c = '\t') = .found text rest ∧
        given = [⟨none, .str text⟩]) ∨
      quoted (s.dropWhile fun c => c = ' ' || c = '\t') = .absent ∧ given = [] ∧ rest = s) := by
  unfold arguments at read
  split at read
  · rename_i inner opened
    left
    refine ⟨inner, opened, ?_⟩
    split at read
    · cases read
    · rename_i inside
      cases read
      exact inside
    · cases read
  · rename_i spaced notOpened
    right
    refine ⟨?_, ?_⟩
    · intro opened
      obtain ⟨inner, same⟩ := List.head?_eq_some_iff.mp opened
      exact notOpened inner same
    · split at read
      · rename_i text behind found
        cases read
        exact .inl ⟨text, found, rfl⟩
      · cases read
      · rename_i absent
        cases read
        exact .inr ⟨absent, rfl, rfl⟩

theorem arguments_suffix {given : List Argument} {s rest : List Char}
    (read : arguments s = .ok (given, rest)) : rest <:+ s := by
  rcases arguments_cases read with
    ⟨inner, opened, inside⟩ | ⟨-, ⟨text, found, -⟩ | ⟨-, -, rfl⟩⟩
  · have front : ')' :: rest <:+ '(' :: inner :=
      (bracketed_suffix argument_suffix inside).trans (List.suffix_cons '(' inner)
    exact ((List.suffix_cons ')' rest).trans front).trans (opened ▸ List.dropWhile_suffix _)
  · exact (quoted_suffix found).trans (List.dropWhile_suffix _)
  · exact List.suffix_rfl

/-! ## Elements and blocks -/

/-- How an element is read: its name, its arguments and perhaps a block. -/
theorem element_cases {total fuel : Nat} {e : Element} {s rest : List Char}
    (read : element total fuel s = .ok (e, rest)) :
    ∃ less name afterName given behind, fuel = less + 1 ∧ name? s = some (name, afterName) ∧
      arguments afterName = .ok (given, behind) ∧
      ((∃ inner items, skipTrivia behind = '{' :: inner ∧
        block total less inner = .ok (items, rest) ∧
        e = ⟨name, given, some items, lineOf total s⟩) ∨
      (skipTrivia behind).head? ≠ some '{' ∧ rest = behind ∧
        e = ⟨name, given, none, lineOf total s⟩) := by
  cases fuel with
  | zero => cases read
  | succ fuel =>
      rw [element] at read
      split at read
      · cases read
      · rename_i name afterName named
        split at read
        · cases read
        · rename_i given behind called
          refine ⟨fuel, name, afterName, given, behind, rfl, named, called, ?_⟩
          split at read
          · rename_i inner opened
            split at read
            · cases read
            · rename_i items left inside
              cases read
              exact .inl ⟨inner, items, opened, inside, rfl⟩
          · rename_i notOpened
            cases read
            refine .inr ⟨?_, rfl, rfl⟩
            intro opened
            obtain ⟨inner, same⟩ := List.head?_eq_some_iff.mp opened
            exact notOpened inner same

/-- How the items of a block are read: the block ends, or a text or an element stands in front. -/
theorem block_cases {total fuel : Nat} {items : List (Item Element)} {s rest : List Char}
    (read : block total fuel s = .ok (items, rest)) :
    ∃ less, fuel = less + 1 ∧
      ((skipTrivia s = '}' :: rest ∧ items = []) ∨
      (∃ text behind more, quoted (skipTrivia s) = .found text behind ∧
        block total less behind = .ok (more, rest) ∧ items = .text text :: more) ∨
      ∃ e behind more, quoted (skipTrivia s) = .absent ∧
        element total less (skipTrivia s) = .ok (e, behind) ∧
        block total less behind = .ok (more, rest) ∧ items = .element e :: more) := by
  cases fuel with
  | zero => cases read
  | succ fuel =>
      refine ⟨fuel, rfl, ?_⟩
      rw [block] at read
      split at read
      · cases read
      · rename_i tail same
        cases read
        exact .inl ⟨same, rfl⟩
      · split at read
        · cases read
        · rename_i text behind found
          split at read
          · cases read
          · rename_i more left others
            cases read
            exact .inr (.inl ⟨text, behind, more, found, others, rfl⟩)
        · rename_i absent
          split at read
          · cases read
          · rename_i e behind found
            split at read
            · cases read
            · rename_i more left others
              cases read
              exact .inr (.inr ⟨e, behind, more, absent, found, others, rfl⟩)

mutual
theorem element_suffix {total : Nat} : (fuel : Nat) → {e : Element} → {s rest : List Char} →
    element total fuel s = .ok (e, rest) → rest <:+ s
  | fuel, e, s, rest, read => by
      obtain ⟨less, name, afterName, given, behind, rfl, named, called, ending⟩ :=
        element_cases read
      have front : behind <:+ s := (arguments_suffix called).trans (name?_suffix named)
      rcases ending with ⟨inner, items, opened, inside, -⟩ | ⟨-, rfl, -⟩
      · have middle : inner <:+ behind :=
          (List.suffix_cons '{' inner).trans (opened ▸ skipTrivia_suffix behind)
        exact ((block_suffix less inside).trans middle).trans front
      · exact front

theorem block_suffix {total : Nat} : (fuel : Nat) → {items : List (Item Element)} →
    {s rest : List Char} → block total fuel s = .ok (items, rest) → rest <:+ s
  | fuel, items, s, rest, read => by
      obtain ⟨less, rfl, ending⟩ := block_cases read
      have front := skipTrivia_suffix s
      rcases ending with ⟨closed, -⟩ | ⟨text, behind, more, found, others, -⟩ |
        ⟨e, behind, more, -, found, others, -⟩
      · exact (List.suffix_cons '}' rest).trans (closed ▸ front)
      · exact ((block_suffix less others).trans (quoted_suffix found)).trans front
      · exact ((block_suffix less others).trans (element_suffix less found)).trans front
end

end Script

end Migration
