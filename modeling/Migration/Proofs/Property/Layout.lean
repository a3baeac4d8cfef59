import Migration.Proofs.Path.Canonical
import Migration.Proofs.Property.LogicalLine
import Migration.Proofs.Script.Lexeme

/-!
# Layouts of property files

The texts that write a list of pairs.  A list leaves open how far lines are indented, what separates
keys from values, where values are broken and where blank lines and comments stand; `IsWritten`
relates it to each of its layouts.  The main statement, `parseFile_undoes_writing`, says that all of
them are read as that list.
-/

namespace Migration.Property

/-! ## Pairs that can be written -/

structure IsKey (key : List Char) : Prop where
  nonempty : key ≠ []
  solid : ∀ c ∈ key, Text.isBlank c = false ∧ c ≠ '=' ∧ c ≠ ':' ∧ c ≠ '\\'
  noComment : isSkipped key = false

structure IsValue (value : List Char) : Prop where
  plain : ∀ c ∈ value, c ≠ '\n' ∧ c ≠ '\\'
  begins : ∀ c ∈ value.head?, Text.isBlank c = false
  ends : ∀ c ∈ value.getLast?, Text.isBlank c = false

/-! ## Their layouts -/

/-- Blanks that do not end a line. -/
def AreSpaces (s : List Char) : Prop :=
  ∀ c ∈ s, Text.isBlank c ∧ c ≠ '\n'

inductive IsLineEnd : List Char → Prop where
  | feed : IsLineEnd ['\n']
  | returnFeed : IsLineEnd ['\r', '\n']

/-- What may stand between a key and a value: an equals sign or a colon with or without blanks
around it, or blanks alone if the value cannot be taken to begin with such a sign. -/
inductive WritesSeparator (value : List Char) : List Char → Prop where
  | sign {sign : Char} {before after : List Char} (isSign : sign = '=' ∨ sign = ':')
      (blanksBefore : Script.AreBlanks before) (blanksAfter : Script.AreBlanks after) :
      WritesSeparator value (before ++ sign :: after)
  | blanks {gap : List Char} (blanks : Script.AreBlanks gap) (nonempty : gap ≠ [])
      (noSign : value.head? ≠ some '=' ∧ value.head? ≠ some ':') : WritesSeparator value gap

/-- The forms of a value, which may be broken before each of its characters that is not blank. -/
inductive WritesValue : List Char → List Char → Prop where
  | nil : WritesValue [] []
  | plain {c : Char} {value text : List Char} (others : WritesValue value text) :
      WritesValue (c :: value) (c :: text)
  | broken {c : Char} {value lineEnd indent text : List Char} (solid : Text.isBlank c = false)
      (isEnd : IsLineEnd lineEnd) (spaces : AreSpaces indent)
      (others : WritesValue (c :: value) text) :
      WritesValue (c :: value) ('\\' :: (lineEnd ++ (indent ++ text)))

/-- The forms of a logical line without its end, and of the lines that are skipped. -/
inductive WritesLine : List (String × String) → List Char → Prop where
  | blank {gap : List Char} (spaces : AreSpaces gap) : WritesLine [] gap
  | comment {mark : Char} {indent body : List Char} (spaces : AreSpaces indent)
      (isMark : mark = '#' ∨ mark = '!') (oneLine : '\n' ∉ body) :
      WritesLine [] (indent ++ mark :: body)
  | pair {key value : String} {indent separator text : List Char} (spaces : AreSpaces indent)
      (separates : WritesSeparator value.toList separator)
      (writes : WritesValue value.toList text) :
      WritesLine [(key, value)] (indent ++ (key.toList ++ (separator ++ text)))

/-- The forms of a list of pairs.  The last line may go without an end. -/
inductive WritesLines : List (String × String) → List Char → Prop where
  | last {pairs : List (String × String)} {text : List Char} (line : WritesLine pairs text) :
      WritesLines pairs text
  | line {first pairs : List (String × String)} {text lineEnd rest : List Char}
      (line : WritesLine first text) (isEnd : IsLineEnd lineEnd) (others : WritesLines pairs rest) :
      WritesLines (first ++ pairs) (text ++ (lineEnd ++ rest))

/-- Whether a text is a layout of a list of pairs. -/
def IsWritten (pairs : List (String × String)) (text : String) : Prop :=
  WritesLines pairs text.toList

variable {pairs : List (String × String)} {others : List (List Char)}
  {s key value separator front text tail lineEnd rest : List Char}

/-! ## Blanks at the ends -/

theorem trimStart_append_cons {c : Char} (solid : Text.isBlank c = false) (s t : List Char) :
    Text.trimStart (s ++ c :: t) = Text.trimStart s ++ c :: t := by
  rw [Text.trimStart, Text.trimStart, List.dropWhile_append]
  split
  · rename_i empty
    simp [List.isEmpty_iff.mp empty, solid]
  · rfl

theorem trimStart_append (blank : ∀ c ∈ front, Text.isBlank c) (s : List Char) :
    Text.trimStart (front ++ s) = Text.trimStart s :=
  List.dropWhile_append_of_pos blank

/-! ## The lines of a text -/

theorem lines_append_feed (oneLine : '\n' ∉ text) (rest : List Char) :
    Text.lines (text ++ '\n' :: rest) = Text.dropReturn text :: Text.lines rest := by
  have pieces : Text.split '\n' rest ≠ [] := Text.split_ne_nil _ _
  simp only [Text.lines, Text.split_append_cons, Text.split_of_not_mem oneLine]
  have last : ([text] ++ Text.split '\n' rest).getLastD [] =
      (Text.split '\n' rest).getLastD [] := by
    cases cut : Text.split '\n' rest with
    | nil => exact absurd cut pieces
    | cons piece more => rfl
  rw [last, List.singleton_append, List.dropLast_cons_of_ne_nil pieces, List.map_cons,
    List.cons_append]

theorem lines_of_oneLine (oneLine : '\n' ∉ text) (nonempty : text ≠ []) :
    Text.lines text = [text] := by
  simp [Text.lines, Text.split_of_not_mem oneLine, nonempty]

/-- Up to the end of a line there is one line, perhaps with a carriage return less. -/
theorem lines_append_lineEnd (oneLine : '\n' ∉ text) (isEnd : IsLineEnd lineEnd)
    (rest : List Char) :
    ∃ line, (line = text ∨ line = Text.dropReturn text) ∧
      Text.lines (text ++ (lineEnd ++ rest)) = line :: Text.lines rest := by
  cases isEnd with
  | feed => exact ⟨_, .inr rfl, lines_append_feed oneLine rest⟩
  | returnFeed =>
      have same : text ++ (['\r', '\n'] ++ rest) = (text ++ ['\r']) ++ '\n' :: rest := by simp
      refine ⟨_, .inl rfl, ?_⟩
      rw [same, lines_append_feed (by simpa using oneLine), Text.dropReturn,
        if_pos List.getLast?_concat, List.dropLast_concat]

theorem dropReturn_eq_self (noReturn : text.getLast? ≠ some '\r') : Text.dropReturn text = text :=
  if_neg noReturn

theorem isSkipped_dropReturn (text : List Char) :
    isSkipped (Text.trimStart (Text.dropReturn text)) = isSkipped (Text.trimStart text) := by
  by_cases ends : text.getLast? = some '\r'
  · obtain ⟨front, rfl⟩ := List.getLast?_eq_some_iff.mp ends
    rw [Text.dropReturn, if_pos ends, List.dropLast_concat, Text.trimStart, Text.trimStart,
      List.dropWhile_append]
    split
    · rename_i empty
      rw [List.isEmpty_iff.mp empty]
      decide
    · rename_i solid
      exact (isSkipped_append (by simpa using solid) _).symm
  · rw [dropReturn_eq_self ends]

/-- What may follow a line, and the natural lines that stand there. -/
inductive Closes : List Char → List (List Char) → Prop where
  | atEnd : Closes [] []
  | lineEnd {lineEnd : List Char} (isEnd : IsLineEnd lineEnd) (rest : List Char) :
      Closes (lineEnd ++ rest) (Text.lines rest)

theorem Closes.lines_eq (closes : Closes tail others) (nonempty : text ≠ []) (oneLine : '\n' ∉ text)
    (noReturn : text.getLast? ≠ some '\r') : Text.lines (text ++ tail) = text :: others := by
  cases closes with
  | atEnd => rw [List.append_nil, lines_of_oneLine oneLine nonempty]
  | lineEnd isEnd rest =>
      obtain ⟨line, same, cut⟩ := lines_append_lineEnd oneLine isEnd rest
      rw [dropReturn_eq_self noReturn, or_self] at same
      rw [cut, same]

/-- A blank line or comment between logical lines adds none. -/
theorem Closes.makeUp_of_isSkipped (closes : Closes tail others) (oneLine : '\n' ∉ text)
    (skipped : isSkipped (Text.trimStart text)) {logical : List (List (List Char))}
    (makeUp : MakeUp others logical) : MakeUp (Text.lines (text ++ tail)) logical := by
  cases closes with
  | atEnd =>
      rw [List.append_nil]
      by_cases empty : text = []
      · rw [empty]
        exact makeUp
      · rw [lines_of_oneLine oneLine empty]
        exact .skipped skipped makeUp
  | lineEnd isEnd rest =>
      obtain ⟨line, same, cut⟩ := lines_append_lineEnd oneLine isEnd rest
      rw [cut]
      refine .skipped ?_ makeUp
      rcases same with rfl | rfl
      · exact skipped
      · rw [isSkipped_dropReturn, skipped]

/-! ## The logical line of a pair -/

theorem AreSpaces.plain (spaces : AreSpaces s) : ∀ c ∈ s, c ≠ '\n' ∧ c ≠ '\\' := by
  intro c member
  obtain ⟨blank, noFeed⟩ := spaces c member
  refine ⟨noFeed, ?_⟩
  rintro rfl
  revert blank
  decide

/-- The natural lines of a broken value, with what stands before it on its first line and what
follows its last one, are those of one logical line. -/
theorem exists_lines (writes : WritesValue value text)
    (plainFront : ∀ c ∈ front, c ≠ '\n' ∧ c ≠ '\\') (plain : ∀ c ∈ value, c ≠ '\n' ∧ c ≠ '\\')
    (solid : front ++ value ≠ []) (noReturn : (front ++ value).getLast? ≠ some '\r')
    (closes : Closes tail others) :
    ∃ natural, Text.lines (front ++ (text ++ tail)) = natural ++ others ∧ natural ≠ [] ∧
      (∀ line ∈ natural.dropLast, goesOn line) ∧ IsFinished natural ∧
      content natural = Text.trimStart (front ++ value) := by
  induction writes generalizing front with
  | nil =>
      rw [List.append_nil] at solid noReturn ⊢
      have oneLine : '\n' ∉ front := fun inside => (plainFront _ inside).1 rfl
      have ends : goesOn front = false := by
        refine Bool.eq_false_iff.mpr fun goesOn => ?_
        obtain ⟨before, same⟩ := exists_of_isContinued goesOn
        have inside : '\\' ∈ Text.trimStart front := by rw [same]; simp
        exact (plainFront _ (List.dropWhile_sublist _ |>.subset inside)).2 rfl
      refine ⟨[front], closes.lines_eq solid oneLine noReturn, by simp, by simp, ?_, ?_⟩
      · rintro _ ⟨⟩
        exact ends
      · simp [content, piece, ends]
  | @plain c value text _ ih =>
      obtain ⟨here, plain⟩ := List.forall_mem_cons.mp plain
      have moved (behind : List Char) : front ++ c :: behind = (front ++ [c]) ++ behind := by simp
      rw [moved value] at solid noReturn
      rw [List.cons_append, moved (text ++ tail), moved value]
      refine ih (fun d member => ?_) plain solid noReturn
      rcases List.mem_append.mp member with before | atEnd
      · exact plainFront d before
      · exact List.mem_singleton.mp atEnd ▸ here
  | @broken c value lineEnd indent text solidHere isEnd spaces _ ih =>
      have ownReturn : (indent ++ c :: value).getLast? ≠ some '\r' := by
        rwa [List.getLast?_append_cons] at noReturn ⊢
      obtain ⟨natural, lines, nonempty, continued, finished, whole⟩ :=
        ih spaces.plain plain (by simp) ownReturn
      have oneLine : '\n' ∉ front ++ ['\\'] := by
        have absent : '\n' ∉ front := fun inside => (plainFront _ inside).1 rfl
        simpa using absent
      have first : Text.trimStart (front ++ ['\\']) = Text.trimStart front ++ ['\\'] :=
        trimStart_append_cons (by decide) front []
      have goesOn : goesOn (front ++ ['\\']) := by
        rw [Property.goesOn, first]
        refine (isContinued_concat _ _).mpr ⟨rfl, fun last => ?_⟩
        have inside := List.dropWhile_sublist _ |>.subset (List.mem_of_getLast? last)
        exact (plainFront _ inside).2 rfl
      have cut : Text.lines (front ++ ('\\' :: (lineEnd ++ (indent ++ text)) ++ tail)) =
          (front ++ ['\\']) :: (natural ++ others) := by
        obtain ⟨line, same, cut⟩ := lines_append_lineEnd oneLine isEnd (indent ++ (text ++ tail))
        rw [dropReturn_eq_self (by simp), or_self] at same
        rw [← lines, ← same, ← cut]
        simp
      have atOnce : content natural = c :: value := by
        rw [whole, trimStart_append fun d member => (spaces d member).1]
        exact trimStart_append_cons solidHere [] value
      refine ⟨(front ++ ['\\']) :: natural, cut, by simp, ?_, ?_, ?_⟩
      · rw [List.dropLast_cons_of_ne_nil nonempty]
        exact List.forall_mem_cons.mpr ⟨goesOn, continued⟩
      · rwa [IsFinished, List.getLast?_cons_of_ne_nil nonempty]
      · rw [content, List.flatMap_cons, ← content, atOnce, piece, if_pos goesOn, first,
          List.dropLast_concat, trimStart_append_cons solidHere]

/-! ## The pair of a logical line -/

theorem WritesSeparator.exists_cons (separates : WritesSeparator value separator) :
    ∃ c more, separator = c :: more ∧ endsKey c = true := by
  cases separates with
  | @sign sign before after isSign blanks _ =>
      cases before with
      | nil => exact ⟨sign, after, rfl, by rcases isSign with rfl | rfl <;> decide⟩
      | cons c before =>
          refine ⟨c, before ++ sign :: after, rfl, ?_⟩
          rcases blanks c List.mem_cons_self with rfl | rfl <;> decide
  | blanks blanks nonempty _ =>
      obtain ⟨c, more, rfl⟩ := List.exists_cons_of_ne_nil nonempty
      exact ⟨c, more, rfl, by rcases blanks c List.mem_cons_self with rfl | rfl <;> decide⟩

theorem WritesSeparator.mem (separates : WritesSeparator value separator) :
    ∀ c ∈ separator, c = '=' ∨ c = ':' ∨ c = ' ' ∨ c = '\t' := by
  cases separates with
  | sign isSign blanksBefore blanksAfter =>
      intro c member
      rcases List.mem_append.mp member with before | behind
      · exact .inr (.inr (blanksBefore c before))
      · rcases List.mem_cons.mp behind with rfl | after
        · exact isSign.imp id .inl
        · exact .inr (.inr (blanksAfter c after))
  | blanks blanks _ _ => exact fun c member => .inr (.inr (blanks c member))

theorem WritesSeparator.plain (separates : WritesSeparator value separator) :
    ∀ c ∈ separator, c ≠ '\n' ∧ c ≠ '\\' := by
  intro c member
  rcases separates.mem c member with rfl | rfl | rfl | rfl <;> decide

theorem WritesSeparator.noReturn (separates : WritesSeparator value separator)
    (isValue : IsValue value) : (separator ++ value).getLast? ≠ some '\r' := by
  intro last
  cases value with
  | nil =>
      rw [List.append_nil] at last
      rcases separates.mem _ (List.mem_of_getLast? last) with same | same | same | same <;>
        exact absurd same (by decide)
  | cons c value =>
      rw [List.getLast?_append_cons] at last
      exact absurd (isValue.ends _ last) (by decide)

theorem IsKey.plain (isKey : IsKey key) : ∀ c ∈ key, c ≠ '\n' ∧ c ≠ '\\' := by
  intro c member
  obtain ⟨solid, -, -, noBackslash⟩ := isKey.solid c member
  refine ⟨?_, noBackslash⟩
  rintro rfl
  exact absurd solid (by decide)

theorem dropBlanks_append (blanks : Script.AreBlanks front)
    (stops : ∀ c ∈ s.head?, c ≠ ' ' ∧ c ≠ '\t') :
    (front ++ s).dropWhile (fun c => c = ' ' || c = '\t') = s :=
  Script.dropWhile_append (fun c member => by simpa using blanks c member)
    fun c first => by simpa using stops c first

/-- Behind the separator stands the value, up to blanks before it. -/
theorem trim_dropSeparator (isValue : IsValue value) (separates : WritesSeparator value separator) :
    Text.trim (dropSeparator (separator ++ value)) = value := by
  have whole : Text.trim value = value := by
    rw [Text.trim, Text.trimStart_eq_self isValue.begins, Text.trimEnd_eq_self isValue.ends]
  cases separates with
  | @sign sign before after isSign blanksBefore blanksAfter =>
      have stops : ∀ c ∈ (sign :: (after ++ value)).head?, c ≠ ' ' ∧ c ≠ '\t' := by
        rintro _ ⟨⟩
        rcases isSign with rfl | rfl <;> decide
      have dropped : dropSeparator (before ++ sign :: after ++ value) = after ++ value := by
        rw [dropSeparator, List.append_assoc, List.cons_append,
          dropBlanks_append blanksBefore stops]
        rcases isSign with rfl | rfl <;> rfl
      have blank : ∀ c ∈ after, Text.isBlank c := fun c member => by
        rcases blanksAfter c member with rfl | rfl <;> decide
      rw [dropped, Text.trim, trimStart_append blank, ← Text.trim, whole]
  | blanks blanks _ noSign =>
      have stops : ∀ c ∈ value.head?, c ≠ ' ' ∧ c ≠ '\t' := by
        intro c first
        have solid := isValue.begins c first
        constructor <;> rintro rfl <;> exact absurd solid (by decide)
      have dropped : dropSeparator (separator ++ value) = value := by
        rw [dropSeparator, dropBlanks_append blanks stops]
        split <;> simp_all
      rw [dropped, whole]

theorem pair_append (isKey : IsKey key) (isValue : IsValue value)
    (separates : WritesSeparator value separator) :
    pair (key ++ (separator ++ value)) = (String.ofList key, String.ofList value) := by
  have inKey : ∀ c ∈ key, (!endsKey c) = true := by
    intro c member
    obtain ⟨solid, noEquals, noColon, -⟩ := isKey.solid c member
    have noSpace : c ≠ ' ' ∧ c ≠ '\t' := by
      constructor <;> rintro rfl <;> exact absurd solid (by decide)
    simp [endsKey, noEquals, noColon, noSpace]
  have stops : ∀ c ∈ (separator ++ value).head?, (!endsKey c) = false := by
    obtain ⟨c, more, rfl, ends⟩ := separates.exists_cons
    rintro _ ⟨⟩
    simp [ends]
  have solid : Text.trimEnd key = key := Text.trimEnd_eq_self fun c last =>
    (isKey.solid c (List.mem_of_getLast? last)).1
  have nonempty : separator ++ value ≠ [] := by
    obtain ⟨c, more, rfl, -⟩ := separates.exists_cons
    simp
  rw [pair]
  simp only [Script.takeWhile_append inKey stops, Script.dropWhile_append inKey stops, nonempty,
    if_false, solid, trim_dropSeparator isValue separates]

/-! ## The logical lines of a layout -/

/-- The logical lines that one line of a layout begins: one for a pair, and none for a line that is
skipped. -/
theorem WritesLine.exists_makeUp {first : List (String × String)} (line : WritesLine first text)
    (areKeys : ∀ pair ∈ first, IsKey pair.1.toList)
    (areValues : ∀ pair ∈ first, IsValue pair.2.toList) (closes : Closes tail others)
    {logical : List (List (List Char))} (makeUp : MakeUp others logical) :
    ∃ own, MakeUp (Text.lines (text ++ tail)) (own ++ logical) ∧ pairsOf own = first ∧
      ∀ lines ∈ own, IsRead lines := by
  cases line with
  | blank spaces =>
      refine ⟨[], closes.makeUp_of_isSkipped (fun inside => (spaces _ inside).2 rfl) ?_ makeUp, rfl,
        by simp⟩
      have nothing := trimStart_append (fun c member => (spaces c member).1) []
      rw [List.append_nil] at nothing
      rw [nothing]
      rfl
  | @comment mark indent body spaces isMark oneLine =>
      have solid : Text.isBlank mark = false := by rcases isMark with rfl | rfl <;> decide
      have noFeed : '\n' ∉ indent ++ mark :: body := by
        have indented : '\n' ∉ indent := fun inside => (spaces _ inside).2 rfl
        rcases isMark with rfl | rfl <;> simp [indented, oneLine]
      refine ⟨[], closes.makeUp_of_isSkipped noFeed ?_ makeUp, rfl, by simp⟩
      have begins : ∀ c ∈ (mark :: body).head?, Text.isBlank c = false := by
        rintro _ ⟨⟩
        exact solid
      rw [trimStart_append fun c member => (spaces c member).1, Text.trimStart_eq_self begins]
      rcases isMark with rfl | rfl <;> rfl
  | @pair key value indent separator text spaces separates writes =>
      have isKey := areKeys _ List.mem_cons_self
      have isValue := areValues _ List.mem_cons_self
      obtain ⟨sign, more, isCons, -⟩ := separates.exists_cons
      have plain : ∀ c ∈ indent ++ (key.toList ++ separator), c ≠ '\n' ∧ c ≠ '\\' := by
        simp only [List.forall_mem_append]
        exact ⟨spaces.plain, isKey.plain, separates.plain⟩
      have noReturn :
          (indent ++ (key.toList ++ separator) ++ value.toList).getLast? ≠ some '\r' := by
        rw [List.append_assoc, List.append_assoc, ← List.append_assoc, isCons, List.cons_append,
          List.getLast?_append_cons, ← List.cons_append, ← isCons]
        exact separates.noReturn isValue
      obtain ⟨natural, cut, nonempty, continued, finished, whole⟩ :=
        exists_lines writes plain isValue.plain (by simp [isCons]) noReturn closes
      have line : content natural = key.toList ++ (separator ++ value.toList) := by
        have begins : ∀ c ∈ (key.toList ++ (separator ++ value.toList)).head?,
            Text.isBlank c = false := by
          rw [List.head?_append_of_ne_nil _ isKey.nonempty]
          exact fun c first => (isKey.solid c (List.mem_of_head? first)).1
        rw [whole, List.append_assoc, trimStart_append fun c member => (spaces c member).1,
          List.append_assoc, Text.trimStart_eq_self begins]
      have kept : isSkipped (content natural) = false := by
        rw [line, isSkipped_append isKey.nonempty]
        exact isKey.noComment
      have solid : content natural ≠ [] := ne_nil_of_not_isSkipped kept
      have isLogical : IsLogicalLine natural :=
        ⟨nonempty, begins_of_content nonempty continued kept, continued⟩
      refine ⟨[natural], ?_, ?_, ?_⟩
      · have same : indent ++ (key.toList ++ (separator ++ text)) ++ tail =
            indent ++ (key.toList ++ separator) ++ (text ++ tail) := by simp
        rw [same, cut]
        exact .logical isLogical (.inl finished) makeUp
      · rw [pairsOf_cons, if_neg solid, line, pair_append isKey isValue separates]
        simp [pairsOf]
      · rintro lines member
        rw [List.mem_singleton.mp member]
        exact ⟨finished, kept⟩

/-- The logical lines of a layout are its pairs, and all of them are read. -/
theorem WritesLines.exists_makeUp (writes : WritesLines pairs text)
    (areKeys : ∀ pair ∈ pairs, IsKey pair.1.toList)
    (areValues : ∀ pair ∈ pairs, IsValue pair.2.toList) :
    ∃ logical, MakeUp (Text.lines text) logical ∧ pairsOf logical = pairs ∧
      ∀ lines ∈ logical, IsRead lines := by
  induction writes with
  | last line =>
      obtain ⟨own, makeUp, same, areRead⟩ := line.exists_makeUp areKeys areValues .atEnd .nothing
      rw [List.append_nil, List.append_nil] at makeUp
      exact ⟨own, makeUp, same, areRead⟩
  | line line isEnd _ ih =>
      obtain ⟨firstKeys, areKeys⟩ := List.forall_mem_append.mp areKeys
      obtain ⟨firstValues, areValues⟩ := List.forall_mem_append.mp areValues
      obtain ⟨logical, makeUp, same, areRead⟩ := ih areKeys areValues
      obtain ⟨own, makeUp, own_same, ownRead⟩ :=
        line.exists_makeUp firstKeys firstValues (.lineEnd isEnd _) makeUp
      refine ⟨own ++ logical, makeUp, ?_, List.forall_mem_append.mpr ⟨ownRead, areRead⟩⟩
      rw [← same, ← own_same]
      simp [pairsOf]

theorem writesValue_self (value : List Char) : WritesValue value value := by
  induction value with
  | nil => exact .nil
  | cons c value ih => exact .plain ih

/-- Every list of pairs has a layout, such as the one with a pair on each line. -/
theorem exists_isWritten (pairs : List (String × String)) : ∃ text, IsWritten pairs text := by
  have writes : WritesLines pairs
      (pairs.flatMap fun pair => pair.1.toList ++ '=' :: (pair.2.toList ++ ['\n'])) := by
    induction pairs with
    | nil => exact .last (.blank (by simp [AreSpaces]))
    | cons pair pairs ih =>
        have line : WritesLine [pair]
            ([] ++ (pair.1.toList ++ (([] ++ '=' :: []) ++ pair.2.toList))) :=
          .pair (by simp [AreSpaces]) (.sign (.inl rfl) (by simp [Script.AreBlanks])
            (by simp [Script.AreBlanks])) (writesValue_self _)
        simpa using WritesLines.line line .feed ih
  exact ⟨String.ofList _, by rwa [IsWritten, String.toList_ofList]⟩

/-- Every list of pairs has layouts, and each of them is read as that list. -/
theorem parseFile_undoes_writing (areKeys : ∀ pair ∈ pairs, IsKey pair.1.toList)
    (areValues : ∀ pair ∈ pairs, IsValue pair.2.toList) :
    (∃ text, IsWritten pairs text) ∧ ∀ text, IsWritten pairs text → parseFile text = pairs := by
  refine ⟨exists_isWritten pairs, fun text isWritten => ?_⟩
  obtain ⟨logical, makeUp, same, areRead⟩ := WritesLines.exists_makeUp isWritten areKeys areValues
  rw [parseFile, makeUp.logicalLines_eq, ← same]
  exact (flatMap_eq_pairsOf_iff makeUp.areLogical).mpr fun lines member _ => areRead lines member

/-- A value that begins as a separator and is broken before what looks like a comment, between lines
that are skipped. -/
theorem parseFile_brokenValue :
    (∀ pair ∈ [("k", "=a #b"), ("e", "")], IsKey pair.1.toList) ∧
      (∀ pair ∈ [("k", "=a #b"), ("e", "")], IsValue pair.2.toList) ∧
      IsWritten [("k", "=a #b"), ("e", "")] "! c\\\n\r\n k = =a \\\r\n\t#b\ne\t" ∧
      parseFile "! c\\\n\r\n k = =a \\\r\n\t#b\ne\t" = [("k", "=a #b"), ("e", "")] := by
  have isKey : IsKey "k".toList ∧ IsKey "e".toList :=
    ⟨⟨by simp, by simp; decide, by decide⟩, by simp, by simp; decide, by decide⟩
  have isValue : IsValue "=a #b".toList ∧ IsValue "".toList :=
    ⟨⟨by simp, by simp; decide, by simp; decide⟩, by simp, by simp, by simp⟩
  have areKeys : ∀ pair ∈ [("k", "=a #b"), ("e", "")], IsKey pair.1.toList :=
    List.forall_mem_cons.mpr ⟨isKey.1, List.forall_mem_singleton.mpr isKey.2⟩
  have areValues : ∀ pair ∈ [("k", "=a #b"), ("e", "")], IsValue pair.2.toList :=
    List.forall_mem_cons.mpr ⟨isValue.1, List.forall_mem_singleton.mpr isValue.2⟩
  have comment : WritesLine [] ([] ++ '!' :: " c\\".toList) :=
    .comment (by simp [AreSpaces]) (.inr rfl) (by decide)
  have blank : WritesLine [] [] := .blank (by simp [AreSpaces])
  have value : WritesValue "=a #b".toList
      ("=a ".toList ++ '\\' :: (['\r', '\n'] ++ (['\t'] ++ "#b".toList))) :=
    .plain (.plain (.plain (.broken (by decide) .returnFeed (by simp [AreSpaces]; decide)
      (writesValue_self _))))
  have first : WritesLine [("k", "=a #b")] ([' '] ++ ("k".toList ++ (([' '] ++ '=' :: [' ']) ++
      ("=a ".toList ++ '\\' :: (['\r', '\n'] ++ (['\t'] ++ "#b".toList)))))) :=
    .pair (by simp [AreSpaces]; decide)
      (.sign (.inl rfl) (by simp [Script.AreBlanks]) (by simp [Script.AreBlanks])) value
  have second : WritesLine [("e", "")] ([] ++ ("e".toList ++ (['\t'] ++ []))) :=
    .pair (by simp [AreSpaces]) (.blanks (by simp [Script.AreBlanks]) (by decide) (by decide)) .nil
  have isWritten : IsWritten [("k", "=a #b"), ("e", "")]
      "! c\\\n\r\n k = =a \\\r\n\t#b\ne\t" :=
    .line comment .feed (.line blank .returnFeed (.line first .feed (.last second)))
  exact ⟨areKeys, areValues, isWritten, (parseFile_undoes_writing areKeys areValues).2 _ isWritten⟩

end Migration.Property
