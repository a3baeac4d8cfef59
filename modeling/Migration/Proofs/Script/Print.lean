import Migration.Proofs.Script.Parse

/-!
# Printing scripts

A layout on one line for every script tree that has a layout up to its lines: texts and keys stand
between double quotes, and one blank wherever something has to stand.  The main statement,
`parse_undoes_writing`, is about all layouts.
-/

namespace Migration

namespace Script

/-! ## The printer -/

/-- A character as it stands between double quotes. -/
def escape (c : Char) : List Char :=
  if c = '\n' then ['\\', 'n'] else if c = '"' || c = '\\' then ['\\', c] else [c]

def printText (s : String) : List Char :=
  '"' :: (s.toList.flatMap escape ++ ['"'])

def printInt (n : Int64) : List Char :=
  if n.toInt < 0 then '-' :: Nat.toDigits 10 n.toInt.natAbs else Nat.toDigits 10 n.toInt.natAbs

/-- Texts with commas between them. -/
def printList : List (List Char) → List Char
  | [] => []
  | text :: texts => text ++ texts.flatMap fun text => ',' :: ' ' :: text

mutual
def printValue : Literal → List Char
  | .str s => printText s
  | .int n => printInt n
  | .float _ => []
  | .bool true => "true".toList
  | .bool false => "false".toList
  | .null => "null".toList
  | .reference name => name.toList
  | .list items => '[' :: (printList (printValues items) ++ [']'])
def printValues : List Literal → List (List Char)
  | [] => []
  | value :: values => printValue value :: printValues values
end

def printArgument : Argument → List Char
  | ⟨none, value⟩ => printValue value
  | ⟨some key, value⟩ => printText key ++ ':' :: ' ' :: printValue value

def printHead (name : String) (arguments : List Argument) : List Char :=
  name.toList ++ '(' :: (printList (arguments.map printArgument) ++ [')'])

mutual
def printElement : Element → List Char
  | ⟨name, arguments, none, _⟩ => printHead name arguments
  | ⟨name, arguments, some items, _⟩ =>
      printHead name arguments ++ ' ' :: '{' :: (printItems items ++ [' ', '}'])
def printItems : List (Item Element) → List Char
  | [] => []
  | .text s :: items => ' ' :: (printText s ++ printItems items)
  | .element e :: items => ' ' :: (printElement e ++ printItems items)
end

def print (script : Script) : String :=
  String.ofList (script.elements.flatMap fun e => ' ' :: printElement e)

/-! ## What can be printed -/

mutual
/-- An element with all that is in its block on the first line. -/
def onFirstLine : Element → Element
  | ⟨name, arguments, none, _⟩ => ⟨name, arguments, none, 1⟩
  | ⟨name, arguments, some items, _⟩ => ⟨name, arguments, some (itemsOnFirstLine items), 1⟩
def itemsOnFirstLine : List (Item Element) → List (Item Element)
  | [] => []
  | .text s :: items => .text s :: itemsOnFirstLine items
  | .element e :: items => .element (onFirstLine e) :: itemsOnFirstLine items
end

/-- Whether a value has a written form. -/
inductive IsPrintable : Literal → Prop where
  | str (s : String) : IsPrintable (.str s)
  | int (n : Int64) : IsPrintable (.int n)
  | bool (b : Bool) : IsPrintable (.bool b)
  | null : IsPrintable .null
  | reference {name : String} (isName : IsName name.toList)
      (noKeyword : name ∉ ["true", "false", "null"]) : IsPrintable (.reference name)
  | list {items : List Literal} (each : ∀ item ∈ items, IsPrintable item) :
      IsPrintable (.list items)

/-- Whether an element has a written form, whatever its line is. -/
inductive IsPrintableElement : Element → Prop where
  | plain {name : String} {arguments : List Argument} {line : Nat} (isName : IsName name.toList)
      (values : ∀ a ∈ arguments, IsPrintable a.value) :
      IsPrintableElement ⟨name, arguments, none, line⟩
  | block {name : String} {arguments : List Argument} {items : List (Item Element)} {line : Nat}
      (isName : IsName name.toList) (values : ∀ a ∈ arguments, IsPrintable a.value)
      (elements : ∀ e, .element e ∈ items → IsPrintableElement e) :
      IsPrintableElement ⟨name, arguments, some items, line⟩

/-! ## The printer writes layouts -/

theorem lineFeeds_eq_zero {s : List Char} : lineFeeds s = 0 ↔ '\n' ∉ s :=
  List.count_eq_zero

theorem IsName.lineFeeds {text : List Char} (isName : IsName text) : lineFeeds text = 0 := by
  rw [lineFeeds_eq_zero]
  cases isName with
  | intro start others =>
      rintro (_ | ⟨_, isIn⟩)
      · revert start
        decide
      · exact absurd (others _ isIn) (by decide)

/-- A text on the first line, with a blank before it, leaves what follows it on that line. -/
theorem lineFeeds_blank {text : List Char} (oneLine : lineFeeds text = 0) :
    0 + lineFeeds ([' '] ++ text) = 0 := by
  rw [lineFeeds_append, oneLine]
  rfl

theorem writesShort_escape (content : List Char) :
    WritesShort '"' content (content.flatMap escape) ∧
      lineFeeds (content.flatMap escape) = 0 := by
  induction content with
  | nil => exact ⟨.nil, rfl⟩
  | cons c content ih =>
      obtain ⟨writes, oneLine⟩ := ih
      rw [List.flatMap_cons, lineFeeds_append, oneLine]
      by_cases isFeed : c = '\n'
      · rw [isFeed]
        exact ⟨@WritesShort.escaped '"' 'n' _ _ writes, by decide⟩
      · by_cases isEscaped : (c = '"' || c = '\\')
        · have same : unescape c = c := by
            simp only [Bool.or_eq_true, decide_eq_true_eq] at isEscaped
            rcases isEscaped with rfl | rfl <;> decide
          have escaped := @WritesShort.escaped '"' c _ _ writes
          rw [same] at escaped
          rw [escape, if_neg isFeed, if_pos isEscaped]
          exact ⟨escaped, by simp [lineFeeds_cons, isFeed]; rfl⟩
        · obtain ⟨noQuote, noEscape⟩ : c ≠ '"' ∧ c ≠ '\\' := by simpa using isEscaped
          rw [escape, if_neg isFeed, if_neg isEscaped]
          exact ⟨.plain noQuote noEscape writes, by simp [lineFeeds_cons, isFeed]; rfl⟩

theorem writesText_print (s : String) :
    WritesText s (printText s) ∧ lineFeeds (printText s) = 0 := by
  obtain ⟨writes, oneLine⟩ := writesShort_escape s.toList
  refine ⟨.short (by decide) writes, ?_⟩
  rw [printText, lineFeeds_cons (by decide), lineFeeds_append, oneLine]
  rfl

theorem writesInt_print (n : Int64) : WritesInt n (printInt n) ∧ lineFeeds (printInt n) = 0 := by
  have oneLine (size : Nat) : lineFeeds (Nat.toDigits 10 size) = 0 := by
    rw [lineFeeds_eq_zero]
    exact fun isIn => absurd (Number.isDigit_of_mem_toDigits isIn) (by decide)
  unfold printInt
  split
  next isNegative =>
    refine ⟨.negative (Number.isDigits_toDigits _) ?_, ?_⟩
    · rw [Number.ofDigits_toDigits]
      omega
    · rw [lineFeeds_cons (by decide), oneLine]
  next notNegative =>
    refine ⟨.natural (Number.isDigits_toDigits _) ?_, oneLine _⟩
    rw [Number.ofDigits_toDigits]
    omega

section

variable {α : Type} {writes : α → List Char → Prop} {print : α → List Char}

theorem writesMore_print {items : List α}
    (each : ∀ item ∈ items, writes item (print item) ∧ lineFeeds (print item) = 0) :
    WritesMore writes items ((items.map print).flatMap fun text => ',' :: ' ' :: text) ∧
      lineFeeds ((items.map print).flatMap fun text => ',' :: ' ' :: text) = 0 := by
  induction items with
  | nil => exact ⟨.nil, rfl⟩
  | cons item items ih =>
      obtain ⟨⟨first, oneLine⟩, others⟩ := List.forall_mem_cons.mp each
      obtain ⟨more, moreOneLine⟩ := ih others
      have blank : IsTrivia [' '] := .blank (by decide) .nil
      refine ⟨.cons .nil blank first more, ?_⟩
      simp only [List.map_cons, List.flatMap_cons, lineFeeds_append, moreOneLine]
      rw [lineFeeds_cons (by decide), lineFeeds_cons (by decide), oneLine]

theorem writesList_print {items : List α}
    (each : ∀ item ∈ items, writes item (print item) ∧ lineFeeds (print item) = 0) :
    WritesList writes items (printList (items.map print)) ∧
      lineFeeds (printList (items.map print)) = 0 := by
  cases items with
  | nil => exact ⟨.empty .nil, rfl⟩
  | cons item items =>
      obtain ⟨⟨first, oneLine⟩, others⟩ := List.forall_mem_cons.mp each
      obtain ⟨more, moreOneLine⟩ := writesMore_print others
      have list := WritesList.items .nil first more (.trivia .nil)
      rw [List.append_nil] at list
      refine ⟨list, ?_⟩
      rw [List.map_cons, printList, lineFeeds_append, oneLine, moreOneLine]

end

theorem printValues_eq_map (values : List Literal) :
    printValues values = values.map printValue := by
  induction values with
  | nil => rfl
  | cons value values ih => rw [printValues, ih, List.map_cons]

theorem writesValue_print {value : Literal} (printable : IsPrintable value) :
    WritesValue value (printValue value) ∧ lineFeeds (printValue value) = 0 := by
  induction printable with
  | str s =>
      obtain ⟨writes, oneLine⟩ := writesText_print s
      exact ⟨.str writes, oneLine⟩
  | int n =>
      obtain ⟨writes, oneLine⟩ := writesInt_print n
      exact ⟨.int writes, oneLine⟩
  | bool b =>
      cases b with
      | true => exact ⟨.yes, by decide⟩
      | false => exact ⟨.no, by decide⟩
  | null => exact ⟨.null, by decide⟩
  | reference isName noKeyword => exact ⟨.reference isName noKeyword, isName.lineFeeds⟩
  | list _ ih =>
      obtain ⟨writes, oneLine⟩ := writesList_print ih
      rw [printValue, printValues_eq_map, lineFeeds_cons (by decide), lineFeeds_append, oneLine]
      exact ⟨.list writes, rfl⟩

theorem writesArgument_print {a : Argument} (printable : IsPrintable a.value) :
    WritesArgument a (printArgument a) ∧ lineFeeds (printArgument a) = 0 := by
  obtain ⟨writes, oneLine⟩ := writesValue_print printable
  match a with
  | ⟨none, value⟩ => exact ⟨.positional writes, oneLine⟩
  | ⟨some key, value⟩ =>
      obtain ⟨writesKey, keyOneLine⟩ := writesText_print key
      refine ⟨@WritesArgument.named key value _ [] [' '] _ (.quoted writesKey) .nil
        (.blank (by decide) .nil) writes, ?_⟩
      rw [printArgument, lineFeeds_append, keyOneLine, lineFeeds_cons (by decide),
        lineFeeds_cons (by decide), oneLine]

theorem writesHead_print {name : String} {arguments : List Argument} (isName : IsName name.toList)
    (values : ∀ a ∈ arguments, IsPrintable a.value) :
    WritesHead name arguments (printHead name arguments) ∧
      lineFeeds (printHead name arguments) = 0 := by
  obtain ⟨list, oneLine⟩ := writesList_print fun a isIn => writesArgument_print (values a isIn)
  refine ⟨@WritesHead.intro name arguments [] _ isName (by simp [AreBlanks]) list, ?_⟩
  rw [printHead, lineFeeds_append, isName.lineFeeds, lineFeeds_cons (by decide), lineFeeds_append,
    oneLine]
  rfl

/-- The items of a block are written when its elements are. -/
theorem writesItems_print {items : List (Item Element)}
    (each : ∀ e, .element e ∈ items →
      WritesElement 0 (onFirstLine e) (printElement e) ∧ lineFeeds (printElement e) = 0)
    (first : Bool) :
    WritesItems 0 first (itemsOnFirstLine items) (printItems items ++ [' ']) ∧
      lineFeeds (printItems items) = 0 := by
  have blank : IsTrivia [' '] := .blank (by decide) .nil
  induction items generalizing first with
  | nil => exact ⟨.done blank, rfl⟩
  | cons item items ih =>
      obtain ⟨others, othersOneLine⟩ :=
        ih (fun e isIn => each e (List.mem_cons_of_mem _ isIn)) false
      match item with
      | .text s =>
          obtain ⟨writes, oneLine⟩ := writesText_print s
          rw [← lineFeeds_blank oneLine] at others
          rw [printItems, List.cons_append, List.append_assoc, lineFeeds_cons (by decide),
            lineFeeds_append, oneLine, othersOneLine]
          exact ⟨.text blank (by simp) writes others, rfl⟩
      | .element e =>
          obtain ⟨writes, oneLine⟩ := each e List.mem_cons_self
          rw [← lineFeeds_blank oneLine] at others
          rw [printItems, List.cons_append, List.append_assoc, lineFeeds_cons (by decide),
            lineFeeds_append, oneLine, othersOneLine]
          exact ⟨.element blank (by simp) writes others, rfl⟩

theorem writesElement_print {e : Element} (printable : IsPrintableElement e) :
    WritesElement 0 (onFirstLine e) (printElement e) ∧ lineFeeds (printElement e) = 0 := by
  induction printable with
  | plain isName values =>
      obtain ⟨head, oneLine⟩ := writesHead_print isName values
      exact ⟨.plain head, oneLine⟩
  | @block name arguments items _ isName values _ ih =>
      obtain ⟨head, oneLine⟩ := writesHead_print isName values
      obtain ⟨writes, itemsOneLine⟩ := writesItems_print ih true
      have noFeed : 0 + lineFeeds (printHead name arguments ++ [' ']) = 0 := by
        rw [lineFeeds_append, oneLine]
        rfl
      rw [← noFeed] at writes
      have written := WritesElement.block head (.blank (by decide) .nil) writes
      rw [printElement, onFirstLine, lineFeeds_append, oneLine, lineFeeds_cons (by decide),
        lineFeeds_cons (by decide), lineFeeds_append, itemsOneLine]
      exact ⟨by simpa using written, rfl⟩

end Script

/-- Every script of printable elements has a layout. -/
theorem Script.isWritten_print {script : Script}
    (printable : ∀ e ∈ script.elements, IsPrintableElement e) :
    (Script.mk (script.elements.map onFirstLine)).IsWritten script.print := by
  have blank : IsTrivia [' '] := .blank (by decide) .nil
  obtain ⟨elements⟩ := script
  rw [IsWritten, print, String.toList_ofList]
  induction elements with
  | nil => exact .done .nil
  | cons e elements ih =>
      obtain ⟨first, others⟩ := List.forall_mem_cons.mp printable
      obtain ⟨writes, oneLine⟩ := writesElement_print first
      have more := ih others
      rw [← lineFeeds_blank oneLine] at more
      exact .element blank writes more

/-- Parsing undoes writing: every layout of a script is read as that script, with each element on
the line of its name.  There is a layout for every script of names, values and texts that can be
printed, up to the lines, which are those of the layout. -/
theorem Script.parse_undoes_writing :
    (∀ (script : Script) (source : String), script.IsWritten source →
      Script.parse source = .ok script) ∧
    ∀ script : Script, (∀ e ∈ script.elements, IsPrintableElement e) →
      (Script.mk (script.elements.map onFirstLine)).IsWritten script.print :=
  ⟨fun _ _ => parse_eq_ok, fun _ => isWritten_print⟩

/-- A layout with comments, all kinds of quotes, a comma behind the last item of a list and the
least integer of 64 bits. -/
def Script.sampleLayout : String :=
  r#"// amy
changeSet(id: 'a\'', "n":[-9223372036854775808, x,])/**/{
'''b'''; drop (1)
}"#

def Script.sample : Script :=
  ⟨[⟨"changeSet", [⟨some "id", .str "a'"⟩,
      ⟨some "n", .list [.int Int64.minValue, .reference "x"]⟩],
    some [.text "b", .element ⟨"drop", [⟨none, .int 1⟩], none, 3⟩], 2⟩]⟩

theorem Script.sample_isWritten : sample.IsWritten sampleLayout := by
  have blank : IsTrivia [' '] := .blank (by decide) .nil
  have newline : IsTrivia ['\n'] := .blank (by decide) .nil
  have isName {c : Char} {s : List Char} (start : isNameStart c) (others : s.all isNameChar) :
      IsName (c :: s) := .intro start (List.all_eq_true.mp others)
  have text : WritesText "a'" "'a\\''".toList :=
    @WritesText.short "a'" '\'' ['a', '\\', '\''] (by decide)
      (.plain (by decide) (by decide) (@WritesShort.escaped '\'' '\'' [] [] .nil))
  have least : WritesValue (.int Int64.minValue) "-9223372036854775808".toList :=
    .int (@WritesInt.negative _ "9223372036854775808".toList (by decide) (by decide))
  have reference : WritesValue (.reference "x") "x".toList :=
    @WritesValue.reference "x" (isName (by decide) (by decide)) (by decide)
  have list : WritesValue (.list [.int Int64.minValue, .reference "x"])
      "[-9223372036854775808, x,]".toList :=
    .list (@WritesList.items _ _ _ _ [] _ ", x".toList ",".toList .nil least
      (@WritesMore.cons _ _ _ _ [] [' '] _ _ .nil blank reference .nil)
      (@IsListEnd.comma [] [] .nil .nil))
  have id : WritesArgument ⟨some "id", .str "a'"⟩ "id: 'a\\''".toList :=
    @WritesArgument.named "id" _ _ [] [' '] _ (.bare (isName (by decide) (by decide))) .nil blank
      (.str text)
  have n : WritesArgument ⟨some "n", .list [.int Int64.minValue, .reference "x"]⟩
      "\"n\":[-9223372036854775808, x,]".toList :=
    @WritesArgument.named "n" _ _ [] [] _
      (.quoted (@WritesText.short "n" '"' ['n'] (by decide)
        (.plain (by decide) (by decide) .nil))) .nil .nil list
  have drop : WritesElement 2 ⟨"drop", [⟨none, .int 1⟩], none, 3⟩ "drop (1)".toList :=
    .plain (@WritesHead.intro "drop" _ [' '] ['1'] (isName (by decide) (by decide))
      (by simp [AreBlanks])
      (@WritesList.items _ _ _ _ [] ['1'] [] [] .nil
        (.positional (.int (.natural (by decide) (by decide)))) .nil (.trivia .nil)))
  have items : WritesItems 1 true [.text "b", .element ⟨"drop", [⟨none, .int 1⟩], none, 3⟩]
      "\n'''b'''; drop (1)\n".toList :=
    @WritesItems.text _ _ _ _ ['\n'] "'''b'''".toList _ newline (by simp)
      (@WritesText.long "b" '\'' (by decide) (by decide) (by decide))
      (@WritesItems.element _ _ _ _ [';', ' '] _ _ (.blank (by decide) blank) (by simp) drop
        (.done newline))
  have head : WritesHead "changeSet" [⟨some "id", .str "a'"⟩,
      ⟨some "n", .list [.int Int64.minValue, .reference "x"]⟩]
      "changeSet(id: 'a\\'', \"n\":[-9223372036854775808, x,])".toList :=
    @WritesHead.intro "changeSet" _ [] _ (isName (by decide) (by decide)) (by simp [AreBlanks])
      (@WritesList.items _ _ _ _ [] _ _ [] .nil id
        (@WritesMore.cons _ _ _ _ [] [' '] _ [] .nil blank n .nil) (.trivia .nil))
  have gap : IsTrivia "/**/".toList := @IsTrivia.blockComment [] [] (by decide) .nil
  have comment : IsTrivia "// amy\n".toList :=
    @IsTrivia.lineComment " amy".toList [] '\n' (by decide) (by decide) .nil
  exact @WritesElements.element 0 _ [] _ _ [] comment (.block head gap items) (.done .nil)

theorem Script.parse_sampleLayout :
    sample.IsWritten sampleLayout ∧ Script.parse sampleLayout = .ok sample :=
  ⟨sample_isWritten, parse_undoes_writing.1 _ _ sample_isWritten⟩

end Migration
