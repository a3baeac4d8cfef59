import Mathlib.Data.List.Basic
import Mathlib.Data.List.TakeWhile
import Migration.Property.File

/-!
# The logical lines of property files

The natural lines of a property file make up logical lines, from each of which one pair is read.
The lines of a text are all read, and each in one pair, exactly if the text does not end in the
middle of a logical line and no logical line begins with what would be a comment if it stood on its
own.
-/

namespace Migration.Property

/-- Whether a natural line is continued on the next one. -/
def goesOn (line : List Char) : Bool :=
  isContinued (Text.trimStart line)

/-- What a natural line adds to its logical line: all but its indentation, and but the backslash if
it is continued. -/
def piece (line : List Char) : List Char :=
  if goesOn line then (Text.trimStart line).dropLast else Text.trimStart line

/-- What natural lines make up together. -/
def content (lines : List (List Char)) : List Char :=
  lines.flatMap piece

/-- Whether natural lines are a logical line, which may be cut off by the end of the text: the first
one is no blank line and no comment, and all but the last one are continued. -/
structure IsLogicalLine (lines : List (List Char)) : Prop where
  nonempty : lines ≠ []
  begins : ∀ line ∈ lines.head?, isSkipped (Text.trimStart line) = false
  continued : ∀ line ∈ lines.dropLast, goesOn line

/-- Whether the last one of some natural lines is not continued. -/
def IsFinished (lines : List (List Char)) : Prop :=
  ∀ line ∈ lines.getLast?, goesOn line = false

instance (lines : List (List Char)) : Decidable (IsFinished lines) :=
  inferInstanceAs (Decidable (∀ line ∈ lines.getLast?, goesOn line = false))

/-- How natural lines make up logical lines.  Blank lines and comments belong to none where one
would begin, and only the last one can be unfinished. -/
inductive MakeUp : List (List Char) → List (List (List Char)) → Prop where
  | nothing : MakeUp [] []
  | skipped {line : List Char} {lines : List (List Char)} {logical : List (List (List Char))}
      (isSkipped : isSkipped (Text.trimStart line)) (others : MakeUp lines logical) :
      MakeUp (line :: lines) logical
  | logical {first lines : List (List Char)} {logical : List (List (List Char))}
      (isLogical : IsLogicalLine first) (ends : IsFinished first ∨ lines = [])
      (others : MakeUp lines logical) : MakeUp (first ++ lines) (first :: logical)

variable {s : List Char} {begun line : List Char} {lines others : List (List Char)}
  {logical : List (List (List Char))}

/-! ## Natural lines -/

theorem isSkipped_append (nonempty : s ≠ []) (t : List Char) :
    isSkipped (s ++ t) = isSkipped s := by
  cases s with
  | nil => exact absurd rfl nonempty
  | cons c s => rfl

theorem ne_nil_of_not_isSkipped (kept : isSkipped s = false) : s ≠ [] := by
  rintro rfl
  cases kept

/-- A line is continued if it ends in a backslash with no other one before it. -/
theorem isContinued_concat (front : List Char) (c : Char) :
    isContinued (front ++ [c]) ↔ c = '\\' ∧ front.getLast? ≠ some '\\' := by
  rw [isContinued, List.reverse_append, List.getLast?_eq_head?_reverse]
  cases front.reverse with
  | nil => by_cases backslash : c = '\\' <;> simp [backslash]
  | cons next before =>
      by_cases backslash : c = '\\' <;> by_cases second : next = '\\' <;> simp [backslash, second]

theorem exists_of_isContinued (goesOn : isContinued s) : ∃ front, s = front ++ ['\\'] := by
  rcases List.eq_nil_or_concat' s with rfl | ⟨front, last, rfl⟩
  · cases goesOn
  · obtain ⟨rfl, -⟩ := (isContinued_concat front last).mp goesOn
    exact ⟨front, rfl⟩

/-- A line that is read as the beginning of a logical line adds nothing, or begins as that does. -/
theorem isSkipped_piece (kept : isSkipped (Text.trimStart line) = false) :
    piece line = [] ∨ isSkipped (piece line) = false := by
  unfold piece
  split
  · rename_i continued
    obtain ⟨front, same⟩ := exists_of_isContinued continued
    rw [same] at kept ⊢
    rw [List.dropLast_concat]
    by_cases empty : front = []
    · exact .inl empty
    · rw [isSkipped_append empty] at kept
      exact .inr kept
  · exact .inr kept

/-- A line that is skipped at the beginning of a logical line adds nothing and ends that, or begins
as what is skipped. -/
theorem piece_of_isSkipped (skipped : isSkipped (Text.trimStart line)) :
    piece line = [] ∧ goesOn line = false ∨ piece line ≠ [] ∧ isSkipped (piece line) := by
  cases continued : goesOn line with
  | true =>
      obtain ⟨front, same⟩ := exists_of_isContinued continued
      have nonempty : front ≠ [] := by
        rintro rfl
        rw [same] at skipped
        cases skipped
      rw [same, isSkipped_append nonempty] at skipped
      rw [piece, if_pos continued, same, List.dropLast_concat]
      exact .inr ⟨nonempty, skipped⟩
  | false =>
      have whole : piece line = Text.trimStart line := by simp [piece, continued]
      rw [whole]
      by_cases empty : Text.trimStart line = []
      · exact .inl ⟨empty, rfl⟩
      · exact .inr ⟨empty, skipped⟩

/-- As long as no line is skipped, what is read of a logical line does not begin as what is. -/
theorem begins_append_piece (before : begun = [] ∨ isSkipped begun = false)
    (kept : ¬ (begun = [] ∧ isSkipped (Text.trimStart line))) :
    begun ++ piece line = [] ∨ isSkipped (begun ++ piece line) = false := by
  by_cases empty : begun = []
  · rw [empty, List.nil_append]
    exact isSkipped_piece (Bool.eq_false_iff.mpr fun skipped => kept ⟨empty, skipped⟩)
  · rw [isSkipped_append empty]
    exact .inr (before.resolve_left empty)

/-! ## What is read from one logical line -/

theorem logicalLines_cons (begun line : List Char) (lines : List (List Char)) :
    logicalLines begun (line :: lines) =
      if begun = [] ∧ isSkipped (Text.trimStart line) then logicalLines [] lines
      else if goesOn line then logicalLines (begun ++ piece line) lines
      else (begun ++ piece line) :: logicalLines [] lines := by
  rw [logicalLines, piece, goesOn]
  by_cases continued : isContinued (Text.trimStart line) <;> simp [continued]

/-- A logical line that is cut off is not read. -/
theorem logicalLines_of_cutOff (continued : ∀ line ∈ lines, goesOn line) :
    logicalLines begun lines = [] := by
  induction lines generalizing begun with
  | nil => rfl
  | cons line lines ih =>
      obtain ⟨first, continued⟩ := List.forall_mem_cons.mp continued
      rw [logicalLines_cons, ih continued, if_pos first, ih continued, ite_self]

/-- Behind the end of a logical line nothing is left of it. -/
theorem logicalLines_append (nonempty : lines ≠ [])
    (continued : ∀ line ∈ lines.dropLast, goesOn line) (finished : IsFinished lines) :
    logicalLines begun (lines ++ others) = logicalLines begun lines ++ logicalLines [] others := by
  induction lines generalizing begun with
  | nil => exact absurd rfl nonempty
  | cons line lines ih =>
      cases lines with
      | nil =>
          have ends : goesOn line = false := finished line rfl
          simp only [List.singleton_append, logicalLines_cons, ends, Bool.false_eq_true, if_false]
          split <;> rfl
      | cons next lines =>
          obtain ⟨first, continued⟩ := List.forall_mem_cons.mp continued
          have rest (begun : List Char) : logicalLines begun (next :: lines ++ others) =
              logicalLines begun (next :: lines) ++ logicalLines [] others :=
            ih (by simp) continued finished
          rw [List.cons_append, logicalLines_cons, logicalLines_cons begun line, if_pos first,
            if_pos first]
          split <;> exact rest _

/-- Lines whose content would not be skipped do not begin with one that is. -/
theorem begins_of_content (nonempty : lines ≠ [])
    (continued : ∀ line ∈ lines.dropLast, goesOn line)
    (kept : isSkipped (content lines) = false) :
    ∀ line ∈ lines.head?, isSkipped (Text.trimStart line) = false := by
  obtain ⟨line, lines, rfl⟩ := List.exists_cons_of_ne_nil nonempty
  rintro _ ⟨⟩
  refine Bool.eq_false_iff.mpr fun skipped => ?_
  rw [content, List.flatMap_cons] at kept
  rcases piece_of_isSkipped skipped with ⟨empty, ends⟩ | ⟨solid, skipped⟩
  · cases lines with
    | nil =>
        rw [empty] at kept
        cases kept
    | cons next lines => cases ends.symm.trans (List.forall_mem_cons.mp continued).1
  · rw [isSkipped_append solid, skipped] at kept
    cases kept

/-- A logical line is read as a whole if it is finished and its content is nothing that is
skipped. -/
theorem logicalLines_of_finished (nonempty : lines ≠ [])
    (continued : ∀ line ∈ lines.dropLast, goesOn line) (finished : IsFinished lines)
    (before : begun = [] ∨ isSkipped begun = false)
    (kept : isSkipped (begun ++ content lines) = false) :
    logicalLines begun lines = [begun ++ content lines] := by
  induction lines generalizing begun with
  | nil => exact absurd rfl nonempty
  | cons line lines ih =>
      rw [content, List.flatMap_cons] at kept ⊢
      have skipped : ¬ (begun = [] ∧ isSkipped (Text.trimStart line)) := by
        rintro ⟨rfl, skipped⟩
        rw [begins_of_content (by simp) continued kept line rfl] at skipped
        cases skipped
      rw [logicalLines_cons, if_neg skipped]
      cases lines with
      | nil =>
          have ends : goesOn line = false := finished line rfl
          simp [ends, logicalLines]
      | cons next lines =>
          obtain ⟨first, continued⟩ := List.forall_mem_cons.mp continued
          rw [← List.append_assoc] at kept ⊢
          rw [if_pos first]
          exact ih (by simp) continued finished (begins_append_piece before skipped) kept

/-- Nothing that is read begins as what is skipped. -/
theorem not_isSkipped_of_mem (before : begun = [] ∨ isSkipped begun = false)
    (member : s ∈ logicalLines begun lines) : isSkipped s = false := by
  induction lines generalizing begun with
  | nil => cases member
  | cons line lines ih =>
      rw [logicalLines_cons] at member
      split at member
      · exact ih (.inl rfl) member
      rename_i kept
      have begins := begins_append_piece before kept
      split at member
      · exact ih begins member
      rename_i ends
      rcases List.mem_cons.mp member with rfl | later
      · refine begins.resolve_left fun empty => kept ?_
        obtain ⟨none, nothing⟩ := List.append_eq_nil_iff.mp empty
        rw [piece, if_neg ends] at nothing
        exact ⟨none, by rw [nothing]; rfl⟩
      · exact ih (.inl rfl) later

theorem length_logicalLines_le (continued : ∀ line ∈ lines.dropLast, goesOn line) :
    (logicalLines begun lines).length ≤ 1 := by
  induction lines generalizing begun with
  | nil => exact Nat.zero_le 1
  | cons line lines ih =>
      rw [logicalLines_cons]
      cases lines with
      | nil => split <;> [skip; split] <;> simp [logicalLines]
      | cons next lines =>
          obtain ⟨first, continued⟩ := List.forall_mem_cons.mp continued
          rw [if_pos first]
          split <;> exact ih continued

/-- Nothing is read from lines without content. -/
theorem logicalLines_of_content_eq_nil (continued : ∀ line ∈ lines.dropLast, goesOn line)
    (blank : content lines = []) : logicalLines [] lines = [] := by
  induction lines with
  | nil => rfl
  | cons line lines ih =>
      rw [content, List.flatMap_cons, List.append_eq_nil_iff] at blank
      rw [logicalLines_cons, blank.1]
      cases lines with
      | nil =>
          by_cases first : goesOn line
          · simp [first, logicalLines]
          · rw [piece, if_neg first] at blank
            simp [blank.1, isSkipped, logicalLines]
      | cons next lines =>
          obtain ⟨first, continued⟩ := List.forall_mem_cons.mp continued
          rw [if_pos first]
          split <;> exact ih continued blank.2

/-! ## Keys -/

theorem prefix_trimEnd (s : List Char) : Text.trimEnd s <+: s := by
  rw [← List.reverse_suffix, Text.trimEnd, List.reverse_reverse]
  exact List.dropWhile_suffix _

theorem toList_key (s : List Char) :
    (pair s).1.toList =
      if s.dropWhile (fun c => !endsKey c) = [] then s
      else Text.trimEnd (s.takeWhile fun c => !endsKey c) := by
  unfold pair
  dsimp only
  split <;> simp

theorem prefix_key (s : List Char) : (pair s).1.toList <+: s := by
  rw [toList_key]
  split
  · exact List.prefix_rfl
  · exact (prefix_trimEnd _).trans (List.takeWhile_prefix _)

/-- A logical line that begins as a comment has a key. -/
theorem key_ne_nil (nonempty : s ≠ []) (skipped : isSkipped s) : (pair s).1.toList ≠ [] := by
  obtain ⟨c, s, rfl⟩ := List.exists_cons_of_ne_nil nonempty
  have isMark : c = '#' ∨ c = '!' := by simpa [isSkipped] using skipped
  have inKey : endsKey c = false := by rcases isMark with rfl | rfl <;> decide
  have solid : Text.isBlank c = false := by rcases isMark with rfl | rfl <;> decide
  rw [toList_key]
  split
  · exact nonempty
  · have inside : c ∈ ((c :: s).takeWhile fun c => !endsKey c).reverse := by simp [inKey]
    intro nothing
    rw [Text.trimEnd, List.reverse_eq_nil_iff, List.dropWhile_eq_nil_iff] at nothing
    exact absurd (nothing c inside) (by simp [solid])

/-- The pair shows whether its logical line begins as a comment. -/
theorem pair_ne {t : List Char} (kept : isSkipped s = false) (nonempty : t ≠ [])
    (skipped : isSkipped t) : pair s ≠ pair t := by
  intro same
  have key := key_ne_nil nonempty skipped
  obtain ⟨more, whole⟩ := prefix_key t
  obtain ⟨others, part⟩ := prefix_key s
  rw [← whole, isSkipped_append key] at skipped
  rw [← part, same, isSkipped_append key, skipped] at kept
  cases kept

/-! ## What is read from a text -/

/-- The pairs on logical lines, one on each that is not blank. -/
def pairsOf (logical : List (List (List Char))) : List (String × String) :=
  ((logical.map content).filter (· ≠ [])).map pair

/-- Whether a logical line is read: it is finished, and does not begin as a comment. -/
def IsRead (lines : List (List Char)) : Prop :=
  IsFinished lines ∧ isSkipped (content lines) = false

/-- From each natural line on there is one logical line, and what follows makes up others. -/
theorem exists_run (line : List Char) (lines : List (List Char))
    (rest : ∀ behind, behind <:+ lines → ∃ logical, MakeUp behind logical) :
    ∃ more behind logical, line :: lines = (line :: more) ++ behind ∧
      (∀ other ∈ (line :: more).dropLast, goesOn other) ∧
      (IsFinished (line :: more) ∨ behind = []) ∧ MakeUp behind logical := by
  induction lines generalizing line with
  | nil => exact ⟨[], [], [], rfl, by simp, .inr rfl, .nothing⟩
  | cons next lines ih =>
      cases first : goesOn line with
      | true =>
          obtain ⟨more, behind, logical, same, continued, ends, others⟩ :=
            ih next fun behind suffix => rest behind (suffix.trans (List.suffix_cons _ _))
          exact ⟨next :: more, behind, logical, by rw [same]; rfl,
            List.forall_mem_cons.mpr ⟨first, continued⟩, ends, others⟩
      | false =>
          obtain ⟨logical, others⟩ := rest _ List.suffix_rfl
          refine ⟨[], next :: lines, logical, rfl, by simp, .inl fun last isLast => ?_, others⟩
          cases isLast
          exact first

/-- The natural lines of every text make up logical lines. -/
theorem exists_makeUp (lines : List (List Char)) : ∃ logical, MakeUp lines logical := by
  have all (lines : List (List Char)) :
      ∀ behind, behind <:+ lines → ∃ logical, MakeUp behind logical := by
    induction lines with
    | nil =>
        intro behind suffix
        exact ⟨[], List.suffix_nil.mp suffix ▸ .nothing⟩
    | cons line lines ih =>
        intro behind suffix
        rcases List.suffix_cons_iff.mp suffix with rfl | later
        · cases skipped : isSkipped (Text.trimStart line) with
          | true =>
              obtain ⟨logical, others⟩ := ih lines List.suffix_rfl
              exact ⟨logical, .skipped skipped others⟩
          | false =>
              obtain ⟨more, behind, logical, same, continued, ends, others⟩ :=
                exists_run line lines ih
              rw [same]
              exact ⟨_, .logical ⟨by simp, by simpa using skipped, continued⟩ ends others⟩
        · exact ih behind later
  exact all lines lines List.suffix_rfl

theorem MakeUp.areLogical (makeUp : MakeUp lines logical) :
    ∀ lines ∈ logical, IsLogicalLine lines := by
  induction makeUp with
  | nothing => simp
  | skipped _ _ ih => exact ih
  | logical isLogical _ _ ih => exact List.forall_mem_cons.mpr ⟨isLogical, ih⟩

/-- The logical lines of a text are read one after the other. -/
theorem MakeUp.logicalLines_eq (makeUp : MakeUp lines logical) :
    logicalLines [] lines = logical.flatMap (logicalLines []) := by
  induction makeUp with
  | nothing => rfl
  | skipped skipped _ ih => rw [logicalLines_cons, if_pos ⟨rfl, skipped⟩, ih]
  | logical isLogical ends others ih =>
      rw [List.flatMap_cons, ← ih]
      rcases ends with finished | rfl
      · exact logicalLines_append isLogical.nonempty isLogical.continued finished
      · rw [List.append_nil, logicalLines, List.append_nil]

/-- A logical line with some content is read exactly if it is finished and does not begin as a
comment. -/
theorem IsLogicalLine.pair_iff (isLogical : IsLogicalLine lines) (solid : content lines ≠ []) :
    (logicalLines [] lines).map pair = [pair (content lines)] ↔ IsRead lines := by
  constructor
  · intro read
    obtain ⟨s, alone, same⟩ := List.map_eq_singleton_iff.mp read
    have kept := not_isSkipped_of_mem (.inl rfl) (alone ▸ List.mem_singleton_self s)
    refine ⟨fun last isLast => ?_, Bool.eq_false_iff.mpr fun skipped =>
      pair_ne kept solid skipped same⟩
    refine Bool.eq_false_iff.mpr fun goesOn => ?_
    have cutOff : logicalLines [] lines = [] := logicalLines_of_cutOff fun line member => by
      rw [← List.dropLast_append_getLast? last isLast] at member
      rcases List.mem_append.mp member with before | atEnd
      · exact isLogical.continued line before
      · exact List.mem_singleton.mp atEnd ▸ goesOn
    cases alone.symm.trans cutOff
  · rintro ⟨finished, kept⟩
    rw [logicalLines_of_finished isLogical.nonempty isLogical.continued finished (.inl rfl) kept]
    rfl

theorem pairsOf_cons (lines : List (List Char)) (logical : List (List (List Char))) :
    pairsOf (lines :: logical) =
      (if content lines = [] then [] else [pair (content lines)]) ++ pairsOf logical := by
  by_cases blank : content lines = [] <;> simp [pairsOf, blank]

/-- At most one pair is read from a logical line, and none if it is blank. -/
theorem IsLogicalLine.length_le (isLogical : IsLogicalLine lines) :
    ((logicalLines [] lines).map pair).length ≤
      (if content lines = [] then [] else [pair (content lines)]).length := by
  split
  · rename_i blank
    rw [logicalLines_of_content_eq_nil isLogical.continued blank]
    exact Nat.le_refl _
  · rw [List.length_map]
    exact length_logicalLines_le isLogical.continued

theorem length_flatMap_le (areLogical : ∀ lines ∈ logical, IsLogicalLine lines) :
    ((logical.flatMap (logicalLines [])).map pair).length ≤ (pairsOf logical).length := by
  induction logical with
  | nil => exact Nat.le_refl _
  | cons lines logical ih =>
      obtain ⟨isLogical, areLogical⟩ := List.forall_mem_cons.mp areLogical
      rw [List.flatMap_cons, List.map_append, pairsOf_cons, List.length_append, List.length_append]
      exact Nat.add_le_add isLogical.length_le (ih areLogical)

theorem append_eq_append_iff_of_le {α : Type} {front back front' back' : List α}
    (shorter : front.length ≤ front'.length) (shorterBack : back.length ≤ back'.length) :
    front ++ back = front' ++ back' ↔ front = front' ∧ back = back' := by
  refine ⟨fun same => List.append_inj same ?_, fun ⟨same, sameBack⟩ => same ▸ sameBack ▸ rfl⟩
  have lengths := congrArg List.length same
  rw [List.length_append, List.length_append] at lengths
  omega

/-- The pairs of logical lines are read exactly if each of these is that is not blank: too few are
read otherwise, or others. -/
theorem flatMap_eq_pairsOf_iff (areLogical : ∀ lines ∈ logical, IsLogicalLine lines) :
    (logical.flatMap (logicalLines [])).map pair = pairsOf logical ↔
      ∀ lines ∈ logical, content lines ≠ [] → IsRead lines := by
  induction logical with
  | nil => simp [pairsOf]
  | cons lines logical ih =>
      obtain ⟨isLogical, areLogical⟩ := List.forall_mem_cons.mp areLogical
      rw [List.flatMap_cons, List.map_append, pairsOf_cons, List.forall_mem_cons, ← ih areLogical,
        append_eq_append_iff_of_le isLogical.length_le (length_flatMap_le areLogical)]
      refine and_congr_left' ?_
      by_cases blank : content lines = []
      · simp [blank, logicalLines_of_content_eq_nil isLogical.continued blank]
      · rw [if_neg blank, isLogical.pair_iff blank]
        exact ⟨fun read _ => read, fun read => read blank⟩

/-- On every text, the logical lines that are not blank are read as a pair each exactly if all of
them are finished and none begins as a comment, which takes a line of nothing but a backslash before
it. -/
theorem parseFile_eq_pairsOf_iff (text : String) :
    (∃ logical, MakeUp (Text.lines text.toList) logical) ∧
    ∀ logical, MakeUp (Text.lines text.toList) logical →
      (parseFile text = pairsOf logical ↔
        ∀ lines ∈ logical, content lines ≠ [] →
          IsFinished lines ∧ isSkipped (content lines) = false) ∧
      ((parseFile text).length ≤ (logical.filter (content · ≠ [])).length ∧
        (parseFile text = pairsOf logical →
          (parseFile text).length = (logical.filter (content · ≠ [])).length)) := by
  refine ⟨exists_makeUp _, fun logical makeUp => ?_⟩
  have read : parseFile text = (logical.flatMap (logicalLines [])).map pair := by
    rw [parseFile, makeUp.logicalLines_eq]
  have counted : (pairsOf logical).length = (logical.filter (content · ≠ [])).length := by
    simp [pairsOf, List.filter_map, Function.comp_def]
  rw [read]
  refine ⟨flatMap_eq_pairsOf_iff makeUp.areLogical, ?_, fun same => ?_⟩
  · exact counted ▸ length_flatMap_le makeUp.areLogical
  · rw [same, counted]

/-- A continued line is read with the one that continues it, also if that looks like a comment. -/
theorem parseFile_continuedComment :
    MakeUp (Text.lines "! c\na=1\\\n  #2\n\nb".toList)
        [["a=1\\".toList, "  #2".toList], ["b".toList]] ∧
      (∀ lines ∈ [["a=1\\".toList, "  #2".toList], ["b".toList]], content lines ≠ [] →
        IsFinished lines ∧ isSkipped (content lines) = false) ∧
      parseFile "! c\na=1\\\n  #2\n\nb" = [("a", "1#2"), ("b", "")] := by
  have first : IsLogicalLine ["a=1\\".toList, "  #2".toList] := ⟨by decide, by decide, by decide⟩
  have second : IsLogicalLine ["b".toList] := ⟨by decide, by decide, by decide⟩
  have makeUp : MakeUp (Text.lines "! c\na=1\\\n  #2\n\nb".toList)
      [["a=1\\".toList, "  #2".toList], ["b".toList]] :=
    .skipped (by decide) (.logical first (.inl (by decide))
      (.skipped (by decide) (.logical second (.inr rfl) .nothing)))
  have areRead : ∀ lines ∈ [["a=1\\".toList, "  #2".toList], ["b".toList]], content lines ≠ [] →
      IsFinished lines ∧ isSkipped (content lines) = false := by decide
  exact ⟨makeUp, areRead, ((parseFile_eq_pairsOf_iff _).2 _ makeUp).1.mpr areRead⟩

/-- A logical line that the end of the text cuts off is lost. -/
theorem not_parseFile_eq_pairsOf :
    ¬ ∀ text logical, MakeUp (Text.lines text.toList) logical →
      parseFile text = pairsOf logical := by
  intro read
  have first : IsLogicalLine ["a=1".toList] := ⟨by decide, by decide, by decide⟩
  have second : IsLogicalLine ["b=2\\".toList] := ⟨by decide, by decide, by decide⟩
  have makeUp : MakeUp (Text.lines "a=1\nb=2\\".toList) [["a=1".toList], ["b=2\\".toList]] :=
    .logical first (.inl (by decide)) (.logical second (.inr rfl) .nothing)
  exact absurd (read _ _ makeUp) (by decide)

end Migration.Property
