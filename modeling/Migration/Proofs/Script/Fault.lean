import Migration.Proofs.Script.Locality

/-!
# Where a script cannot be read

Every fault is found at an end of the script, however many readings were tried and given up before
it.  So a fault has a line, which is counted from the beginning of the script as the lines of the
elements are.  The main statement, `parse_newlines`, says what line feeds in front of a script do:
all lines are further down by as many, and nothing else changes.
-/

namespace Migration

namespace Script

variable {α β : Type}

/-! ## Places of faults -/

/-- Whether the place of a fault is an end of a text. -/
abbrev LiesIn (s : List Char) (fault : Fault) : Prop :=
  fault.rest <:+ s

/-- Whether a step that finds a text malformed does so at an end of the text. -/
def FaultsInside (step : List Char → Reading α) : Prop :=
  ∀ s fault, step s = .malformed fault → LiesIn s fault

theorem map_eq_malformed {f : α → β} {read : Reading α} {fault : Fault}
    (malformed : read.map f = .malformed fault) : read = .malformed fault := by
  unfold Reading.map at malformed
  split at malformed <;> cases malformed
  rfl

theorem orElse_eq_malformed {first : Reading α} {second : Unit → Reading α} {fault : Fault}
    (malformed : first.orElse second = .malformed fault) :
    first = .malformed fault ∨ second () = .malformed fault := by
  unfold Reading.orElse at malformed
  split at malformed
  · cases malformed
  · exact .inr malformed
  · exact .inl malformed

theorem FaultsInside.map {step : List Char → Reading α} (inside : FaultsInside step) (f : α → β) :
    FaultsInside fun s => (step s).map f :=
  fun s fault malformed => inside s fault (map_eq_malformed malformed)

theorem FaultsInside.orElse {first second : List Char → Reading α} (inFirst : FaultsInside first)
    (inSecond : FaultsInside second) :
    FaultsInside fun s => (first s).orElse fun _ => second s :=
  fun s fault malformed =>
    (orElse_eq_malformed malformed).elim (inFirst s fault) (inSecond s fault)

theorem faultsInside_ofOption (read? : List Char → Option (α × List Char)) :
    FaultsInside fun s => Reading.ofOption (read? s) := by
  intro s fault malformed
  simp only [Reading.ofOption] at malformed
  split at malformed <;> cases malformed

/-! ## Words -/

/-- A text without its closing quote is reported at its opening one. -/
theorem faultsInside_quoted : FaultsInside quoted := by
  intro s fault malformed
  unfold quoted at malformed
  split at malformed
  · cases malformed
  · cases malformed
  · cases malformed
  · split at malformed
    · split at malformed
      · cases malformed
      · cases malformed
        exact List.suffix_rfl
    · cases malformed

theorem unsigned_eq_malformed {start body : List Char} {negative : Bool} {fault : Fault}
    (malformed : unsigned start negative body = .malformed fault) : fault.rest = start := by
  unfold unsigned at malformed
  cases fraction : fraction? (body.dropWhile Char.isDigit) with
  | none =>
      simp only [fraction] at malformed
      split at malformed
      · cases malformed
      · split at malformed
        · cases malformed
        · cases malformed
          rfl
  | some pair =>
      simp only [fraction] at malformed
      split at malformed <;> cases malformed

/-- A number out of range is reported at its beginning. -/
theorem faultsInside_number : FaultsInside number := by
  intro s fault malformed
  have atStart : fault.rest = s := by
    by_cases sign : s.head? = some '-'
    · obtain ⟨body, rfl⟩ := List.head?_eq_some_iff.mp sign
      rw [number_minus] at malformed
      exact unsigned_eq_malformed malformed
    · rw [number_of_ne_minus sign] at malformed
      exact unsigned_eq_malformed malformed
  subst atStart
  exact List.suffix_rfl

theorem faultsInside_word : FaultsInside word :=
  (faultsInside_ofOption name?).map ofWord

/-! ## Lists between brackets -/

theorem failsFor_mono {s t : List Char} {step : Except Fault α}
    (fails : FailsFor (LiesIn s) step) (left : s <:+ t) : FailsFor (LiesIn t) step :=
  fails.mono fun _ inside => inside.trans left

section Brackets

variable {item : List Char → Reading α}

theorem failsFor_moreItems (inside : FaultsInside item)
    (leaves : ∀ {s value rest}, item s = .found value rest → rest <:+ s) (fuel : Nat)
    (s : List Char) : FailsFor (LiesIn s) (moreItems item fuel s) := by
  induction fuel generalizing s with
  | zero => exact .ok _
  | succ fuel ih =>
      rw [moreItems]
      split
      · exact .ok _
      · rename_i afterComma comma
        have front : afterComma <:+ s := comma?_suffix comma
        split
        · exact .ok _
        · rename_i fault malformed
          exact .error ((inside afterComma fault malformed).trans front)
        · rename_i value rest found
          have more := failsFor_mono (ih rest) ((leaves found).trans front)
          split
          · rename_i fault failed
            exact .error (more fault failed)
          · exact .ok _

theorem failsFor_bracketed (inside : FaultsInside item)
    (leaves : ∀ {s value rest}, item s = .found value rest → rest <:+ s) (s : List Char) :
    FailsFor (LiesIn s) (bracketed item s) := by
  have front := skipTrivia_suffix s
  have items : FailsFor (LiesIn s) (commaItems item (skipTrivia s)) := by
    rw [commaItems]
    split
    · exact .ok _
    · rename_i fault malformed
      exact .error ((inside _ fault malformed).trans front)
    · rename_i value rest found
      have more := failsFor_mono (failsFor_moreItems inside leaves rest.length rest)
        ((leaves found).trans front)
      split
      · rename_i fault failed
        exact .error (more fault failed)
      · exact .ok _
  rw [bracketed]
  split
  · rename_i fault failed
    exact .error (items fault failed)
  · exact .ok _

theorem faultsInside_list {item : List Char → Reading Literal} (inside : FaultsInside item)
    (leaves : ∀ {s value rest}, item s = .found value rest → rest <:+ s) :
    FaultsInside (list item) := by
  intro s fault malformed
  unfold list at malformed
  split at malformed
  · rename_i inner
    split at malformed
    · rename_i failed
      cases malformed
      exact (failsFor_bracketed inside leaves inner _ failed).trans (List.suffix_cons '[' inner)
    · cases malformed
    · cases malformed
  · cases malformed

end Brackets

/-! ## Values and arguments -/

theorem faultsInside_valueWithin (fuel : Nat) : FaultsInside (valueWithin fuel) := by
  induction fuel with
  | zero => exact nofun
  | succ fuel ih =>
      have lists : FaultsInside (list (valueWithin fuel)) := faultsInside_list ih valueWithin_suffix
      exact (faultsInside_quoted.map Literal.str).orElse
        (lists.orElse (faultsInside_number.orElse faultsInside_word))

theorem faultsInside_value : FaultsInside value :=
  fun s => faultsInside_valueWithin (s.length + 1) s

theorem faultsInside_key : FaultsInside key := by
  intro s fault malformed
  have names : FaultsInside fun s => (Reading.ofOption (name? s)).orElse fun _ => quoted s :=
    (faultsInside_ofOption name?).orElse faultsInside_quoted
  unfold key at malformed
  split at malformed
  · split at malformed <;> cases malformed
  · cases malformed
  · rename_i failed
    cases malformed
    exact names s _ failed

theorem faultsInside_argument : FaultsInside argument := by
  intro s fault malformed
  simp only [argument] at malformed
  rcases orElse_eq_malformed malformed with named | alone
  · split at named
    · rename_i name behind read
      have valueFault := faultsInside_value behind fault (map_eq_malformed named)
      exact valueFault.trans (key_suffix read)
    · cases named
    · rename_i failed
      cases named
      exact faultsInside_key s _ failed
  · exact faultsInside_value s fault (map_eq_malformed alone)

/-- A missing bracket is reported where it should stand. -/
theorem failsFor_arguments (s : List Char) : FailsFor (LiesIn s) (arguments s) := by
  have spaced : (s.dropWhile fun c => c = ' ' || c = '\t') <:+ s := List.dropWhile_suffix _
  unfold arguments
  split
  · rename_i inner opened
    have front : inner <:+ s := (List.suffix_cons '(' inner).trans (opened ▸ spaced)
    split
    · rename_i fault failed
      have inside := failsFor_bracketed faultsInside_argument argument_suffix inner fault failed
      exact .error (inside.trans front)
    · exact .ok _
    · rename_i rest notClosed read
      exact .error ((bracketed_suffix argument_suffix read).trans front)
  · split
    · exact .ok _
    · rename_i fault malformed
      exact .error ((faultsInside_quoted _ fault malformed).trans spaced)
    · exact .ok _

/-! ## Elements and blocks -/

mutual
theorem failsFor_element {total : Nat} : (fuel : Nat) → (s : List Char) →
    FailsFor (LiesIn s) (element total fuel s)
  | 0, s => .error List.suffix_rfl
  | fuel + 1, s => by
      rw [element]
      split
      · exact .error List.suffix_rfl
      · rename_i name afterName named
        split
        · rename_i fault failed
          exact .error ((failsFor_arguments afterName fault failed).trans (name?_suffix named))
        · rename_i given behind called
          split
          · rename_i inner opened
            have front : inner <:+ s := (((List.suffix_cons '{' inner).trans
              (opened ▸ skipTrivia_suffix behind)).trans (arguments_suffix called)).trans
                (name?_suffix named)
            split
            · rename_i fault failed
              exact .error ((failsFor_block fuel inner fault failed).trans front)
            · exact .ok _
          · exact .ok _

theorem failsFor_block {total : Nat} : (fuel : Nat) → (s : List Char) →
    FailsFor (LiesIn s) (block total fuel s)
  | 0, s => .error List.suffix_rfl
  | fuel + 1, s => by
      rw [block]
      have front := skipTrivia_suffix s
      split
      · exact .error List.nil_suffix
      · exact .ok _
      · split
        · rename_i fault malformed
          exact .error ((faultsInside_quoted _ fault malformed).trans front)
        · rename_i text rest found
          split
          · rename_i fault failed
            exact .error
              (((failsFor_block fuel rest fault failed).trans (quoted_suffix found)).trans front)
          · exact .ok _
        · split
          · rename_i fault failed
            exact .error ((failsFor_element fuel _ fault failed).trans front)
          · rename_i e rest found
            split
            · rename_i fault failed
              exact .error (((failsFor_block fuel rest fault failed).trans
                (element_suffix fuel found)).trans front)
            · exact .ok _
end

theorem failsFor_topLevel {total : Nat} (fuel : Nat) (s : List Char) :
    FailsFor (LiesIn s) (topLevel total fuel s) := by
  induction fuel generalizing s with
  | zero => exact .error List.suffix_rfl
  | succ fuel ih =>
      rw [topLevel]
      have front := skipTrivia_suffix s
      split
      · exact .ok _
      · split
        · rename_i fault failed
          exact .error ((failsFor_element _ _ fault failed).trans front)
        · rename_i e rest found
          rw [FailsFor.map_iff]
          exact failsFor_mono (ih rest) ((element_suffix _ found).trans front)

/-! ## Line feeds in front of a script -/

theorem element_shorter {total fuel : Nat} {e : Element} {s rest : List Char}
    (read : element total fuel s = .ok (e, rest)) : rest.length < s.length := by
  obtain ⟨less, name, afterName, given, behind, -, named, called, ending⟩ := element_cases read
  have left : rest <:+ afterName := by
    rcases ending with ⟨inner, items, opened, inside, -⟩ | ⟨-, rfl, -⟩
    · have front : inner <:+ behind :=
        (List.suffix_cons '{' inner).trans (opened ▸ skipTrivia_suffix behind)
      exact ((block_suffix less inside).trans front).trans (arguments_suffix called)
    · exact arguments_suffix called
  refine Nat.lt_of_le_of_lt left.length_le ?_
  cases s with
  | nil => cases named
  | cons c s =>
      rw [name?] at named
      split at named
      · cases named
        exact Nat.lt_succ_of_le (Text.length_dropWhile_le isNameChar s)
      · cases named

/-- More elements than it has characters cannot be read from a text. -/
theorem topLevel_enough {total fuel more : Nat} {s : List Char} (enough : s.length < fuel)
    (enoughMore : s.length < more) : topLevel total fuel s = topLevel total more s := by
  induction fuel generalizing s more with
  | zero => exact absurd enough (Nat.not_lt_zero _)
  | succ fuel ih =>
      obtain ⟨more, rfl⟩ : ∃ fewer, more = fewer + 1 := ⟨more - 1, by omega⟩
      rw [topLevel, topLevel]
      have front := (skipTrivia_suffix s).length_le
      split
      · rfl
      · cases found : element total ((skipTrivia s).length + 2) (skipTrivia s) with
        | error fault => rfl
        | ok result =>
            obtain ⟨e, rest⟩ := result
            have shorter := element_shorter found
            dsimp only
            rw [ih (by omega) (show rest.length < more by omega)]

theorem isTrivia_newlines (lines : Nat) : IsTrivia (List.replicate lines '\n') := by
  induction lines with
  | zero => exact .nil
  | succ lines ih => exact .blank (by decide) ih

theorem lineFeeds_newlines (lines : Nat) (s : List Char) :
    lineFeeds (List.replicate lines '\n' ++ s) = lineFeeds s + lines := by
  rw [lineFeeds_append, Nat.add_comm]
  simp [lineFeeds]

theorem parseChars_newlines (lines : Nat) (s : List Char) :
    parseChars (List.replicate lines '\n' ++ s) =
      (parseChars s).map (List.map (Element.movedDown lines)) := by
  have skipped := skipTrivia_append (isTrivia_newlines lines) s
  rw [parseChars, lineFeeds_newlines, topLevel_of_skipTrivia skipped,
    topLevel_movedDown lines (Nat.le_refl _), parseChars]
  have enough : s.length < (List.replicate lines '\n' ++ s).length + 1 := by
    rw [List.length_append]
    omega
  rw [topLevel_enough enough (Nat.lt_succ_self s.length)]

/-- A malformed script a number of lines further down. -/
def Malformed.movedDown (lines : Nat) (malformed : Malformed) : Malformed :=
  { malformed with line := malformed.line + lines }

theorem parse_eq_error {source : String} {malformed : Malformed}
    (failed : parse source = .error malformed) :
    ∃ fault, parseChars source.toList = .error fault ∧
      malformed = ⟨lineOf (lineFeeds source.toList) fault.rest, fault.problem⟩ := by
  unfold parse at failed
  split at failed
  · cases failed
  · rename_i fault isFault
    cases failed
    exact ⟨fault, isFault, rfl⟩

/-- Line feeds in front of a script move all its elements down, or the line of its fault, and change
nothing else; the message is that of the same problem.  The line of a fault is the line of a place
in the script, so that it is none before the first line and none behind the last. -/
theorem parse_newlines (source : String) (lines : Nat) :
    parse (String.ofList (List.replicate lines '\n') ++ source) =
      ((parse source).map (Script.movedDown lines)).mapError (Malformed.movedDown lines) ∧
    ∀ malformed, parse source = .error malformed →
      (∃ before, before <+: source.toList ∧ malformed.line = lineFeeds before + 1) ∧
      1 ≤ malformed.line ∧ malformed.line ≤ 1 + lineFeeds source.toList := by
  have isInside {fault : Fault} (failed : parseChars source.toList = .error fault) :
      fault.rest <:+ source.toList :=
    failsFor_topLevel _ _ fault failed
  constructor
  · have text : (String.ofList (List.replicate lines '\n') ++ source).toList =
        List.replicate lines '\n' ++ source.toList := by simp
    rw [parse, text, parseChars_newlines, parse, lineFeeds_newlines]
    cases read : parseChars source.toList with
    | ok elements => rfl
    | error fault =>
        have line : lineOf (lineFeeds source.toList + lines) fault.rest =
            lineOf (lineFeeds source.toList) fault.rest + lines :=
          lineOf_movedDown (lineFeeds_le (isInside read))
        exact congrArg (fun line => Except.error (Malformed.mk line fault.problem)) line
  · intro malformed failed
    obtain ⟨fault, isFault, rfl⟩ := parse_eq_error failed
    obtain ⟨before, split⟩ := isInside isFault
    have line : lineOf (lineFeeds source.toList) fault.rest = lineFeeds before + 1 :=
      lineOf_append (by rw [← split, lineFeeds_append])
    have bound : lineFeeds before ≤ lineFeeds source.toList := by
      rw [← split, lineFeeds_append]
      exact Nat.le_add_right _ _
    refine ⟨⟨before, ⟨fault.rest, split⟩, line⟩, ?_, ?_⟩
    · exact Nat.le_add_left _ _
    · show lineOf (lineFeeds source.toList) fault.rest ≤ _
      omega

/-- A bracket that is missing on the second line of a script, and on the fourth with two lines in
front. -/
theorem parse_newlines_unclosed : ∃ malformed,
    parse "a(x: 1\n]" = .error malformed ∧ malformed.line = 2 ∧
    parse (String.ofList (List.replicate 2 '\n') ++ "a(x: 1\n]") =
      .error (malformed.movedDown 2) ∧
    malformed.line ≤ 1 + lineFeeds "a(x: 1\n]".toList := by
  have line : (match parse "a(x: 1\n]" with
      | .ok _ => 0
      | .error malformed => malformed.line) = 2 := by decide +kernel
  cases read : parse "a(x: 1\n]" with
  | ok script => simp [read] at line
  | error malformed =>
      rw [read] at line
      obtain ⟨moved, places⟩ := parse_newlines "a(x: 1\n]" 2
      rw [read] at moved
      exact ⟨malformed, rfl, line, moved, (places malformed read).2.2⟩

end Script

end Migration
