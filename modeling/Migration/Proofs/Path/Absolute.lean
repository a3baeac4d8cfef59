import Migration.Proofs.Path.Form

/-!
# Absolute paths

No step up leaves a root that is a separator.  A drive is a root for `isAbsolute` only: the canonical
form has it as one of the names of the path, which a step up removes, and which another one takes
the place of.  The main statement says which paths are absolute before and after, or neither.
-/

namespace Migration.Path

/-- Whether segments lead from a drive, which is a letter and a colon, to something behind it. -/
def leadFromDrive : List (List Char) → Bool
  | [letter, ':'] :: _ :: _ => letter.isAlpha
  | _ => false

/-- An empty segment for the separator at the end of a path. -/
def closing (path : List Char) : List (List Char) :=
  if (slashed path).getLast? = some '/' then [[]] else []

/-- The segments that are left of a path, with an empty one for a separator at its end. -/
def remaining (path : List Char) : List (List Char) :=
  segments false (slashed path) ++ closing path

theorem leadFromDrive_cons {letter : Char} (isLetter : letter.isAlpha = true)
    (rest : List (List Char)) :
    leadFromDrive ([letter, ':'] :: rest) = true ↔ rest ≠ [] := by
  cases rest <;> simp [leadFromDrive, isLetter]

theorem leadFromDrive_eq_true {parts : List (List Char)} (leads : leadFromDrive parts = true) :
    ∃ letter next rest, parts = [letter, ':'] :: next :: rest ∧ letter.isAlpha = true := by
  unfold leadFromDrive at leads
  split at leads
  · exact ⟨_, _, _, rfl, leads⟩
  · cases leads

theorem split_drive {letter : Char} (isLetter : letter.isAlpha = true) (rest : List Char) :
    Text.split '/' (letter :: ':' :: '/' :: rest) = [letter, ':'] :: Text.split '/' rest := by
  have other : letter ≠ '/' := by
    rintro rfl
    cases isLetter
  have name : Text.split '/' [letter, ':'] = [[letter, ':']] :=
    Text.split_of_not_mem (by simp [Ne.symm other])
  have cut := Text.split_append_cons '/' [letter, ':'] rest
  rwa [name] at cut

/-- A path leads from a drive if it begins with a letter, a colon and a separator. -/
theorem leadFromDrive_split {path : List Char} :
    leadFromDrive (Text.split '/' path) = true ↔
      ∃ letter rest, path = letter :: ':' :: '/' :: rest ∧ letter.isAlpha = true := by
  constructor
  · intro leads
    obtain ⟨letter, next, rest, cut, isLetter⟩ := leadFromDrive_eq_true leads
    refine ⟨letter, join (next :: rest), ?_, isLetter⟩
    rw [← join_split path, cut, join, List.intercalate_cons_cons]
    rfl
  · rintro ⟨letter, rest, rfl, isLetter⟩
    rw [split_drive isLetter, leadFromDrive_cons isLetter]
    exact Text.split_ne_nil '/' rest

theorem isAbsolute_iff {path : String} :
    isAbsolute path = true ↔ (slashed path.toList).head? = some '/' ∨
      leadFromDrive (Text.split '/' (slashed path.toList)) = true := by
  rw [leadFromDrive_split, isAbsolute]
  split
  · rename_i rest same
    exact iff_of_true rfl (.inl (by rw [same]; rfl))
  · rename_i drive rest notSlash same
    rw [same]
    constructor
    · exact fun isLetter => .inr ⟨drive, rest, rfl, isLetter⟩
    · rintro (slash | ⟨letter, rest, again, isLetter⟩)
      · simp_all
      · simp_all
  · rename_i notSlash notDrive
    refine iff_of_false Bool.false_ne_true ?_
    rintro (slash | ⟨letter, rest, again, -⟩)
    · obtain ⟨rest, same⟩ := List.head?_eq_some_iff.mp slash
      exact notSlash rest same
    · exact notDrive letter rest again

/-! ## Walks below a name -/

/-- What a walk leaves below a name: a step up that it would leave takes the name away. -/
def below (name : List Char) (stack : List (List Char)) : List (List Char) :=
  if ['.', '.'] ∈ stack then stack.dropLast else stack ++ [name]

section

variable {name : List Char} {names : List (List Char)}

theorem up_not_mem (areNames : ∀ name ∈ names, IsName name) : ['.', '.'] ∉ names :=
  fun up => (areNames _ up).ne_up rfl

theorem below_names (areNames : ∀ name ∈ names, IsName name) :
    below name names = names ++ [name] :=
  if_neg (up_not_mem areNames)

theorem below_ups (names : List (List Char)) (ups : Nat) :
    below name (names ++ List.replicate (ups + 1) ['.', '.']) =
      names ++ List.replicate ups ['.', '.'] := by
  have up : ['.', '.'] ∈ names ++ List.replicate (ups + 1) ['.', '.'] := by simp
  rw [below, if_pos up, List.replicate_succ', ← List.append_assoc, List.dropLast_concat]

/-- A walk below a name takes the steps of the walk, and the name is gone where that climbs. -/
theorem walk_below (isName : IsName name) {stack : List (List Char)}
    (reduced : IsReduced false stack) (segment : List Char) :
    walk false (below name stack) segment = below name (walk false stack segment) := by
  obtain ⟨names, ups, rfl, areNames, -⟩ := reduced
  by_cases stays : segment = [] ∨ segment = ['.']
  · simp only [walk, if_pos stays]
  by_cases up : segment = ['.', '.']
  · subst up
    cases names with
    | nil =>
        cases ups with
        | zero =>
            have start : below name [] = [name] := rfl
            have gone : below name [['.', '.']] = [] := rfl
            simp [walk, start, gone, isName.ne_up]
        | succ ups =>
            have above (ups : Nat) : below name (List.replicate (ups + 1) ['.', '.']) =
                List.replicate ups ['.', '.'] :=
              below_ups [] ups
            rw [List.nil_append, above, walk_ups, walk_ups, above]
    | cons first names =>
        obtain ⟨isFirst, others⟩ := List.forall_mem_cons.mp areNames
        rw [List.cons_append, walk_up_of_isName isFirst]
        cases ups with
        | zero =>
            rw [List.replicate_zero, List.append_nil, below_names areNames, below_names others,
              List.cons_append, walk_up_of_isName isFirst]
        | succ ups =>
            rw [← List.cons_append, below_ups, below_ups, List.cons_append,
              walk_up_of_isName isFirst]
  · have isSegment : IsName segment :=
      ⟨fun nothing => stays (.inl nothing), fun here => stays (.inr here), up⟩
    have areAll : ∀ name ∈ segment :: names, IsName name :=
      List.forall_mem_cons.mpr ⟨isSegment, areNames⟩
    rw [walk_of_isName isSegment, walk_of_isName isSegment, ← List.cons_append]
    cases ups with
    | zero =>
        rw [List.replicate_zero, List.append_nil, List.append_nil, below_names areNames,
          below_names areAll, List.cons_append]
    | succ ups => rw [below_ups, below_ups, List.cons_append]

theorem foldl_walk_below (isName : IsName name) (parts : List (List Char))
    {stack : List (List Char)} (reduced : IsReduced false stack) :
    parts.foldl (walk false) (below name stack) =
      below name (parts.foldl (walk false) stack) := by
  induction parts generalizing stack with
  | nil => rfl
  | cons part parts ih =>
      rw [List.foldl_cons, List.foldl_cons, walk_below isName reduced,
        ih (isReduced_walk part reduced)]

/-- What is left below a drive has the drive in front, unless it would climb above it. -/
theorem segments_drive {letter : Char} (isLetter : letter.isAlpha = true) (rest : List Char) :
    segments false (letter :: ':' :: '/' :: rest) =
      if ['.', '.'] ∈ segments false rest then (segments false rest).tail
      else [letter, ':'] :: segments false rest := by
  have isName : IsName [letter, ':'] := ⟨by simp, by simp, by simp⟩
  have walked := foldl_walk_below isName (Text.split '/' rest) (isReduced_nil false)
  have start : below [letter, ':'] [] = [[letter, ':']] := rfl
  rw [start] at walked
  rw [segments, split_drive isLetter, List.foldl_cons, walk_of_isName isName, walked, below]
  simp only [segments, List.mem_reverse]
  split
  · rw [← List.tail_reverse]
  · rw [List.reverse_append, List.reverse_singleton, List.singleton_append]

end

/-! ## Before and after -/

section

variable {path : String}

theorem normalizeChars_of_real (real : isVirtual path = false) :
    normalizeChars path.toList = tidy (slashed path.toList) := by
  have unmarked : ¬ virtualRoot.isPrefixOf (slashed path.toList) := by
    rw [isPrefixOf_slashed]
    exact Bool.eq_false_iff.mp real
  rw [normalizeChars_eq, splitRoot, if_neg unmarked, List.nil_append]

/-- The canonical form of a relative path has the segments that are left. -/
theorem leadFromDrive_split_tidy {path : List Char} (relative : (slashed path).head? ≠ some '/') :
    leadFromDrive (Text.split '/' (tidy (slashed path))) = leadFromDrive (remaining path) := by
  obtain ⟨stack, same, -, characters⟩ := segments_spec false (slashed path)
  have apart : ∀ part ∈ segments false (slashed path), '/' ∉ part := by
    rw [same]
    exact fun part member slash => (characters part (List.mem_reverse.mp member) '/' slash).2 rfl
  rw [tidy_eq, decide_eq_false relative, remaining, closing]
  by_cases nothing : segments false (slashed path) = []
  · rw [nothing]
    split <;> simp [written, join, Text.split, leadFromDrive]
  · simp [split_written nothing apart, nothing]

/-- Before and after, a path is absolute if it begins with a separator, or if its segments lead from
a drive. -/
theorem isAbsolute_normalize_iff (real : isVirtual path = false) :
    isAbsolute (normalize path) = true ↔ (slashed path.toList).head? = some '/' ∨
      leadFromDrive (remaining path.toList) = true := by
  have clean := slashed_of_not_mem (backslash_not_mem_normalizeChars path.toList)
  rw [isAbsolute_iff, normalize, String.toList_ofList, clean, normalizeChars_of_real real,
    head?_tidy]
  by_cases begins : (slashed path.toList).head? = some '/'
  · exact iff_of_true (.inl begins) (.inl begins)
  · rw [leadFromDrive_split_tidy begins]

/-- A path that is not virtual is absolute before and after, or neither, exactly if it begins with
a separator, or if what is left of it leads from a drive as the path itself does.  So a path on a
drive that does not climb above it stays absolute as long as something is left behind the drive.
One that does has lost its drive, and is absolute only if another one has come to the front. -/
theorem isAbsolute_normalize_eq_iff (real : isVirtual path = false) :
    (isAbsolute (normalize path) = isAbsolute path ↔
      (slashed path.toList).head? = some '/' ∨
        leadFromDrive (remaining path.toList) =
          leadFromDrive (Text.split '/' (slashed path.toList))) ∧
    ∀ letter rest, slashed path.toList = letter :: ':' :: '/' :: rest → letter.isAlpha = true →
      (['.', '.'] ∉ segments false rest →
        (isAbsolute (normalize path) = true ↔ segments false rest ++ closing path.toList ≠ [])) ∧
      (['.', '.'] ∈ segments false rest →
        (isAbsolute (normalize path) = true ↔
          leadFromDrive ((segments false rest).tail ++ closing path.toList) = true)) := by
  constructor
  · by_cases begins : (slashed path.toList).head? = some '/'
    · have before : isAbsolute path = true := isAbsolute_iff.mpr (.inl begins)
      have after := (isAbsolute_normalize_iff real).mpr (.inl begins)
      exact iff_of_true (after.trans before.symm) (.inl begins)
    · have before : isAbsolute path = leadFromDrive (Text.split '/' (slashed path.toList)) :=
        Bool.eq_iff_iff.mpr (isAbsolute_iff.trans (or_iff_right begins))
      have after : isAbsolute (normalize path) = leadFromDrive (remaining path.toList) :=
        Bool.eq_iff_iff.mpr ((isAbsolute_normalize_iff real).trans (or_iff_right begins))
      rw [before, after, or_iff_right begins]
  · intro letter rest same isLetter
    have begins : (slashed path.toList).head? ≠ some '/' := by
      rw [same]
      rintro ⟨⟩
      cases isLetter
    have left := segments_drive isLetter rest
    rw [← same] at left
    rw [isAbsolute_normalize_iff real, or_iff_right begins, remaining, left]
    constructor
    · intro level
      rw [if_neg level, List.cons_append, leadFromDrive_cons isLetter]
    · intro climbs
      rw [if_pos climbs]

/-- A path that walks about on its drive, and one that only another drive keeps absolute. -/
theorem isAbsolute_onDrives :
    isVirtual "c:\\x\\..\\db" = false ∧ ['.', '.'] ∉ segments false "x/../db".toList ∧
    isAbsolute (normalize "c:\\x\\..\\db") = true ∧
    isVirtual "C:/../D:/db" = false ∧ ['.', '.'] ∈ segments false "../D:/db".toList ∧
    isAbsolute (normalize "C:/../D:/db") = true ∧
    leadFromDrive (remaining "C:/../D:/db".toList) =
      leadFromDrive (Text.split '/' (slashed "C:/../D:/db".toList)) ∧
    isAbsolute (normalize "C:/../D:/db") = isAbsolute "C:/../D:/db" := by
  have level : ['.', '.'] ∉ segments false "x/../db".toList := by decide
  have climbs : ['.', '.'] ∈ segments false "../D:/db".toList := by decide
  have leads : leadFromDrive (remaining "C:/../D:/db".toList) =
      leadFromDrive (Text.split '/' (slashed "C:/../D:/db".toList)) := by decide
  have isReal : isVirtual "c:\\x\\..\\db" = false := by decide
  have isReal' : isVirtual "C:/../D:/db" = false := by decide
  have stays := (isAbsolute_normalize_eq_iff isReal).2 'c' "x/../db".toList (by decide) rfl
  have turns := (isAbsolute_normalize_eq_iff isReal').2 'C' "../D:/db".toList (by decide) rfl
  exact ⟨isReal, level, (stays.1 level).mpr (by decide), isReal', climbs,
    (turns.2 climbs).mpr (by decide), leads,
    (isAbsolute_normalize_eq_iff isReal').1.mpr (.inr leads)⟩

/-- A step up leaves a drive, and the path with it. -/
theorem not_isAbsolute_normalize_eq :
    ¬ ∀ path, isVirtual path = false → isAbsolute (normalize path) = isAbsolute path :=
  fun claimed => absurd (claimed "C:/../a.qcl" (by decide)) (by decide)

end

end Migration.Path
