import Migration.Proofs.Path.Canonical

/-!
# Paths in a directory

A path that stays inside the directory it is seen from has a canonical form of names only.  Where
another directory is put in front of it, the names of that directory come before its names, and so
whatever is computed from the path gains the same front.  The one thing that is not computed so is
whether a path is that of a script: a name that is nothing but the extension counts in a directory.
-/

namespace Migration.Path

/-- Whether the canonical form of a path is relative, not virtual, and has no step up: it leads to
the directory that it is seen from, or to something in there. -/
def IsInside (path : String) : Prop :=
  (normalizeChars path.toList).head? ≠ some '/' ∧
    ¬ virtualRoot.isPrefixOf (normalizeChars path.toList) ∧
    ['.', '.'] ∉ Text.split '/' (normalizeChars path.toList)

instance : DecidablePred IsInside :=
  fun _ => inferInstanceAs (Decidable (_ ∧ _ ∧ _))

/-- Whether a path leads to something in the directory that it is seen from. -/
def IsPlain (path : String) : Prop :=
  IsInside path ∧ normalizeChars path.toList ≠ []

instance : DecidablePred IsPlain :=
  fun _ => inferInstanceAs (Decidable (_ ∧ _))

/-! ## Walks in a directory -/

/-- A step up that is left stays. -/
theorem up_mem_foldl_walk {parts stack : List (List Char)} (up : ['.', '.'] ∈ stack) :
    ['.', '.'] ∈ parts.foldl (walk false) stack := by
  induction parts generalizing stack with
  | nil => exact up
  | cons part parts ih =>
      refine ih ?_
      unfold walk
      grind

/-- One step of a walk that leaves no step up goes the same way in a directory. -/
theorem walk_append {stack : List (List Char)} {part : List Char} (base : List (List Char))
    (level : ['.', '.'] ∉ walk false stack part) :
    walk false (stack ++ base) part = walk false stack part ++ base := by
  by_cases stays : part = [] ∨ part = ['.']
  · simp [walk, stays]
  by_cases up : part = ['.', '.']
  · subst up
    cases stack with
    | nil => simp [walk] at level
    | cons last before =>
        by_cases isUp : last = ['.', '.']
        · simp [walk, isUp] at level
        · simp [walk, isUp]
  · simp [walk, stays, up]

/-- A walk that leaves no step up goes the same way in a directory. -/
theorem foldl_walk_append {parts stack : List (List Char)} (base : List (List Char))
    (level : ['.', '.'] ∉ parts.foldl (walk false) stack) :
    parts.foldl (walk false) (stack ++ base) = parts.foldl (walk false) stack ++ base := by
  induction parts generalizing stack with
  | nil => rfl
  | cons part parts ih =>
      rw [List.foldl_cons] at level
      have here : ['.', '.'] ∉ walk false stack part := fun up => level (up_mem_foldl_walk up)
      rw [List.foldl_cons, List.foldl_cons, walk_append base here, ih level]

/-! ## Written names -/

theorem written_false (names : List (List Char)) (trailing : Bool) :
    written false names trailing = join names ++ if trailing then ['/'] else [] := rfl

theorem join_append {first second : List (List Char)} (first_ne : first ≠ [])
    (second_ne : second ≠ []) : join (first ++ second) = join first ++ '/' :: join second := by
  induction first with
  | nil => exact absurd rfl first_ne
  | cons name first ih =>
      cases first with
      | nil =>
          obtain ⟨next, rest, rfl⟩ := List.exists_cons_of_ne_nil second_ne
          simp [join, List.intercalate_singleton, List.intercalate_cons_cons]
      | cons next first =>
          have rest := ih (by simp)
          simp only [join, List.cons_append, List.intercalate_cons_cons] at rest ⊢
          simp [rest]

theorem mem_split_written {parts : List (List Char)} {part : List Char} (trailing : Bool)
    (member : part ∈ parts) (apart : ∀ part ∈ parts, '/' ∉ part) :
    part ∈ Text.split '/' (written false parts trailing) := by
  rw [split_written (List.ne_nil_of_mem member) apart]
  simp [member]

/-- The mark of the virtual root holds no separator, so it stands before the first one. -/
theorem isPrefixOf_virtualRoot_append (path rest : List Char) :
    virtualRoot.isPrefixOf (path ++ '/' :: rest) = virtualRoot.isPrefixOf path := by
  have noSlash : '/' ∉ virtualRoot := by decide
  rw [Bool.eq_iff_iff, List.isPrefixOf_iff_prefix, List.isPrefixOf_iff_prefix]
  refine ⟨fun marked => ?_, fun marked => marked.trans (List.prefix_append _ _)⟩
  have begins : path ++ ['/'] <+: path ++ '/' :: rest := ⟨rest, by simp⟩
  rcases List.prefix_or_prefix_of_prefix marked begins with inside | longer
  · rcases List.prefix_concat_iff.mp inside with same | inside
    · exact absurd (same ▸ by simp) noSlash
    · exact inside
  · exact absurd (longer.subset (by simp)) noSlash

/-- Names between separators that can be read back, and do not read as a virtual path. -/
structure AreWritten (names : List (List Char)) : Prop where
  areNames : ∀ name ∈ names, IsName name
  apart : ∀ name ∈ names, '/' ∉ name ∧ '\\' ∉ name
  unmarked : ¬ virtualRoot.isPrefixOf (join names)

namespace AreWritten

variable {names more : List (List Char)}

theorem append (first : AreWritten names) (second : AreWritten more) (nonempty : names ≠ []) :
    AreWritten (names ++ more) where
  areNames name member :=
    (List.mem_append.mp member).elim (first.areNames name) (second.areNames name)
  apart name member := (List.mem_append.mp member).elim (first.apart name) (second.apart name)
  unmarked := by
    by_cases nothing : more = []
    · simpa [nothing] using first.unmarked
    · rw [join_append nonempty nothing, isPrefixOf_virtualRoot_append]
      exact first.unmarked

theorem unmarked_written (areWritten : AreWritten names) (trailing : Bool) :
    ¬ virtualRoot.isPrefixOf (written false names trailing) := by
  cases trailing with
  | false => simpa [written] using areWritten.unmarked
  | true =>
      have same := isPrefixOf_virtualRoot_append (join names) []
      simpa [written, same] using areWritten.unmarked

theorem slashed_written (areWritten : AreWritten names) (trailing : Bool) :
    slashed (written false names trailing) = written false names trailing := by
  refine slashed_of_not_mem fun backslash => ?_
  simp only [written, Bool.false_eq_true, if_false, List.nil_append, List.mem_append] at backslash
  rcases backslash with inside | closing
  · rcases mem_join inside with slash | ⟨name, isName, inside⟩
    · cases slash
    · exact (areWritten.apart name isName).2 inside
  · split at closing <;> simp at closing

theorem isReduced (areWritten : AreWritten names) : IsReduced false names.reverse :=
  ⟨names.reverse, 0, by simp, fun name member => areWritten.areNames name (by simpa using member),
    by simp⟩

theorem areNonempty (areWritten : AreWritten names) : ∀ name ∈ names, name ≠ [] :=
  fun name member => (areWritten.areNames name member).nonempty

theorem areApart (areWritten : AreWritten names) : ∀ name ∈ names, '/' ∉ name :=
  fun name member => (areWritten.apart name member).1

theorem head?_written (areWritten : AreWritten names) {trailing : Bool}
    (closed : trailing = true → names ≠ []) :
    (written false names trailing).head? ≠ some '/' := by
  rw [Ne, Path.head?_written areWritten.areNonempty areWritten.areApart closed]
  exact Bool.false_ne_true

/-- Written names are in canonical form. -/
theorem normalizeChars_written (areWritten : AreWritten names) {trailing : Bool}
    (closed : trailing = true → names ≠ []) :
    normalizeChars (written false names trailing) = written false names trailing := by
  have noRoot : splitRoot (written false names trailing) = ([], written false names trailing) :=
    if_neg (areWritten.unmarked_written trailing)
  have tidied := tidy_written trailing areWritten.isReduced
    (fun name member => (areWritten.apart name (by simpa using member)).1)
    fun isClosed => by simpa using closed isClosed
  rw [List.reverse_reverse] at tidied
  rw [normalizeChars_eq, areWritten.slashed_written, noRoot, tidied, List.nil_append]

end AreWritten

/-! ## Where a path leads -/

/-- The names along the way from where a path is seen. -/
structure Leads (path : List Char) (names : List (List Char)) : Prop where
  relative : (slashed path).head? ≠ some '/'
  unmarked : ¬ virtualRoot.isPrefixOf (slashed path)
  segments : segments false (slashed path) = names
  areWritten : AreWritten names

/-- Whether a path ends in a separator, and is not just that. -/
def isClosed (path : List Char) : Bool :=
  decide ((slashed path).length > 1 ∧ (slashed path).getLast? = some '/')

namespace Leads

variable {path : List Char} {names : List (List Char)}

theorem normalizeChars_eq (leads : Leads path names) :
    normalizeChars path = written false names (isClosed path && decide (names ≠ [])) := by
  have noRoot : splitRoot (slashed path) = ([], slashed path) := if_neg leads.unmarked
  rw [Path.normalizeChars_eq, noRoot, tidy]
  simp [leads.relative, leads.segments, isClosed]

theorem normalizeChars_ne_nil (leads : Leads path names) :
    normalizeChars path ≠ [] ↔ names ≠ [] := by
  rw [leads.normalizeChars_eq]
  by_cases nothing : names = []
  · simp [nothing, written, join]
  · simp [written, nothing, join_ne_nil leads.areWritten.areNonempty nothing]

theorem of_written {trailing : Bool} (areWritten : AreWritten names)
    (closed : trailing = true → names ≠ []) : Leads (written false names trailing) names where
  relative := by
    rw [areWritten.slashed_written]
    exact areWritten.head?_written closed
  unmarked := by
    rw [areWritten.slashed_written]
    exact areWritten.unmarked_written trailing
  segments := by
    have read := segments_written trailing areWritten.isReduced
      fun name member => (areWritten.apart name (by simpa using member)).1
    rwa [List.reverse_reverse, ← areWritten.slashed_written] at read
  areWritten := areWritten

theorem isInside {path : String} (leads : Leads path.toList names) : IsInside path := by
  have closed : (isClosed path.toList && decide (names ≠ [])) = true → names ≠ [] := by simp
  refine ⟨?_, ?_, ?_⟩
  · rw [leads.normalizeChars_eq]
    exact leads.areWritten.head?_written closed
  · rw [leads.normalizeChars_eq]
    exact leads.areWritten.unmarked_written _
  · rw [leads.normalizeChars_eq]
    intro up
    rcases mem_of_mem_split_written leads.areWritten.areApart up with name | nothing
    · exact (leads.areWritten.areNames _ name).ne_up rfl
    · cases nothing

end Leads

theorem IsInside.leads {path : String} (inside : IsInside path) :
    ∃ names, Leads path.toList names := by
  obtain ⟨relative, unmarked, level⟩ := inside
  rcases splitRoot_spec (slashed path.toList) with ⟨-, root⟩ | ⟨notMarked, noRoot⟩
  · rw [normalizeChars_eq, root] at unmarked
    simp at unmarked
  rw [normalizeChars_eq, noRoot, List.nil_append] at relative unmarked level
  have relative' : (slashed path.toList).head? ≠ some '/' := by
    intro absolute
    simp [tidy, written, absolute] at relative
  obtain ⟨stack, same, reduced, characters⟩ := segments_spec false (slashed path.toList)
  have spelled : tidy (slashed path.toList) =
      written false stack.reverse (isClosed path.toList && decide (stack.reverse ≠ [])) := by
    simp [tidy, relative', same, isClosed]
  have apart : ∀ part ∈ stack.reverse, '/' ∉ part := fun part member slash =>
    (characters part (by simpa using member) _ slash).2 rfl
  have noUp : ['.', '.'] ∉ stack := by
    intro up
    refine level ?_
    rw [spelled]
    exact mem_split_written _ (by simpa using up) apart
  refine ⟨stack.reverse, relative', notMarked, same, ?_, ?_, ?_⟩
  · obtain ⟨names, ups, rfl, areNames, -⟩ := reduced
    intro name member
    rcases List.mem_append.mp (List.mem_reverse.mp member) with named | up
    · exact areNames name named
    · exact absurd (List.mem_append_right names ((List.mem_replicate.mp up).2 ▸ up)) noUp
  · refine fun name member => ⟨apart name member, fun backslash => ?_⟩
    exact backslash_not_mem_slashed _ (characters name (by simpa using member) _ backslash).1
  · intro marked
    rw [spelled, written_false] at unmarked
    rw [List.isPrefixOf_iff_prefix] at marked unmarked
    exact unmarked (marked.trans (List.prefix_append _ _))

theorem IsPlain.leads {path : String} (plain : IsPlain path) :
    ∃ names, Leads path.toList names ∧ names ≠ [] := by
  obtain ⟨names, leads⟩ := plain.1.leads
  exact ⟨names, leads, leads.normalizeChars_ne_nil.mp plain.2⟩

/-- The canonical form of a path that stays inside is a fixed point. -/
theorem IsInside.normalize_normalize {path : String} (inside : IsInside path) :
    normalize (normalize path) = normalize path := by
  obtain ⟨names, leads⟩ := inside.leads
  simp only [normalize, String.toList_ofList, leads.normalizeChars_eq]
  rw [leads.areWritten.normalizeChars_written fun closed => by simp_all]

theorem isPlain_normalize {path : String} (plain : IsPlain path) : IsPlain (normalize path) := by
  obtain ⟨names, leads, nonempty⟩ := plain.leads
  have again : Leads (normalize path).toList names := by
    rw [normalize, String.toList_ofList, leads.normalizeChars_eq]
    exact .of_written leads.areWritten (by simp)
  exact ⟨again.isInside, again.normalizeChars_ne_nil.mpr nonempty⟩

/-- A path whose canonical form leads inside does so itself. -/
theorem IsPlain.of_normalize {path : String} (plain : IsPlain (normalize path)) :
    IsPlain path := by
  have unmarked : ¬ virtualRoot.isPrefixOf (normalizeChars path.toList) := by
    intro marked
    refine plain.1.2.1 ?_
    have root : (splitRoot (normalizeChars path.toList)).1 = virtualRoot := by
      simp only [splitRoot, if_pos marked]
    rw [normalize, String.toList_ofList, normalizeChars_normalizeChars, root]
    simp
  have fixed := normalizeChars_twice unmarked
  simpa only [IsPlain, IsInside, normalize, String.toList_ofList, fixed] using plain

/-! ## The directory in front -/

/-- Whether a path is the canonical form of a directory other than the one it is seen from. -/
def IsDirectory (path : String) : Prop :=
  IsPlain path ∧ asDirectory path = path

instance : DecidablePred IsDirectory :=
  fun _ => inferInstanceAs (Decidable (_ ∧ _))

/-- The names of a directory as they are spelled in front of a path. -/
structure Spells (names : List (List Char)) (front : List Char) : Prop where
  nonempty : names ≠ []
  areWritten : AreWritten names
  spelled : front = written false names true

namespace Leads

variable {path : List Char} {names : List (List Char)}

theorem asDirectory_eq {path : String} (leads : Leads path.toList names) :
    asDirectory path = String.ofList (written false names (decide (names ≠ []))) := by
  cases names with
  | nil => simp [asDirectory, leads.normalizeChars_eq, written, join]
  | cons name names =>
      have nonempty := leads.normalizeChars_ne_nil.mpr (by simp)
      have ends := getLast?_join_ne leads.areWritten.areNonempty leads.areWritten.areApart
      rw [leads.normalizeChars_eq] at nonempty
      simp only [asDirectory, leads.normalizeChars_eq]
      congr 1
      cases closed : isClosed path.toList with
      | true => simp [written_false]
      | false => simp_all [written_false]

end Leads

theorem IsDirectory.spells {directory : String} (isDirectory : IsDirectory directory) :
    ∃ names, Spells names directory.toList := by
  obtain ⟨plain, fixed⟩ := isDirectory
  obtain ⟨names, leads, nonempty⟩ := plain.leads
  refine ⟨names, nonempty, leads.areWritten, ?_⟩
  rw [leads.asDirectory_eq] at fixed
  rw [← fixed]
  simp [nonempty]

namespace Spells

variable {front path : List Char} {names more : List (List Char)}

theorem slashed_append (spells : Spells names front) (path : List Char) :
    slashed (front ++ path) = front ++ slashed path := by
  have clean : slashed front = front := by
    rw [spells.spelled, spells.areWritten.slashed_written]
  rw [slashed, List.map_append]
  exact congrArg (· ++ slashed path) clean

theorem eq_join (spells : Spells names front) : front = join names ++ ['/'] := by
  simp [spells.spelled, written_false]

theorem written_append (spells : Spells names front) (nonempty : more ≠ []) (trailing : Bool) :
    written false (names ++ more) trailing = front ++ written false more trailing := by
  simp [written_false, join_append spells.nonempty nonempty, spells.eq_join]

theorem segments_append (spells : Spells names front)
    (level : ['.', '.'] ∉ segments false path) :
    segments false (front ++ path) = names ++ segments false path := by
  have pieces : Text.split '/' (front ++ path) = names ++ Text.split '/' path := by
    rw [spells.eq_join, List.append_assoc, List.singleton_append, Text.split_append_cons,
      split_join spells.nonempty spells.areWritten.areApart]
  have level' : ['.', '.'] ∉ (Text.split '/' path).foldl (walk false) [] := by
    simpa [segments] using level
  rw [segments, pieces, List.foldl_append, foldl_walk_names spells.areWritten.areNames,
    List.append_nil]
  have there := foldl_walk_append names.reverse level'
  rw [List.nil_append] at there
  simp [there, segments]

theorem leads_append (spells : Spells names front) (leads : Leads path more) :
    Leads (front ++ path) (names ++ more) where
  relative := by
    have begins : front.head? ≠ some '/' := by
      rw [spells.spelled]
      exact spells.areWritten.head?_written fun _ => spells.nonempty
    rw [spells.slashed_append, List.head?_append]
    cases front with
    | nil => exact absurd spells.eq_join (by simp)
    | cons c front => exact begins
  unmarked := by
    rw [spells.slashed_append, spells.eq_join, List.append_assoc, List.singleton_append,
      isPrefixOf_virtualRoot_append]
    exact spells.areWritten.unmarked
  segments := by
    rw [spells.slashed_append, spells.segments_append, leads.segments]
    rw [leads.segments]
    exact fun up => (leads.areWritten.areNames _ up).ne_up rfl
  areWritten := spells.areWritten.append leads.areWritten spells.nonempty

theorem isClosed_append (spells : Spells names front) (leads : Leads path more)
    (nonempty : more ≠ []) : isClosed (front ++ path) = isClosed path := by
  have something : slashed path ≠ [] := by
    intro nothing
    have read := leads.segments
    rw [nothing] at read
    exact nonempty read.symm
  obtain ⟨c, rest, same⟩ := List.exists_cons_of_ne_nil something
  have long : (slashed path).getLast? = some '/' → (slashed path).length > 1 := by
    have relative := leads.relative
    rw [same] at relative ⊢
    cases rest with
    | nil => simpa using relative
    | cons => simp
  have isLonger : (front ++ slashed path).length > 1 := by
    simp only [same, spells.eq_join, List.length_append, List.length_cons, List.length_nil]
    omega
  have ends : (front ++ slashed path).getLast? = (slashed path).getLast? := by
    rw [List.getLast?_append, Option.or_of_isSome (List.getLast?_isSome.mpr something)]
  simp only [isClosed, spells.slashed_append, ends, isLonger, true_and]
  exact decide_eq_decide.mpr ⟨fun last => ⟨long last, last⟩, fun both => both.2⟩

/-- The canonical form of a path gains the directory in front. -/
theorem normalizeChars_append (spells : Spells names front) (leads : Leads path more)
    (nonempty : more ≠ []) : normalizeChars (front ++ path) = front ++ normalizeChars path := by
  rw [(spells.leads_append leads).normalizeChars_eq, leads.normalizeChars_eq,
    spells.isClosed_append leads nonempty, spells.written_append nonempty]
  simp [nonempty]

end Spells

/-! ## Directories of paths -/

/-- What stands up to and with the last separator of a path. -/
def folder (path : List Char) : List Char :=
  (path.reverse.dropWhile fun c => !isSeparator c).reverse

theorem parentChars_eq (path : List Char) :
    parentChars path = if folder path = [] then (splitRoot path).1 else folder path := rfl

theorem folder_append (front back : List Char) :
    folder (front ++ back) = if folder back = [] then folder front else front ++ folder back := by
  unfold folder
  rw [List.reverse_append, List.dropWhile_append]
  cases back.reverse.dropWhile fun c => !isSeparator c <;> simp

theorem splitRoot_fst_of_unmarked {path : List Char} (unmarked : ¬ virtualRoot.isPrefixOf path) :
    (splitRoot path).1 = [] := by
  rw [splitRoot, if_neg unmarked]

theorem parentChars_of_unmarked {path : List Char} (unmarked : ¬ virtualRoot.isPrefixOf path) :
    parentChars path = folder path := by
  rw [parentChars_eq, splitRoot_fst_of_unmarked unmarked]
  split
  · rename_i nothing
    exact nothing.symm
  · rfl

/-! ## What a path gains -/

section

variable {directory path : String}

theorem isInside_append (isDirectory : IsDirectory directory) (inside : IsInside path) :
    IsInside (directory ++ path) := by
  obtain ⟨names, spells⟩ := isDirectory.spells
  obtain ⟨more, leads⟩ := inside.leads
  have moved := spells.leads_append leads
  rw [← String.toList_append] at moved
  exact moved.isInside

theorem normalize_append (isDirectory : IsDirectory directory) (plain : IsPlain path) :
    normalize (directory ++ path) = directory ++ normalize path := by
  obtain ⟨names, spells⟩ := isDirectory.spells
  obtain ⟨more, leads, nonempty⟩ := plain.leads
  rw [normalize, String.toList_append, spells.normalizeChars_append leads nonempty, normalize,
    String.ofList_append, String.ofList_toList]

theorem asDirectory_append (isDirectory : IsDirectory directory) (inside : IsInside path) :
    asDirectory (directory ++ path) = directory ++ asDirectory path := by
  obtain ⟨names, spells⟩ := isDirectory.spells
  obtain ⟨more, leads⟩ := inside.leads
  have moved := spells.leads_append leads
  rw [← String.toList_append] at moved
  rw [moved.asDirectory_eq, leads.asDirectory_eq]
  by_cases nothing : more = []
  · subst nothing
    rw [List.append_nil, decide_eq_true spells.nonempty, ← spells.spelled]
    simp [written_false, join]
  · rw [spells.written_append nothing, String.ofList_append, String.ofList_toList]
    simp [spells.nonempty, nothing]

/-- The canonical form of a directory inside is inside, and a fixed point. -/
theorem IsInside.asDirectory_asDirectory (inside : IsInside path) :
    IsInside (asDirectory path) ∧ asDirectory (asDirectory path) = asDirectory path := by
  obtain ⟨names, leads⟩ := inside.leads
  have again : Leads (asDirectory path).toList names := by
    rw [leads.asDirectory_eq, String.toList_ofList]
    exact .of_written leads.areWritten of_decide_eq_true
  refine ⟨again.isInside, ?_⟩
  rw [again.asDirectory_eq, leads.asDirectory_eq]

theorem parent_append (isDirectory : IsDirectory directory)
    (unmarked : ¬ virtualRoot.isPrefixOf path.toList) :
    parent (directory ++ path) = directory ++ parent path := by
  obtain ⟨names, spells⟩ := isDirectory.spells
  have own : folder directory.toList = directory.toList := by
    rw [spells.eq_join]
    simp [folder, isSeparator]
  have whole : folder (directory.toList ++ path.toList) =
      directory.toList ++ folder path.toList := by
    rw [folder_append, own]
    split
    · rename_i nothing
      rw [nothing, List.append_nil]
    · rfl
  have something : folder (directory.toList ++ path.toList) ≠ [] := by
    rw [whole, spells.eq_join]
    simp
  rw [parent, parent, String.toList_append, parentChars_eq, if_neg something, whole,
    parentChars_of_unmarked unmarked, String.ofList_append, String.ofList_toList]

theorem relativeTo_append {base : String} (isDirectory : IsDirectory directory)
    (unmarked : ¬ virtualRoot.isPrefixOf base.toList) (plain : IsPlain (parent base ++ path)) :
    relativeTo (directory ++ base) path = directory ++ relativeTo base path := by
  rw [relativeTo, parent_append isDirectory unmarked, String.append_assoc,
    normalize_append isDirectory plain, relativeTo]

theorem same_append (directory a b : String) :
    same (directory ++ a) (directory ++ b) = same a b := by
  rw [Bool.eq_iff_iff]
  simp [same, slashed]

/-- Whether a path is a point and the extension of scripts, in any letter case. -/
def isBareExtension (path : String) : Bool :=
  match path.toList with
  | '.' :: extension => Text.sameLetters extension scriptExtension.toList
  | _ => false

/-- A text that is the extension of scripts in some letter case has letters only. -/
theorem not_mem_of_sameLetters {extension : List Char} {c : Char}
    (same : Text.sameLetters extension scriptExtension.toList = true) (other : c.toLower = c)
    (noLetter : c ∉ scriptExtension.toList) : c ∉ extension := by
  intro member
  rw [Text.sameLetters, beq_iff_eq] at same
  have inside : c ∈ Text.lower extension := List.mem_map.mpr ⟨c, member, other⟩
  rw [same] at inside
  exact noLetter inside

/-- A path is cut at its last point. -/
theorem isScript_cut {path : String} {stem extension : List Char}
    (cut : path.toList = stem ++ '.' :: extension) (last : '.' ∉ extension) :
    isScript path =
      (decide (stem ≠ []) && Text.sameLetters extension scriptExtension.toList) := by
  have skip : ∀ c ∈ extension.reverse, decide (c ≠ '.') = true := by
    intro c member
    rw [decide_eq_true_iff]
    rintro rfl
    exact last (by simpa using member)
  have reversed : path.toList.reverse = extension.reverse ++ '.' :: stem.reverse := by simp [cut]
  have front : path.toList.reverse.takeWhile (· ≠ '.') = extension.reverse := by
    rw [reversed, List.takeWhile_append_of_pos skip]
    simp
  have back : (path.toList.reverse.dropWhile (· ≠ '.')).drop 1 = stem.reverse := by
    rw [reversed, List.dropWhile_append_of_pos skip]
    simp
  simp only [isScript, front, back, List.reverse_reverse]
  simp

theorem isScript_of_not_mem {path : String} (noPoint : '.' ∉ path.toList) :
    isScript path = false := by
  have skip : ∀ c ∈ path.toList.reverse, decide (c ≠ '.') = true := by
    intro c member
    rw [decide_eq_true_iff]
    rintro rfl
    exact noPoint (by simpa using member)
  have back : path.toList.reverse.dropWhile (· ≠ '.') = [] := by
    have whole := @List.dropWhile_append_of_pos _ (fun c => decide (c ≠ '.')) _ [] skip
    simpa using whole
  simp only [isScript, back]
  simp

theorem exists_cut {s : List Char} (point : '.' ∈ s) :
    ∃ stem extension, s = stem ++ '.' :: extension ∧ '.' ∉ extension := by
  obtain ⟨front, back, same, first⟩ := List.eq_append_cons_of_mem (List.mem_reverse.mpr point)
  refine ⟨back.reverse, front.reverse, ?_, by simpa using first⟩
  rw [← List.reverse_reverse s, same]
  simp

theorem isScript_of_isBareExtension (bare : isBareExtension path = true) :
    isScript path = false := by
  unfold isBareExtension at bare
  split at bare
  · rename_i extension same
    have noPoint : '.' ∉ extension := not_mem_of_sameLetters bare (by decide) (by decide)
    rw [isScript_cut (same.trans (List.nil_append _).symm) noPoint]
    rfl
  · cases bare

/-- Behind a closing separator a path is that of a script also if it is nothing but the
extension. -/
theorem isScript_append_of_closed (closed : directory.toList.getLast? = some '/') :
    isScript (directory ++ path) = (isScript path || isBareExtension path) := by
  by_cases point : '.' ∈ path.toList
  · obtain ⟨stem, extension, cut, last⟩ := exists_cut point
    have moved : (directory ++ path).toList = (directory.toList ++ stem) ++ '.' :: extension := by
      simp [cut]
    rw [isScript_cut moved last, isScript_cut cut last]
    cases stem with
    | nil =>
        have nonempty : directory.toList ≠ [] := by
          intro nothing
          simp [nothing] at closed
        simp [isBareExtension, cut, nonempty]
    | cons c stem =>
        have notBare : isBareExtension path = false := by
          by_cases begins : c = '.'
          · subst begins
            rw [isBareExtension, cut, List.cons_append, Bool.eq_false_iff]
            intro same
            have noPoint : '.' ∉ stem ++ '.' :: extension :=
              not_mem_of_sameLetters same (by decide) (by decide)
            simp at noPoint
          · simp [isBareExtension, cut, begins]
        simp [notBare]
  · have notBare : isBareExtension path = false := by
      unfold isBareExtension
      split
      · rename_i same
        simp [same] at point
      · rfl
    rw [isScript_of_not_mem point, notBare, Bool.or_self]
    by_cases pointBefore : '.' ∈ directory.toList
    · obtain ⟨stem, rest, cut, last⟩ := exists_cut pointBefore
      have moved : (directory ++ path).toList = stem ++ '.' :: (rest ++ path.toList) := by
        simp [cut]
      have separator : '/' ∈ rest := by
        rw [cut] at closed
        cases rest with
        | nil => simp at closed
        | cons c rest =>
            refine List.mem_of_getLast? ?_
            simpa [List.getLast?_append] using closed
      rw [isScript_cut moved (by simp [last, point]), Bool.and_eq_false_iff]
      right
      rw [Bool.eq_false_iff]
      exact fun same => not_mem_of_sameLetters same (by decide) (by decide)
        (List.mem_append_left _ separator)
    · exact isScript_of_not_mem (by simp [point, pointBefore])

theorem isScript_append (isDirectory : IsDirectory directory) :
    isScript (directory ++ path) = (isScript path || isBareExtension path) := by
  obtain ⟨names, spells⟩ := isDirectory.spells
  exact isScript_append_of_closed (by simp [spells.eq_join])

/-- What stands before a path that has a separator has no say in whether it is one of a script. -/
theorem isScript_append_of_mem (separated : '/' ∈ path.toList) (front : String) :
    isScript (front ++ path) = isScript path := by
  have noExtension {extension : List Char} (inside : '/' ∈ extension) :
      Text.sameLetters extension scriptExtension.toList = false := by
    rw [Bool.eq_false_iff]
    exact fun same => not_mem_of_sameLetters same (by decide) (by decide) inside
  by_cases point : '.' ∈ path.toList
  · obtain ⟨stem, extension, cut, last⟩ := exists_cut point
    have longer : (front ++ path).toList = (front.toList ++ stem) ++ '.' :: extension := by
      simp [cut]
    rw [isScript_cut longer last, isScript_cut cut last]
    by_cases inside : '/' ∈ extension
    · rw [noExtension inside, Bool.and_false, Bool.and_false]
    · have stem_ne : stem ≠ [] := by
        rintro rfl
        rw [cut] at separated
        simp [inside] at separated
      simp [stem_ne]
  · rw [isScript_of_not_mem point]
    by_cases pointBefore : '.' ∈ front.toList
    · obtain ⟨stem, rest, cut, last⟩ := exists_cut pointBefore
      have longer : (front ++ path).toList = stem ++ '.' :: (rest ++ path.toList) := by simp [cut]
      have noPoint : '.' ∉ rest ++ path.toList := by simp [last, point]
      rw [isScript_cut longer noPoint, noExtension (List.mem_append_right _ separated),
        Bool.and_false]
    · exact isScript_of_not_mem (by simp [point, pointBefore])

theorem IsDirectory.isVirtual_eq_false (isDirectory : IsDirectory directory) :
    isVirtual directory = false := by
  obtain ⟨names, spells⟩ := isDirectory.spells
  rw [Bool.eq_false_iff, isVirtual, spells.spelled]
  exact spells.areWritten.unmarked_written true

theorem IsDirectory.isVirtual_append (isDirectory : IsDirectory directory) (name : String) :
    isVirtual (directory ++ name) = false := by
  have whole := isDirectory.isVirtual_eq_false
  obtain ⟨names, spells⟩ := isDirectory.spells
  rw [isVirtual, spells.eq_join, isPrefixOf_virtualRoot_append] at whole
  rw [isVirtual, String.toList_append, spells.eq_join, List.append_assoc, List.singleton_append,
    isPrefixOf_virtualRoot_append, whole]

/-- A drive letter stands in front of the first separator, if anywhere. -/
theorem IsDirectory.isAbsolute_append (isDirectory : IsDirectory directory)
    (relative : isAbsolute directory = false) (name : String) :
    isAbsolute (directory ++ name) = false := by
  obtain ⟨names, spells⟩ := isDirectory.spells
  have ends : directory.toList.getLast? = some '/' := by simp [spells.eq_join]
  have own : slashed directory.toList = directory.toList := by
    rw [spells.spelled, spells.areWritten.slashed_written]
  rw [isAbsolute, own] at relative
  rw [isAbsolute, String.toList_append, spells.slashed_append]
  generalize directory.toList = s at ends relative
  match s with
  | [] => cases ends
  | [a] =>
      cases ends
      cases relative
  | [a, b] =>
      obtain rfl : b = '/' := by simpa using ends
      split
      · simp_all
      · simp_all
      · rfl
  | a :: b :: c :: rest =>
      split
      · simp_all
      · simp_all
      · rfl

end

end Migration.Path
