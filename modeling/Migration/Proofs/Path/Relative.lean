import Mathlib.Data.List.Basic
import Mathlib.Data.List.TakeWhile
import Migration.Proofs.Path.Form

/-!
# Relative paths

A path that is seen from the directory of another one is resolved by walking on from where that
directory leads.  So it makes no difference whether the paths of a chain are resolved one by one, or
the directories that they name are put in front of the last one and all is resolved at once.
-/

namespace Migration.Path

/-! ## Texts of whole segments -/

/-- Whether a text has whole segments only: it is empty or ends in a separator. -/
def IsWhole (front : List Char) : Prop :=
  front = [] ∨ ∃ before, front = before ++ ['/']

variable {front rest name : List Char}

namespace IsWhole

theorem append (first : IsWhole front) (second : IsWhole rest) : IsWhole (front ++ rest) := by
  rcases second with rfl | ⟨before, rfl⟩
  · simpa using first
  · exact .inr ⟨front ++ before, by simp⟩

/-- The segments behind a text of whole segments are walked on from where that leads. -/
theorem segments_append (whole : IsWhole front) (absolute : Bool) (rest : List Char) :
    segments absolute (front ++ rest) =
      ((Text.split '/' rest).foldl (walk absolute) (segments absolute front).reverse).reverse := by
  have skip (stack : List (List Char)) : walk absolute stack [] = stack := by simp [walk]
  rcases whole with rfl | ⟨before, rfl⟩
  · simp [segments, Text.split, skip]
  · simp [segments, Text.split_append_cons, Text.split, skip]

/-- What is left of whole segments is written with a separator at the end. -/
theorem tidy_eq (whole : IsWhole front) :
    tidy front = written (front.head? = some '/') (segments (front.head? = some '/') front)
      (decide (segments (front.head? = some '/') front ≠ [])) := by
  rw [Path.tidy_eq]
  congr 1
  refine decide_eq_decide.mpr (and_iff_right_of_imp fun left => ?_)
  rcases whole with rfl | ⟨before, rfl⟩
  · exact absurd rfl left
  · simp

theorem isWhole_tidy (whole : IsWhole front) : IsWhole (tidy front) := by
  rw [whole.tidy_eq]
  by_cases nothing : segments (front.head? = some '/') front = []
  · rw [nothing]
    by_cases absolute : front.head? = some '/'
    · exact .inr ⟨[], by simp [written, join, absolute]⟩
    · exact .inl (by simp [written, join, absolute])
  · exact .inr ⟨_, by rw [written, decide_eq_true nothing, if_pos rfl]⟩

end IsWhole

/-- Reading the tidy form of a path gives pieces of the path. -/
theorem mem_split_of_mem_split_tidy {path piece : List Char}
    (member : piece ∈ Text.split '/' (tidy path)) : piece ∈ Text.split '/' path ∨ piece = [] := by
  obtain ⟨stack, same, -, characters⟩ := segments_spec (path.head? = some '/') path
  rw [tidy] at member
  refine (mem_of_mem_split_written ?_ member).imp_left fun left => ?_
  · rw [same]
    exact fun part isPart slash => (characters part (List.mem_reverse.mp isPart) _ slash).2 rfl
  · rw [segments, List.mem_reverse] at left
    exact (mem_of_mem_foldl_walk left).resolve_right List.not_mem_nil

theorem head?_append_eq_slash (relative : rest.head? ≠ some '/') (front : List Char) :
    (front ++ rest).head? = some '/' ↔ front.head? = some '/' := by
  cases front with
  | nil => simpa using relative
  | cons c front => rfl

namespace IsWhole

/-- A name stays behind whatever is left of the segments before it. -/
theorem tidy_append_name (whole : IsWhole front) (isName : IsName name) (apart : '/' ∉ name) :
    tidy (front ++ name) = tidy front ++ name := by
  have relative : name.head? ≠ some '/' := fun slash => apart (List.mem_of_head? slash)
  have isOpen : ¬ (front ++ name).getLast? = some '/' := by
    rw [List.getLast?_append_of_ne_nil _ isName.nonempty]
    exact fun slash => apart (List.mem_of_getLast? slash)
  have pushed (absolute : Bool) :
      segments absolute (front ++ name) = segments absolute front ++ [name] := by
    rw [whole.segments_append, Text.split_of_not_mem apart, List.foldl_cons, List.foldl_nil,
      walk_of_isName isName]
    simp
  rw [Path.tidy_eq, whole.tidy_eq, pushed,
    decide_eq_decide.mpr (head?_append_eq_slash relative front)]
  generalize segments (front.head? = some '/') front = parts
  have notClosed : decide ((front ++ name).getLast? = some '/' ∧ parts ++ [name] ≠ []) = false :=
    decide_eq_false fun ends => isOpen ends.1
  rw [notClosed]
  by_cases nothing : parts = []
  · simp [written, join, nothing]
  · have joined : join (parts ++ [name]) = join parts ++ '/' :: name := by
      rw [join_append nothing (List.cons_ne_nil name []), join, join, List.intercalate_singleton]
    simp [written, joined, nothing]

/-- Segments that are left lead where the given ones do. -/
theorem tidy_tidy_append (whole : IsWhole front) (relative : rest.head? ≠ some '/') :
    tidy (tidy front ++ rest) = tidy (front ++ rest) := by
  have begins := head?_append_eq_slash relative front
  refine tidy_congr ?_ ?_ fun left => ?_
  · rw [head?_append_eq_slash relative, begins, head?_tidy]
  · rw [decide_eq_decide.mpr begins, whole.isWhole_tidy.segments_append, whole.segments_append,
      segments_tidy]
  · cases rest with
    | nil =>
        rw [List.append_nil] at left ⊢
        rw [List.append_nil]
        have closed {path : List Char} (isWhole : IsWhole path)
            (nonempty : segments (front.head? = some '/') path ≠ []) : path.getLast? = some '/' := by
          rcases isWhole with rfl | ⟨before, rfl⟩
          · exact absurd rfl nonempty
          · simp
        exact iff_of_true (closed whole.isWhole_tidy ((segments_tidy front).symm ▸ left))
          (closed whole left)
    | cons c rest =>
        rw [List.getLast?_append_of_ne_nil _ (List.cons_ne_nil c rest),
          List.getLast?_append_of_ne_nil _ (List.cons_ne_nil c rest)]

theorem mem_split_append (whole : IsWhole front) {piece : List Char} (nonempty : piece ≠ []) :
    piece ∈ Text.split '/' (front ++ rest) ↔
      piece ∈ Text.split '/' front ∨ piece ∈ Text.split '/' rest := by
  rcases whole with rfl | ⟨before, rfl⟩
  · simp [Text.split, nonempty]
  · simp [Text.split_append_cons, Text.split, nonempty]

end IsWhole

/-! ## Paths in which no mark can come to the front -/

/-- Whether no segment of a path begins with the mark of the virtual root. -/
def IsClear (path : List Char) : Prop :=
  ∀ piece ∈ Text.split '/' (slashed path), ¬ virtualRoot.isPrefixOf piece

/-- Whether a path is virtual, or no mark can come to the front of it. -/
def KeepsRoot (path : List Char) : Prop :=
  virtualRoot.isPrefixOf path ∨ IsClear path

theorem IsClear.unmarked {path : List Char} (clear : IsClear path) :
    ¬ virtualRoot.isPrefixOf path := by
  obtain ⟨piece, pieces, cut⟩ := List.exists_cons_of_ne_nil (Text.split_ne_nil '/' (slashed path))
  have first := clear piece (by simp [cut])
  rw [← isPrefixOf_slashed, ← join_split (slashed path), cut]
  cases pieces with
  | nil => rwa [join, List.intercalate_singleton]
  | cons next pieces =>
      rwa [join, List.intercalate_cons_cons, List.append_assoc, List.singleton_append,
        isPrefixOf_virtualRoot_append]

theorem IsClear.splitRoot_eq {path : List Char} (clear : IsClear path) :
    splitRoot (slashed path) = ([], slashed path) := by
  rw [splitRoot, isPrefixOf_slashed, if_neg clear.unmarked]

theorem isClear_append (whole : IsWhole (slashed front)) :
    IsClear (front ++ rest) ↔ IsClear front ∧ IsClear rest := by
  have nothing {piece : List Char} (marked : virtualRoot.isPrefixOf piece) : piece ≠ [] := by
    rintro rfl
    cases marked
  simp only [IsClear, slashed_append]
  constructor
  · intro clear
    refine ⟨fun piece member marked => ?_, fun piece member marked => ?_⟩
    · exact clear piece ((whole.mem_split_append (nothing marked)).mpr (.inl member)) marked
    · exact clear piece ((whole.mem_split_append (nothing marked)).mpr (.inr member)) marked
  · rintro ⟨first, second⟩ piece member marked
    rcases (whole.mem_split_append (nothing marked)).mp member with inFront | behind
    · exact first piece inFront marked
    · exact second piece behind marked

theorem isClear_tidy {path : List Char} (clear : IsClear path) : IsClear (tidy (slashed path)) := by
  have clean : '\\' ∉ tidy (slashed path) := fun backslash => by
    rcases mem_tidy backslash with slash | inside
    · cases slash
    · exact backslash_not_mem_slashed path inside
  intro piece member
  rw [slashed_of_not_mem clean] at member
  rcases mem_split_of_mem_split_tidy member with given | rfl
  · exact clear piece given
  · exact Bool.false_ne_true

/-- A text that does not hold the mark of the virtual root is clear. -/
theorem isClear_of_not_infix {path : List Char} (absent : ¬ virtualRoot <:+: path) :
    IsClear path := by
  intro piece member marked
  have inside : virtualRoot <:+: slashed path := by
    have whole := infix_join member
    rw [join_split] at whole
    exact (List.isPrefixOf_iff_prefix.mp marked).isInfix.trans whole
  obtain ⟨front, behind, same⟩ := inside
  obtain ⟨first, last, rfl, isFirst, -⟩ := List.map_eq_append_iff.mp same.symm
  obtain ⟨before, mark, rfl, -, isMark⟩ := List.map_eq_append_iff.mp isFirst
  exact absent ⟨before, last, by rw [eq_of_slashed_eq isMark (by decide)]⟩

/-! ## Directories of paths -/

/-- What stands behind the last separator of a path. -/
def lastSegment (path : List Char) : List Char :=
  (path.reverse.takeWhile fun c => !isSeparator c).reverse

/-- Whether a text can stand in front of a path and leave its segments as they are: it is the mark
of the virtual root, or has whole segments only. -/
def IsFront (front : List Char) : Prop :=
  front = virtualRoot ∨ IsWhole (slashed front)

theorem folder_append_lastSegment (path : List Char) : folder path ++ lastSegment path = path := by
  rw [folder, lastSegment, ← List.reverse_append, List.takeWhile_append_dropWhile,
    List.reverse_reverse]

theorem lastSegment_apart (path : List Char) : ∀ c ∈ lastSegment path, isSeparator c = false := by
  intro c member
  simpa using List.mem_takeWhile_imp (List.mem_reverse.mp member)

theorem isWhole_folder (path : List Char) : IsWhole (slashed (folder path)) := by
  unfold folder
  cases found : path.reverse.dropWhile fun c => !isSeparator c with
  | nil => exact .inl rfl
  | cons c rest =>
      have isSep : isSeparator c = true := by
        have stops := List.head?_dropWhile_not (fun c => !isSeparator c) path.reverse
        rw [found] at stops
        simpa using stops
      refine .inr ⟨slashed rest.reverse, ?_⟩
      rw [List.reverse_cons, slashed_append, slashed_cons isSep]
      rfl

theorem folder_of_apart {name : List Char} (apart : ∀ c ∈ name, isSeparator c = false) :
    folder name = [] := by
  unfold folder
  rw [List.reverse_eq_nil_iff, List.dropWhile_eq_nil_iff]
  exact fun c member => by simp [apart c (List.mem_reverse.mp member)]

/-- Whole segments are a folder. -/
theorem folder_of_isWhole (whole : IsWhole (slashed front)) : folder front = front := by
  rcases List.eq_nil_or_concat front with rfl | ⟨before, c, rfl⟩
  · rfl
  · have isSep : isSeparator c = true := by
      rcases whole with nothing | ⟨start, same⟩
      · simp [slashed] at nothing
      · rw [List.concat_eq_append, slashed_append] at same
        have last := congrArg List.getLast? same
        simp only [slashed, List.map_cons, List.map_nil, List.getLast?_append,
          List.getLast?_singleton, Option.some_or, Option.some.injEq] at last
        rw [isSeparator, Bool.or_eq_true, decide_eq_true_eq, decide_eq_true_eq]
        split at last
        · exact .inr ‹_›
        · exact .inl last
    rw [folder, List.concat_eq_append, List.reverse_append]
    simp [isSep]

theorem splitRoot_fst_eq_nil_or (path : List Char) :
    (splitRoot path).1 = [] ∨ (splitRoot path).1 = virtualRoot := by
  unfold splitRoot
  split
  · exact .inr rfl
  · exact .inl rfl

theorem isFront_parentChars (path : List Char) : IsFront (parentChars path) := by
  rw [parentChars_eq]
  split
  · rcases splitRoot_fst_eq_nil_or path with nothing | mark
    · exact .inr (.inl (by rw [nothing]; rfl))
    · exact .inl mark
  · exact .inr (isWhole_folder path)

namespace IsFront

theorem append (isFront : IsFront front) (whole : IsWhole (slashed rest)) :
    IsFront (front ++ rest) := by
  rcases isFront with rfl | first
  · rcases whole with nothing | ⟨before, same⟩
    · rw [List.map_eq_nil_iff.mp nothing, List.append_nil]
      exact .inl rfl
    · exact .inr (.inr ⟨slashed virtualRoot ++ before, by
        rw [slashed_append, same, List.append_assoc]⟩)
  · exact .inr (by rw [slashed_append]; exact first.append whole)

theorem isWhole_rest (isFront : IsFront front) : IsWhole (splitRoot (slashed front)).2 := by
  rcases isFront with rfl | nothing | ⟨before, same⟩
  · exact .inl (by decide)
  · rw [nothing]
    exact .inl rfl
  · rw [same, splitRoot_append_cons]
    exact .inr ⟨_, rfl⟩

/-- What stands behind a front has no part in its mark. -/
theorem splitRoot_append (isFront : IsFront front) (unmarked : ¬ virtualRoot.isPrefixOf rest) :
    splitRoot (slashed front ++ rest) =
      ((splitRoot (slashed front)).1, (splitRoot (slashed front)).2 ++ rest) := by
  rcases isFront with rfl | nothing | ⟨before, same⟩
  · exact splitRoot_of_mark rest
  · rw [nothing, List.nil_append, splitRoot, if_neg unmarked]
    rfl
  · rw [same, List.append_assoc, List.singleton_append, splitRoot_append_cons,
      splitRoot_append_cons]
    simp

/-- A front is the directory of the names behind it. -/
theorem parentChars_append (isFront : IsFront front)
    (apart : ∀ c ∈ name, isSeparator c = false) (unmarked : ¬ virtualRoot.isPrefixOf name) :
    parentChars (front ++ name) = front := by
  rw [parentChars_eq, folder_append, if_pos (folder_of_apart apart)]
  rcases isFront with rfl | whole
  · have none : folder virtualRoot = [] := by decide
    rw [if_pos none, splitRoot_of_mark]
  · rw [folder_of_isWhole whole]
    split
    · rename_i nothing
      rw [nothing, List.nil_append, splitRoot_fst_of_unmarked unmarked]
    · rfl

theorem isFront_normalizeChars (isFront : IsFront front) : IsFront (normalizeChars front) := by
  have clean := backslash_not_mem_normalizeChars front
  have marks := splitRoot_fst_eq_nil_or (slashed front)
  rw [IsFront, slashed_of_not_mem clean, normalizeChars_eq]
  rcases isFront.isWhole_rest.isWhole_tidy with nothing | ⟨before, same⟩
  · rw [nothing, List.append_nil]
    exact marks.symm.imp_right .inl
  · rw [same, ← List.append_assoc]
    exact .inr (.inr ⟨_, rfl⟩)

/-- A name stays behind the canonical form of what stands in front of it. -/
theorem normalizeChars_append_name (isFront : IsFront front) (isName : IsName name)
    (apart : ∀ c ∈ name, isSeparator c = false) (unmarked : ¬ virtualRoot.isPrefixOf name) :
    normalizeChars (front ++ name) = normalizeChars front ++ name := by
  rw [normalizeChars_eq, normalizeChars_eq, slashed_append, slashed_of_apart apart,
    isFront.splitRoot_append unmarked,
    isFront.isWhole_rest.tidy_append_name isName (slash_not_mem_of_apart apart), List.append_assoc]

/-- A path leads on from the canonical form of a front as it does from the front, if no mark can
come to the front. -/
theorem normalizeChars_normalizeChars_append (isFront : IsFront front)
    (rooted : KeepsRoot front)
    (relative : (slashed rest).head? ≠ some '/') (unmarked : ¬ virtualRoot.isPrefixOf rest) :
    normalizeChars (normalizeChars front ++ rest) = normalizeChars (front ++ rest) := by
  have unmarked' : ¬ virtualRoot.isPrefixOf (slashed rest) := by rwa [isPrefixOf_slashed]
  have marks : (splitRoot (normalizeChars front)) =
      ((splitRoot (slashed front)).1, tidy (splitRoot (slashed front)).2) := by
    rw [normalizeChars_eq]
    rcases rooted with marked | clear
    · rw [← isPrefixOf_slashed] at marked
      simp [splitRoot, marked]
    · rw [clear.splitRoot_eq, List.nil_append, splitRoot, if_neg (isClear_tidy clear).unmarked]
  have behind := isFront.isFront_normalizeChars.splitRoot_append unmarked'
  rw [slashed_of_not_mem (backslash_not_mem_normalizeChars front), marks] at behind
  rw [Path.normalizeChars_eq, slashed_append,
    slashed_of_not_mem (backslash_not_mem_normalizeChars front), behind, Path.normalizeChars_eq,
    slashed_append, isFront.splitRoot_append unmarked', isFront.isWhole_rest.tidy_tidy_append relative]

end IsFront

/-! ## Resolving step by step -/

/-- Whether a path leads on from where it is put: it begins with no separator and does not hold the
mark of the virtual root. -/
structure IsRelative (path : String) : Prop where
  begins : ∀ c ∈ path.toList.head?, isSeparator c = false
  absent : ¬ virtualRoot <:+: path.toList

/-- Whether a path is relative and ends in a name. -/
structure IsFile (path : String) : Prop extends IsRelative path where
  isName : IsName (lastSegment path.toList)

/-- Whether a path leads on, and no mark can come to the front of it when segments go. -/
structure LeadsOn (path : List Char) : Prop where
  relative : (slashed path).head? ≠ some '/'
  clear : IsClear path

theorem IsRelative.leadsOn {path : String} (isRelative : IsRelative path) :
    LeadsOn path.toList := by
  refine ⟨fun slash => ?_, isClear_of_not_infix isRelative.absent⟩
  obtain ⟨begins, -⟩ := isRelative
  cases same : path.toList with
  | nil => simp [same, slashed] at slash
  | cons c rest =>
      have apart : isSeparator c = false := begins c (by simp [same])
      rw [same] at slash
      have stays : slashed [c] = [c] := slashed_of_apart (by simpa using apart)
      simp only [slashed, List.map_cons, List.map_nil, List.cons.injEq, and_true, List.head?_cons,
        Option.some.injEq] at stays slash
      rw [stays] at slash
      subst slash
      simp [isSeparator] at apart

/-- The directory of a path and what stands behind it. -/
theorem LeadsOn.folder_append {path rest : List Char} (leadsOn : LeadsOn path)
    (next : LeadsOn rest) : LeadsOn (folder path ++ rest) := by
  have parts := folder_append_lastSegment path
  refine ⟨?_, ?_⟩
  · have relative := leadsOn.relative
    rw [← parts, slashed_append] at relative
    rw [slashed_append]
    intro slash
    rw [head?_append_eq_slash next.relative] at slash
    cases front : slashed (folder path) with
    | nil => simp [front] at slash
    | cons c front' =>
        rw [front] at relative slash
        exact relative slash
  · have clear := leadsOn.clear
    rw [← parts, isClear_append (isWhole_folder path)] at clear
    exact (isClear_append (isWhole_folder path)).mpr ⟨clear.1, next.clear⟩

namespace KeepsRoot

variable {path : List Char}

theorem parentChars (rooted : KeepsRoot path) : KeepsRoot (parentChars path) := by
  rcases rooted with marked | clear
  · obtain ⟨rest, rfl⟩ := List.isPrefixOf_iff_prefix.mp marked
    have none : folder virtualRoot = [] := by decide
    left
    rw [Path.parentChars_eq, folder_append, none, splitRoot_of_mark, List.isPrefixOf_iff_prefix]
    by_cases nothing : folder rest = []
    · simp [nothing]
    · rw [if_neg nothing, if_neg (List.append_ne_nil_of_right_ne_nil _ nothing)]
      exact List.prefix_append _ _
  · right
    rw [parentChars_of_unmarked clear.unmarked]
    rw [← folder_append_lastSegment path, isClear_append (isWhole_folder path)] at clear
    exact clear.1

theorem append (rooted : KeepsRoot front) (isFront : IsFront front) (clear : IsClear rest) :
    KeepsRoot (front ++ rest) := by
  rcases rooted with marked | first
  · left
    rw [List.isPrefixOf_iff_prefix] at marked ⊢
    exact marked.trans (List.prefix_append _ _)
  · rcases isFront with rfl | whole
    · exact absurd (by decide) first.unmarked
    · exact .inr ((isClear_append whole).mpr ⟨first, clear⟩)

/-- No mark has come to the front of the canonical form. -/
theorem normalizeChars (rooted : KeepsRoot path) : KeepsRoot (normalizeChars path) := by
  rw [normalizeChars_eq]
  rcases rooted with marked | clear
  · rw [← isPrefixOf_slashed] at marked
    left
    simp [splitRoot, marked]
  · rw [clear.splitRoot_eq, List.nil_append]
    exact .inr (isClear_tidy clear)

theorem normalize_normalize {path : String} (rooted : KeepsRoot path.toList) :
    normalize (normalize path) = normalize path := by
  refine Path.normalize_normalize fun shown => ?_
  rcases rooted with marked | clear
  · exact marked
  · rw [isVirtual, normalize, String.toList_ofList, normalizeChars_eq, clear.splitRoot_eq,
      List.nil_append] at shown
    exact absurd shown (isClear_tidy clear).unmarked

end KeepsRoot

theorem keepsRoot_of_not_infix {base : String}
    (rooted : isVirtual base = true ∨ ¬ virtualRoot <:+: base.toList) : KeepsRoot base.toList :=
  rooted.imp_right isClear_of_not_infix

theorem toList_relativeTo (base path : String) :
    (relativeTo base path).toList = normalizeChars (parentChars base.toList ++ path.toList) := by
  simp [relativeTo, normalize, parent]

section

variable {base path next : String}

/-- What is resolved has no mark that was not there before. -/
theorem keepsRoot_relativeTo (rooted : KeepsRoot base.toList) (leadsOn : LeadsOn path.toList) :
    KeepsRoot (relativeTo base path).toList := by
  rw [toList_relativeTo]
  exact (rooted.parentChars.append (isFront_parentChars _) leadsOn.clear).normalizeChars

/-- The directory of a file that is resolved is where the directory of its path leads. -/
theorem parentChars_relativeTo (leadsOn : LeadsOn path.toList)
    (isName : IsName (lastSegment path.toList)) :
    parentChars (relativeTo base path).toList =
      normalizeChars (parentChars base.toList ++ folder path.toList) := by
  have isFront := (isFront_parentChars base.toList).append (isWhole_folder path.toList)
  have apart := lastSegment_apart path.toList
  have unmarked : ¬ virtualRoot.isPrefixOf (lastSegment path.toList) := by
    have clear := leadsOn.clear
    rw [← folder_append_lastSegment path.toList, isClear_append (isWhole_folder _)] at clear
    exact clear.2.unmarked
  rw [toList_relativeTo]
  conv_lhs => rw [← folder_append_lastSegment path.toList, ← List.append_assoc]
  rw [isFront.normalizeChars_append_name isName apart unmarked,
    isFront.isFront_normalizeChars.parentChars_append apart unmarked]

/-- A path is resolved from a file as it is from where that file's own path was resolved, with the
directory of that path in front. -/
theorem relativeTo_relativeTo (rooted : KeepsRoot base.toList) (leadsOn : LeadsOn path.toList)
    (isName : IsName (lastSegment path.toList)) (further : LeadsOn next.toList) :
    relativeTo (relativeTo base path) next = relativeTo base (parent path ++ next) := by
  have isFront := (isFront_parentChars base.toList).append (isWhole_folder path.toList)
  have clear := leadsOn.clear
  rw [← folder_append_lastSegment path.toList, isClear_append (isWhole_folder _)] at clear
  have frontRooted := rooted.parentChars.append (isFront_parentChars base.toList) clear.1
  rw [← String.toList_inj, toList_relativeTo, parentChars_relativeTo leadsOn isName,
    isFront.normalizeChars_normalizeChars_append frontRooted further.relative
      further.clear.unmarked, toList_relativeTo, String.toList_append, parent, String.toList_ofList,
    parentChars_of_unmarked leadsOn.clear.unmarked, List.append_assoc]

end

/-- A path with the directories of the ones before it in front. -/
def chained (paths : List String) (last : String) : String :=
  paths.foldr (fun path rest => parent path ++ rest) last

theorem leadsOn_chained {paths : List String} {last : String}
    (files : ∀ path ∈ paths, LeadsOn path.toList) (further : LeadsOn last.toList) :
    LeadsOn (chained paths last).toList := by
  induction paths with
  | nil => exact further
  | cons path paths ih =>
      obtain ⟨first, others⟩ := List.forall_mem_cons.mp files
      have joined : (chained (path :: paths) last).toList =
          folder path.toList ++ (chained paths last).toList := by
        rw [chained, List.foldr_cons, String.toList_append, parent, String.toList_ofList,
          parentChars_of_unmarked first.clear.unmarked]
        rfl
      rw [joined]
      exact first.folder_append (ih others)

theorem relativeTo_foldl {base last : String} {paths : List String} (rooted : KeepsRoot base.toList)
    (files : ∀ path ∈ paths, LeadsOn path.toList ∧ IsName (lastSegment path.toList))
    (further : LeadsOn last.toList) :
    relativeTo (paths.foldl relativeTo base) last = relativeTo base (chained paths last) := by
  induction paths generalizing base with
  | nil => rfl
  | cons path paths ih =>
      obtain ⟨⟨leadsOn, isName⟩, others⟩ := List.forall_mem_cons.mp files
      have rest : LeadsOn (chained paths last).toList :=
        leadsOn_chained (fun other member => (others other member).1) further
      rw [List.foldl_cons, ih (keepsRoot_relativeTo rooted leadsOn) others,
        relativeTo_relativeTo rooted leadsOn isName rest]
      rfl

/-- Relative paths compose: to resolve a path from a file that was resolved itself is to resolve it
with that file's directory in front.  A chain of them is resolved step by step or at once, and what
is resolved is in canonical form, so that it makes no difference whether the steps are. -/
theorem relativeTo_chain {base : String}
    (rooted : isVirtual base = true ∨ ¬ virtualRoot <:+: base.toList) :
    (∀ path next, IsFile path → IsRelative next →
      relativeTo (relativeTo base path) next = relativeTo base (parent path ++ next)) ∧
    (∀ paths last, (∀ path ∈ paths, IsFile path) → IsRelative last →
      relativeTo (paths.foldl relativeTo base) last = relativeTo base (chained paths last)) ∧
    ∀ path, IsRelative path → normalize (relativeTo base path) = relativeTo base path := by
  have keepsRoot := keepsRoot_of_not_infix rooted
  refine ⟨fun path next file further => ?_, fun paths last files further => ?_,
    fun path further => ?_⟩
  · exact relativeTo_relativeTo keepsRoot file.leadsOn file.isName further.leadsOn
  · exact relativeTo_foldl keepsRoot
      (fun path member => ⟨(files path member).leadsOn, (files path member).isName⟩)
      further.leadsOn
  · have front := keepsRoot.parentChars.append (isFront_parentChars _) further.leadsOn.clear
    rw [relativeTo]
    refine KeepsRoot.normalize_normalize ?_
    rwa [String.toList_append, parent, String.toList_ofList]

theorem not_infix_of_not_mem {path : List Char} (noColon : ':' ∉ path) :
    ¬ virtualRoot <:+: path :=
  fun inside => noColon (inside.subset (by decide))

/-- Files that lead out of a directory and down again, with separators of both kinds. -/
theorem relativeTo_upAndDown :
    isVirtual "classpath:db\\main.qcl" ∧ IsFile "../../shared\\a.qcl" ∧ IsFile "x/../y/b.qcl" ∧
    IsRelative "..\\c.qcl" ∧
    relativeTo (["../../shared\\a.qcl", "x/../y/b.qcl"].foldl relativeTo
      "classpath:db\\main.qcl") "..\\c.qcl" = "classpath:../shared/c.qcl" := by
  have first : IsFile "../../shared\\a.qcl" :=
    ⟨⟨by rintro c ⟨⟩; rfl, not_infix_of_not_mem (by decide)⟩, by decide, by decide, by decide⟩
  have second : IsFile "x/../y/b.qcl" :=
    ⟨⟨by rintro c ⟨⟩; rfl, not_infix_of_not_mem (by decide)⟩, by decide, by decide, by decide⟩
  have last : IsRelative "..\\c.qcl" := ⟨by rintro c ⟨⟩; rfl, not_infix_of_not_mem (by decide)⟩
  have files : ∀ path ∈ ["../../shared\\a.qcl", "x/../y/b.qcl"], IsFile path :=
    List.forall_mem_cons.mpr ⟨first, List.forall_mem_singleton.mpr second⟩
  have isVirtual : isVirtual "classpath:db\\main.qcl" = true := by decide
  refine ⟨isVirtual, first, second, last, ?_⟩
  rw [(relativeTo_chain (.inl isVirtual)).2.1 _ _ files last]
  decide

end Migration.Path
