import Migration.Proofs.Path.Directory

/-!
# The canonical form

The canonical form of a path is the mark of its root, if the path is virtual, and behind it steps up
and names between single separators.  Exactly the paths that are written so stay as they are.  The
kind of the separators does not show in the form, nor do detours behind a separator.
-/

namespace Migration.Path

/-! ## The mark of the root -/

theorem eq_of_slashed_eq {path text : List Char} (same : slashed path = text)
    (noSeparator : '/' ∉ text) : path = text := by
  have clean : '\\' ∉ path := fun member =>
    noSeparator (same ▸ List.mem_map.mpr ⟨'\\', member, rfl⟩)
  rwa [slashed_of_not_mem clean] at same

theorem slashed_append (front back : List Char) :
    slashed (front ++ back) = slashed front ++ slashed back :=
  List.map_append

/-- The kind of the separators does not make a path virtual. -/
theorem isPrefixOf_slashed (path : List Char) :
    virtualRoot.isPrefixOf (slashed path) = virtualRoot.isPrefixOf path := by
  rw [Bool.eq_iff_iff, List.isPrefixOf_iff_prefix, List.isPrefixOf_iff_prefix]
  constructor
  · rintro ⟨rest, same⟩
    obtain ⟨front, back, rfl, isMark, -⟩ := List.map_eq_append_iff.mp same.symm
    exact ⟨back, by rw [eq_of_slashed_eq isMark (by decide)]⟩
  · rintro ⟨rest, rfl⟩
    rw [slashed_append]
    exact List.prefix_append _ _

theorem splitRoot_fst (path : String) :
    (splitRoot path.toList).1 = if isVirtual path then virtualRoot else [] := by
  unfold splitRoot isVirtual
  split <;> rfl

theorem splitRoot_slashed_fst (path : List Char) :
    (splitRoot (slashed path)).1 = (splitRoot path).1 := by
  unfold splitRoot
  rw [isPrefixOf_slashed]
  split <;> rfl

/-- The mark of the root stands before the first separator. -/
theorem splitRoot_append_cons (front back : List Char) :
    splitRoot (front ++ '/' :: back) =
      ((splitRoot front).1, (splitRoot front).2 ++ '/' :: back) := by
  unfold splitRoot
  rw [isPrefixOf_virtualRoot_append]
  split
  · rename_i marked
    have le := (List.isPrefixOf_iff_prefix.mp marked).length_le
    rw [List.drop_append_of_le_length le]
  · rfl

/-! ## Canonical segments -/

/-- The segments of a canonical path: steps up, and then names. -/
structure IsCanonical (absolute : Bool) (ups : Nat) (names : List (List Char)) (trailing : Bool) :
    Prop where
  areNames : ∀ name ∈ names, IsName name
  areApart : ∀ name ∈ names, '/' ∉ name
  atRoot : absolute = true → ups = 0
  closed : trailing = true → List.replicate ups ['.', '.'] ++ names ≠ []

/-- The canonical form of a path is the mark of its root, if it is virtual, and its segments. -/
theorem exists_normalize_eq (path : String) :
    ∃ absolute ups names trailing, IsCanonical absolute ups names trailing ∧
      (normalize path).toList = (if isVirtual path then virtualRoot else []) ++
        written absolute (List.replicate ups ['.', '.'] ++ names) trailing := by
  rw [normalize, String.toList_ofList, normalizeChars_eq, splitRoot_slashed_fst, splitRoot_fst]
  generalize (splitRoot (slashed path.toList)).2 = rest
  obtain ⟨stack, spelled, ⟨names, ups, rfl, areNames, atRoot⟩, characters⟩ :=
    segments_spec (decide (rest.head? = some '/')) rest
  rw [tidy, spelled, List.reverse_append, List.reverse_replicate]
  refine ⟨_, ups, names.reverse, _, ⟨?_, ?_, atRoot, fun ends => (of_decide_eq_true ends).2⟩, rfl⟩
  · exact fun name member => areNames name (List.mem_reverse.mp member)
  · intro name member slash
    have isIn : name ∈ names ++ List.replicate ups ['.', '.'] :=
      List.mem_append_left _ (List.mem_reverse.mp member)
    exact (characters name isIn '/' slash).2 rfl

/-- A canonical path is the mark of its root, if it is virtual, and its segments. -/
theorem exists_written {path : String} (canonical : normalize path = path) :
    ∃ absolute ups names trailing, IsCanonical absolute ups names trailing ∧
      path.toList = (if isVirtual path then virtualRoot else []) ++
        written absolute (List.replicate ups ['.', '.'] ++ names) trailing := by
  have spelled := exists_normalize_eq path
  rwa [canonical] at spelled

namespace IsCanonical

variable {absolute : Bool} {ups : Nat} {names : List (List Char)} {trailing : Bool}

theorem parts_ne_nil (isCanonical : IsCanonical absolute ups names trailing) :
    ∀ part ∈ List.replicate ups ['.', '.'] ++ names, part ≠ [] := by
  intro part member
  rcases List.mem_append.mp member with up | name
  · rw [(List.mem_replicate.mp up).2]
    exact List.cons_ne_nil _ _
  · exact (isCanonical.areNames part name).nonempty

theorem parts_apart (isCanonical : IsCanonical absolute ups names trailing) :
    ∀ part ∈ List.replicate ups ['.', '.'] ++ names, '/' ∉ part := by
  intro part member
  rcases List.mem_append.mp member with up | name
  · rw [(List.mem_replicate.mp up).2]
    decide
  · exact isCanonical.areApart part name

theorem head?_written (isCanonical : IsCanonical absolute ups names trailing) (other : Bool) :
    (written other (List.replicate ups ['.', '.'] ++ names) trailing).head? = some '/' ↔
      other = true :=
  Path.head?_written isCanonical.parts_ne_nil isCanonical.parts_apart isCanonical.closed

theorem isReduced (isCanonical : IsCanonical absolute ups names trailing) :
    IsReduced absolute (List.replicate ups ['.', '.'] ++ names).reverse :=
  ⟨names.reverse, ups, by simp, fun name member => isCanonical.areNames name (by simpa using member),
    isCanonical.atRoot⟩

theorem tidy_written (isCanonical : IsCanonical absolute ups names trailing) :
    tidy (written absolute (List.replicate ups ['.', '.'] ++ names) trailing) =
      written absolute (List.replicate ups ['.', '.'] ++ names) trailing := by
  have tidied := Path.tidy_written trailing isCanonical.isReduced
    (fun part member => isCanonical.parts_apart part (List.mem_reverse.mp member))
    (fun ends => mt List.reverse_eq_nil_iff.mp (isCanonical.closed ends))
  rwa [List.reverse_reverse] at tidied

end IsCanonical

/-- A path that is written in canonical form stays as it is. -/
theorem normalize_eq_self {path : String} {absolute : Bool} {ups : Nat} {names : List (List Char)}
    {trailing : Bool} (isCanonical : IsCanonical absolute ups names trailing)
    (same : path.toList = (if isVirtual path then virtualRoot else []) ++
      written absolute (List.replicate ups ['.', '.'] ++ names) trailing)
    (clean : '\\' ∉ path.toList) : normalize path = path := by
  have rest : (splitRoot path.toList).2 =
      written absolute (List.replicate ups ['.', '.'] ++ names) trailing := by
    unfold splitRoot
    by_cases marked : isVirtual path = true
    · rw [if_pos marked] at same
      have begins : virtualRoot.isPrefixOf path.toList = true := marked
      rw [if_pos begins, same, List.drop_left]
    · rw [if_neg marked, List.nil_append] at same
      have other : ¬ virtualRoot.isPrefixOf path.toList = true := marked
      rw [if_neg other, same]
  rw [normalize, normalizeChars_eq, slashed_of_not_mem clean, rest, isCanonical.tidy_written,
    splitRoot_fst, ← same, String.ofList_toList]

/-! ## Detours -/

/-- A path with the other kind of separators only. -/
def backslashed (path : String) : String :=
  String.ofList (path.toList.map fun c => if c = '/' then '\\' else c)

/-- What leads nowhere when it is put behind a separator. -/
inductive IsDetour : List Char → Prop where
  | separator {c : Char} (isSep : isSeparator c) : IsDetour [c]
  | here {c : Char} (isSep : isSeparator c) : IsDetour ['.', c]
  | downAndUp {name : List Char} {c d : Char} (isName : IsName name)
      (apart : ∀ a ∈ name, isSeparator a = false) (isSep : isSeparator c) (isEnd : isSeparator d) :
      IsDetour (name ++ [c, '.', '.', d])

theorem slashed_backslashed (path : String) :
    slashed (backslashed path).toList = slashed path.toList := by
  rw [backslashed, String.toList_ofList, slashed, List.map_map]
  refine List.map_congr_left fun c _ => ?_
  simp only [Function.comp_apply]
  split
  · rename_i slash
    simp [slash]
  · rfl

theorem slashed_cons {c : Char} (isSep : isSeparator c = true) (rest : List Char) :
    slashed (c :: rest) = '/' :: slashed rest := by
  rw [isSeparator, Bool.or_eq_true, decide_eq_true_eq, decide_eq_true_eq] at isSep
  rcases isSep with rfl | rfl <;> rfl

/-- What has no separators stays as it is. -/
theorem slashed_of_apart {name : List Char} (apart : ∀ a ∈ name, isSeparator a = false) :
    slashed name = name :=
  slashed_of_not_mem fun member => by simpa [isSeparator] using apart _ member

theorem slash_not_mem_of_apart {name : List Char} (apart : ∀ a ∈ name, isSeparator a = false) :
    '/' ∉ name :=
  fun member => by simpa [isSeparator] using apart _ member

/-- A walk comes back from a detour. -/
theorem IsDetour.foldl_walk {detour : List Char} (isDetour : IsDetour detour) :
    ∃ before, slashed detour = before ++ ['/'] ∧
      ∀ absolute stack, (Text.split '/' before).foldl (walk absolute) stack = stack := by
  cases isDetour with
  | separator isSep => exact ⟨[], slashed_cons isSep [], fun _ stack => by simp [Text.split, walk]⟩
  | here isSep =>
      refine ⟨['.'], ?_, fun _ stack => by simp [Text.split, walk]⟩
      exact congrArg ('.' :: ·) (slashed_cons isSep [])
  | @downAndUp name c d isName apart isSep isEnd =>
      refine ⟨name ++ '/' :: ['.', '.'], ?_, fun absolute stack => ?_⟩
      · have ends : slashed ['.', '.', d] = ['.', '.', '/'] :=
          congrArg (['.', '.'] ++ ·) (slashed_cons isEnd [])
        simp [slashed_append, slashed_of_apart apart, slashed_cons isSep, ends]
      · have pieces : Text.split '/' (name ++ '/' :: ['.', '.']) = [name, ['.', '.']] := by
          rw [Text.split_append_cons, Text.split_of_not_mem (slash_not_mem_of_apart apart)]
          rfl
        rw [pieces, List.foldl_cons, List.foldl_cons, List.foldl_nil, walk_of_isName isName,
          walk_up_of_isName isName]

theorem segments_singleton_slash (absolute : Bool) : segments absolute ['/'] = [] := by
  simp [segments, Text.split, walk]

/-- A path that is left with segments is closed if it ends in a separator. -/
theorem tidy_eq (path : List Char) :
    tidy path = written (path.head? = some '/') (segments (path.head? = some '/') path)
      (decide (path.getLast? = some '/' ∧ segments (path.head? = some '/') path ≠ [])) := by
  refine congrArg (written _ _) ?_
  refine decide_eq_decide.mpr (and_congr_left fun left => and_iff_right_of_imp fun ends => ?_)
  obtain ⟨before, rfl⟩ := List.getLast?_eq_some_iff.mp ends
  cases before with
  | nil => exact absurd (segments_singleton_slash _) left
  | cons c before => simp

theorem segments_tidy (path : List Char) :
    segments (path.head? = some '/') (tidy path) = segments (path.head? = some '/') path := by
  obtain ⟨stack, same, reduced, characters⟩ := segments_spec (path.head? = some '/') path
  rw [tidy, same]
  exact segments_written _ reduced fun part member slash => (characters part member '/' slash).2 rfl

theorem head?_tidy (path : List Char) : (tidy path).head? = some '/' ↔ path.head? = some '/' := by
  obtain ⟨stack, same, reduced, characters⟩ := segments_spec (path.head? = some '/') path
  rw [tidy, same, head?_written, decide_eq_true_iff]
  · exact fun part member => reduced.ne_nil part (List.mem_reverse.mp member)
  · exact fun part member slash => (characters part (List.mem_reverse.mp member) '/' slash).2 rfl
  · exact fun closed => (of_decide_eq_true closed).2

/-- The tidy form depends on where a path begins, on the segments that are left, and where there
are any on how it ends. -/
theorem tidy_congr {first second : List Char}
    (begins : first.head? = some '/' ↔ second.head? = some '/')
    (same : segments (second.head? = some '/') first = segments (second.head? = some '/') second)
    (ends : segments (second.head? = some '/') second ≠ [] →
      (first.getLast? = some '/' ↔ second.getLast? = some '/')) : tidy first = tidy second := by
  rw [tidy_eq, tidy_eq, decide_eq_decide.mpr begins, same]
  congr 1
  exact decide_eq_decide.mpr (and_congr_left ends)

/-- A detour behind a separator does not show. -/
theorem tidy_detour {before : List Char}
    (back : ∀ absolute stack, (Text.split '/' before).foldl (walk absolute) stack = stack)
    (front rest : List Char) :
    tidy (front ++ '/' :: (before ++ '/' :: rest)) = tidy (front ++ '/' :: rest) := by
  refine tidy_congr ?_ ?_ fun _ => ?_
  · cases front <;> simp
  · simp only [segments, Text.split_append_cons, List.foldl_append, back]
  · cases rest <;> simp [List.getLast?_append, List.getLast?_cons]

theorem normalizeChars_detour {front detour : List Char} {c : Char}
    (ends : front.getLast? = some c) (isSep : isSeparator c) (isDetour : IsDetour detour)
    (rest : List Char) : normalizeChars (front ++ detour ++ rest) = normalizeChars (front ++ rest) := by
  obtain ⟨start, rfl⟩ := List.getLast?_eq_some_iff.mp ends
  obtain ⟨before, same, back⟩ := isDetour.foldl_walk
  have short : slashed (start ++ [c] ++ rest) = slashed start ++ '/' :: slashed rest := by
    simp [slashed_append, slashed_cons isSep]
  have long : slashed (start ++ [c] ++ detour ++ rest) =
      slashed start ++ '/' :: (before ++ '/' :: slashed rest) := by
    simp [slashed_append, slashed_cons isSep, same]
  rw [normalizeChars_eq, normalizeChars_eq, short, long, splitRoot_append_cons,
    splitRoot_append_cons, tidy_detour back]

/-- Whether a text is a path in canonical form with a given mark of its root. -/
def HasForm (mark text : List Char) : Prop :=
  (∃ absolute ups names trailing, IsCanonical absolute ups names trailing ∧
    text = mark ++ written absolute (List.replicate ups ['.', '.'] ++ names) trailing) ∧
  '\\' ∉ text

/-- A path is put in the form of the mark of its own root, perhaps a separator, steps up that are
not at a root, and names, between single separators and perhaps with one at the end.  It stays as it
is exactly if it has that form already.  The kind of its separators does not show in it, nor does a
detour behind one of them. -/
theorem normalize_canonical (path : String) :
    HasForm (if isVirtual path then virtualRoot else []) (normalize path).toList ∧
    (normalize path = path ↔ HasForm (if isVirtual path then virtualRoot else []) path.toList) ∧
    normalize (backslashed path) = normalize path ∧
    ∀ front rest detour c, path = front ++ rest → front.toList.getLast? = some c →
      isSeparator c → IsDetour detour.toList →
      normalize (front ++ detour ++ rest) = normalize path := by
  have hasForm : HasForm (if isVirtual path then virtualRoot else []) (normalize path).toList := by
    refine ⟨exists_normalize_eq path, ?_⟩
    rw [normalize, String.toList_ofList]
    exact backslash_not_mem_normalizeChars _
  refine ⟨hasForm, ⟨fun canonical => ?_, ?_⟩, ?_, ?_⟩
  · rwa [canonical] at hasForm
  · rintro ⟨⟨absolute, ups, names, trailing, isCanonical, same⟩, clean⟩
    exact normalize_eq_self isCanonical same clean
  · simp only [normalize, normalizeChars_eq, slashed_backslashed]
  · rintro front rest detour c rfl ends isSep isDetour
    simp only [normalize, String.toList_append, normalizeChars_detour ends isSep isDetour]

/-- A step down and up again behind the mark of a root, where a step up follows. -/
theorem normalize_downAndUp :
    "classpath:\\../db\\./" = "classpath:\\" ++ "../db\\./" ∧
    "classpath:\\".toList.getLast? = some '\\' ∧ isSeparator '\\' ∧ IsDetour "x/..\\".toList ∧
    normalize ("classpath:\\" ++ "x/..\\" ++ "../db\\./") = "classpath:/db/" := by
  have isName : IsName ['x'] := ⟨by decide, by decide, by decide⟩
  have isDetour : IsDetour "x/..\\".toList := .downAndUp isName (List.forall_mem_singleton.mpr rfl) rfl rfl
  refine ⟨rfl, by decide, rfl, isDetour, ?_⟩
  rw [(normalize_canonical "classpath:\\../db\\./").2.2.2 "classpath:\\" "../db\\./" "x/..\\"
    '\\' rfl (by decide) rfl isDetour]
  decide

end Migration.Path
