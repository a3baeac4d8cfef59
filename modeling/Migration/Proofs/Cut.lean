import Mathlib.Algebra.BigOperators.Group.List.Basic
import Migration.Proofs.Listing
import Migration.Proofs.Script.Longer

/-!
# Cut listings

A listing that gives whole paths is cut to the listed directory, where that first occurs in a path.  As
the directory stands behind the root in all of them, the same is cut off from each: a listing is that of
the directory, with a front that root and directory alone decide.  There is no front exactly if the
directory stands nowhere in its whole path but at the end.
-/

namespace Migration

/-! ## First occurrences -/

/-- Whether a text that stands behind another one occurs in the two together nowhere else. -/
def Text.StandsLast (needle front : List Char) : Prop :=
  ∀ before behind, front ++ needle = before ++ (needle ++ behind) → behind = []

namespace Text

variable {needle front : List Char}

theorem fromFirst_cons {s : List Char} {c : Char} (nonempty : needle ≠ []) (occurs : needle <:+: s) :
    fromFirst needle (c :: s) = if needle <+: c :: s then c :: s else fromFirst needle s := by
  by_cases here : needle <+: c :: s
  · rw [if_pos here, Listing.fromFirst_of_prefix here]
  · have noneHere : ¬ needle.isPrefixOf (c :: s) := mt List.isPrefixOf_iff_prefix.mp here
    obtain ⟨cut, found⟩ := Option.ne_none_iff_exists'.mp
      (mt (cutAt_eq_none_iff nonempty).mp (not_not_intro occurs))
    rw [if_neg here, fromFirst, cutAt, if_neg noneHere, fromFirst, found]
    rfl

/-- What follows an occurrence has no say in where the first one is. -/
theorem fromFirst_append (nonempty : needle ≠ []) (front behind : List Char) :
    fromFirst needle (front ++ needle ++ behind) = fromFirst needle (front ++ needle) ++ behind := by
  induction front with
  | nil =>
      rw [List.nil_append, Listing.fromFirst_of_prefix (List.prefix_append _ _),
        Listing.fromFirst_of_prefix List.prefix_rfl]
  | cons c front ih =>
      have occurs : needle <:+: front ++ needle := ⟨front, [], by simp⟩
      have same : needle <+: c :: (front ++ needle ++ behind) ↔ needle <+: c :: (front ++ needle) := by
        rw [← List.cons_append]
        refine ⟨fun begins => ?_, fun begins => begins.trans (List.prefix_append _ _)⟩
        refine List.prefix_of_prefix_length_le begins (List.prefix_append _ _) ?_
        simp only [List.length_cons, List.length_append]
        omega
      rw [List.cons_append, List.cons_append,
        fromFirst_cons nonempty (occurs.trans (List.prefix_append _ _).isInfix),
        fromFirst_cons nonempty occurs, ih]
      simp only [same]
      split <;> rfl

/-- From the first occurrence on, there is some of the front left exactly if the one behind it is not
the first. -/
theorem exists_fromFirst_eq (nonempty : needle ≠ []) (front : List Char) :
    ∃ kept, fromFirst needle (front ++ needle) = kept ++ needle ∧
      (kept = [] ↔ StandsLast needle front) := by
  induction front with
  | nil =>
      refine ⟨[], Listing.fromFirst_of_prefix List.prefix_rfl, iff_of_true rfl ?_⟩
      intro before behind same
      have lengths := congrArg List.length same
      simp only [List.length_append, List.length_nil] at lengths
      exact List.length_eq_zero_iff.mp (by omega)
  | cons c front ih =>
      have occurs : needle <:+: front ++ needle := ⟨front, [], by simp⟩
      rw [List.cons_append, fromFirst_cons nonempty occurs]
      by_cases here : needle <+: c :: (front ++ needle)
      · rw [if_pos here]
        refine ⟨c :: front, rfl, iff_of_false (List.cons_ne_nil _ _) fun last => ?_⟩
        obtain ⟨behind, same⟩ := here
        have nothing := last [] behind same.symm
        have lengths := congrArg List.length same
        simp only [nothing, List.append_nil, List.length_cons, List.length_append] at lengths
        omega
      · rw [if_neg here]
        obtain ⟨kept, same, alone⟩ := ih
        refine ⟨kept, same, alone.trans ⟨fun last before behind same => ?_, fun last => ?_⟩⟩
        · cases before with
          | nil => exact absurd ⟨behind, same.symm⟩ here
          | cons d before => exact last before behind (List.cons.inj same).2
        · exact fun before behind same => last (c :: before) behind (congrArg (c :: ·) same)

theorem standsLast_iff (nonempty : needle ≠ []) :
    StandsLast needle front ↔ fromFirst needle (front ++ needle) = needle := by
  obtain ⟨kept, same, alone⟩ := exists_fromFirst_eq nonempty front
  rw [← alone, same]
  simp

end Text

namespace Listing

/-- What is returned for a directory if some paths are found in it. -/
def answer (directory : String) (options : Options) (found : List String) :
    Except BuildError (List String) :=
  let paths := order options.compare (distinct found)
  if paths = [] ∧ options.demanded then .error (.resource directory .emptyDirectory) else .ok paths

/-- The names of scripts among those of files in a directory below a root, without those that a filter
rejects. -/
def scriptNames (root directory : String) (options : Options) (names : List String) : List String :=
  names.filter fun name => Path.isScript (directory ++ name) &&
    options.accepts.all fun accepts => accepts (root ++ directory ++ name)

variable {root directory : String}

theorem admits_eq (isDirectory : Path.IsDirectory directory) (options : Options) (name : String) :
    admits options (root ++ directory ++ name) =
      (Path.isScript (directory ++ name) &&
        options.accepts.all fun accepts => accepts (root ++ directory ++ name)) := by
  obtain ⟨names, spells⟩ := isDirectory.spells
  have separated : '/' ∈ (directory ++ name).toList := by simp [spells.eq_join]
  rw [admits, String.append_assoc, Path.isScript_append_of_mem separated]
  cases options.accepts <;> rfl

/-- A directory is listed by the paths that its accessor gives, all cut to the directory. -/
theorem list_eq_answer (isDirectory : Path.IsDirectory directory)
    (relative : Path.isAbsolute directory = false) {store : Store} {names : List String}
    {recursive : Bool}
    (lists : store.list directory recursive = .ok (names.map (root ++ directory ++ ·)))
    (base : String) (options : Options) :
    list store true base false directory recursive options =
      answer directory options ((scriptNames root directory options names).map fun name =>
        cutToPlace directory (root ++ directory ++ name)) := by
  have isCut : isCut true directory = true := by
    simp [Listing.isCut, isDirectory.2, relative, isDirectory.isVirtual_eq_false]
  have placed : place base false directory = directory := isDirectory.2
  have files : store.files directory recursive = .ok (names.map (root ++ directory ++ ·)) := by
    rw [Store.files, lists]
    rfl
  have admitted : (names.map (root ++ directory ++ ·)).filter (admits options) =
      (scriptNames root directory options names).map (root ++ directory ++ ·) := by
    rw [List.filter_map, scriptNames]
    exact congrArg (List.map _) (List.filter_congr fun name _ =>
      admits_eq isDirectory options name)
  have cut : ((names.map (root ++ directory ++ ·)).filter (admits options)).map
        (cutToPlace directory) =
      (scriptNames root directory options names).map fun name =>
        cutToPlace directory (root ++ directory ++ name) := by
    rw [admitted, List.map_map]
    rfl
  simp only [list, placed, files, isCut, if_true, isDirectory.2]
  rw [answer, ← cut]
  rfl

/-- Every path is cut to the directory with one and the same text in front of it. -/
theorem exists_cutToPlace_eq (nonempty : directory ≠ "") (root : String) :
    ∃ kept : String, (kept = "" ↔ Text.StandsLast directory.toList root.toList) ∧
      ∀ name, cutToPlace directory (root ++ directory ++ name) = kept ++ (directory ++ name) := by
  have notNil : directory.toList ≠ [] := by simpa using nonempty
  obtain ⟨kept, same, alone⟩ := Text.exists_fromFirst_eq notNil root.toList
  refine ⟨String.ofList kept, ?_, fun name => ?_⟩
  · rw [← alone, String.ofList_eq_empty_iff]
  · rw [cutToPlace, String.toList_append, String.toList_append, Text.fromFirst_append notNil, same]
    simp

theorem distinct_eq_nil_iff {paths : List String} : distinct paths = [] ↔ paths = [] := by
  rcases List.eq_nil_or_concat paths with rfl | ⟨before, last, rfl⟩
  · exact iff_of_true rfl rfl
  · have isKey : last ∈ distinct (before.concat last) := by
      have found : (NameMap.ofList ((before.concat last).map fun path => (path, ()))).get? last =
          some () := by
        rw [List.concat_eq_append, List.map_append, NameMap.ofList, List.foldl_append]
        exact (NameMap.get?_insert _ _ _ _).trans (if_pos rfl)
      exact NameMap.mem_keys_of_get? found
    exact iff_of_false (List.ne_nil_of_mem isKey) (by simp)

theorem order_perm (compare : Option (String → String → Ordering)) (paths : List String) :
    (order compare paths).Perm paths := by
  cases compare with
  | none => exact .refl _
  | some compare => exact List.mergeSort_perm _ _

/-- Texts that are all made longer are no longer the same, if there are any. -/
theorem eq_nil_of_perm_map_append {kept : String} {paths : List String}
    (same : (paths.map (kept ++ ·)).Perm paths) : paths = [] ∨ kept = "" := by
  have lengths := (same.map String.length).sum_eq
  simp only [List.map_map, Function.comp_def, String.length_append, List.sum_map_add,
    List.map_const', List.sum_replicate_nat] at lengths
  rcases Nat.mul_eq_zero.mp (by omega : paths.length * kept.length = 0) with none | empty
  · exact .inl (List.length_eq_zero_iff.mp none)
  · exact .inr (String.length_eq_zero_iff.mp empty)

theorem answer_of_ne_nil {found : List String} (some : found ≠ []) (directory : String)
    (options : Options) :
    answer directory options found = .ok (order options.compare (distinct found)) := by
  refine if_neg fun nothing => ?_
  have ordered := order_perm options.compare (distinct found)
  rw [nothing.1, List.nil_perm, distinct_eq_nil_iff] at ordered
  exact some ordered

theorem answer_append_eq_iff {kept : String} {options : Options} {found : List String} :
    answer directory options (found.map (kept ++ ·)) = answer directory options found ↔
      found = [] ∨ kept = "" := by
  refine ⟨fun same => or_iff_not_imp_left.mpr fun some => ?_, ?_⟩
  · rw [answer_of_ne_nil some, answer_of_ne_nil (by simpa using some), Except.ok.injEq,
      distinct_moved] at same
    have perm : ((distinct found).map (kept ++ ·)).Perm (distinct found) :=
      (order_perm options.compare _).symm.trans (same ▸ order_perm options.compare _)
    exact (eq_nil_of_perm_map_append perm).resolve_left (mt distinct_eq_nil_iff.mp some)
  · rintro (rfl | rfl)
    · rfl
    · simp

end Listing

end Migration
