import Migration.Listing
import Migration.Proofs.NameMap
import Migration.Proofs.Path.Directory

/-!
# Files in another directory

When the files of a store are moved into a directory, the store is read and listed there as it was
before, and every listed path gains the directory in front.  The order of paths does not change,
because the front is the same for all of them.
-/

namespace Migration

/-! ## Stores -/

namespace MemoryStore

/-- The files of a store in another directory. -/
def moved (directory : String) (files : MemoryStore) : MemoryStore :=
  ⟨files.contents.moved directory⟩

/-- Whether all files of a store lie in the directory that paths are seen from. -/
def IsPlain (files : MemoryStore) : Prop :=
  ∀ key ∈ files.contents.keys, Path.IsPlain key ∧ Path.normalize key = key

variable {directory path : String} {files : MemoryStore}

theorem ofList_eq (files : List (String × String)) :
    ofList files = ⟨.ofList (files.map fun file => (Path.normalize file.1, file.2))⟩ := by
  have from' (store : MemoryStore) :
      files.foldl (fun store file => store.insert file.1 file.2) store =
        ⟨(files.map fun file => (Path.normalize file.1, file.2)).foldl
          (fun map pair => map.insert pair.1 pair.2) store.contents⟩ := by
    induction files generalizing store with
    | nil => rfl
    | cons file files ih => exact ih (store.insert file.1 file.2)
  exact from' {}

/-- A stored path is the canonical form of a given one. -/
theorem mem_keys_ofList {files : List (String × String)} {key : String}
    (member : key ∈ (ofList files).contents.keys) :
    ∃ file ∈ files, key = Path.normalize file.1 := by
  rw [ofList_eq] at member
  have pairs := NameMap.mem_keys_ofList member
  rw [List.map_map] at pairs
  obtain ⟨file, isFile, rfl⟩ := List.mem_map.mp pairs
  exact ⟨file, isFile, rfl⟩

theorem isPlain_ofList {files : List (String × String)}
    (plain : ∀ file ∈ files, Path.IsPlain file.1) : (ofList files).IsPlain := by
  intro key member
  obtain ⟨file, isFile, rfl⟩ := mem_keys_ofList member
  have here := plain file isFile
  exact ⟨Path.isPlain_normalize here, here.1.normalize_normalize⟩

/-- Files that are inserted in another directory are the moved files. -/
theorem ofList_moved {files : List (String × String)} (isDirectory : Path.IsDirectory directory)
    (plain : ∀ file ∈ files, Path.IsPlain file.1) :
    ofList (files.map fun file => (directory ++ file.1, file.2)) =
      (ofList files).moved directory := by
  rw [ofList_eq, ofList_eq, moved, ← NameMap.ofList_moved, List.map_map, List.map_map]
  refine congrArg (fun pairs => mk (NameMap.ofList pairs)) (List.map_congr_left ?_)
  intro file isFile
  simp only [Function.comp_apply, Path.normalize_append isDirectory (plain file isFile)]

theorem read_moved (isDirectory : Path.IsDirectory directory) (plain : Path.IsPlain path) :
    (files.moved directory).read (directory ++ path) = files.read path := by
  rw [read, Path.normalize_append isDirectory plain, moved, NameMap.get?_moved, read]

theorem isBelow_append (front place : List Char) (recursive : Bool) (path : List Char) :
    isBelow (front ++ place) recursive (front ++ path) = isBelow place recursive path := by
  have below : (front ++ place).isPrefixOf (front ++ path) = place.isPrefixOf path := by
    rw [Bool.eq_iff_iff, List.isPrefixOf_iff_prefix, List.isPrefixOf_iff_prefix,
      List.prefix_append_right_inj]
  have rest : (front ++ path).drop (front ++ place).length = path.drop place.length := by
    rw [List.length_append, ← List.drop_drop, List.drop_left]
  simp only [isBelow, below, rest]

theorem list_moved (isDirectory : Path.IsDirectory directory) {place : String}
    (inside : Path.IsInside place) (recursive : Bool) :
    (files.moved directory).list (directory ++ place) recursive =
      (files.list place recursive).map (directory ++ ·) := by
  rw [list, Path.asDirectory_append isDirectory inside, moved, NameMap.keys_moved, list,
    List.filter_map]
  refine congrArg (List.map _) (List.filter_congr fun key _ => ?_)
  simp only [Function.comp_apply, String.toList_append, isBelow_append]

/-- A listed path is one of a file, and begins with the listed directory. -/
theorem mem_list {place : String} {recursive : Bool} (member : path ∈ files.list place recursive) :
    path ∈ files.contents.keys ∧ (Path.asDirectory place).toList <+: path.toList := by
  obtain ⟨isFile, below⟩ := List.mem_filter.mp member
  refine ⟨isFile, ?_⟩
  rw [isBelow, Bool.and_eq_true] at below
  exact List.isPrefixOf_iff_prefix.mp below.1

end MemoryStore

/-! ## Listings -/

theorem lexical_append (front a b : String) : lexical (front ++ a) (front ++ b) = lexical a b := by
  change compareOfLessAndEq (front ++ a) (front ++ b) = compareOfLessAndEq a b
  simp only [compareOfLessAndEq, append_lt_append_iff, String.append_right_inj]

namespace Listing

variable {directory : String}

theorem place_append (isDirectory : Path.IsDirectory directory) {base path : String}
    (unmarked : ¬ Path.virtualRoot.isPrefixOf base.toList)
    (inside : Path.IsInside (Path.parent base ++ Path.asDirectory path)) :
    place (directory ++ base) true path = directory ++ place base true path := by
  simp only [place, if_true]
  rw [Path.parent_append isDirectory unmarked, String.append_assoc,
    Path.asDirectory_append isDirectory inside]

theorem fromFirst_of_prefix {needle s : List Char} (begins : needle <+: s) :
    Text.fromFirst needle s = s := by
  obtain ⟨rest, rfl⟩ := begins
  have cut : Text.cutAt needle (needle ++ rest) = some ([], rest) := by
    cases whole : needle ++ rest with
    | nil => simp_all [Text.cutAt]
    | cons c s =>
        have here : needle.isPrefixOf (c :: s) := by
          rw [List.isPrefixOf_iff_prefix]
          exact ⟨rest, whole⟩
        rw [Text.cutAt, if_pos here, ← whole, List.drop_left]
  rw [Text.fromFirst, cut]

theorem distinct_moved (directory : String) (paths : List String) :
    distinct (paths.map (directory ++ ·)) = (distinct paths).map (directory ++ ·) := by
  have pairs := NameMap.ofList_moved directory (paths.map fun path => (path, ()))
  rw [distinct, distinct, ← NameMap.keys_moved, ← pairs]
  simp [Function.comp_def]

theorem order_moved {compare : Option (String → String → Ordering)}
    (keeps : ∀ compare' ∈ compare, ∀ a b,
      compare' (directory ++ a) (directory ++ b) = compare' a b) (paths : List String) :
    order compare (paths.map (directory ++ ·)) = (order compare paths).map (directory ++ ·) := by
  cases compare with
  | none => rfl
  | some compare =>
      symm
      refine List.map_mergeSort fun a _ b _ => ?_
      simp only [keeps compare rfl]

/-- The scripts that a listing finds in a directory as seen from the directory of `base`. -/
def found (files : MemoryStore) (base path : String) (recursive : Bool) (options : Options) :
    List String :=
  order options.compare
    (distinct ((files.list (place base true path) recursive).filter (admits options)))

/-- A script that is found is a file. -/
theorem mem_found {files : MemoryStore} {base path script : String} {recursive : Bool}
    {options : Options} (member : script ∈ found files base path recursive options) :
    script ∈ files.contents.keys := by
  have ordered : script ∈ distinct
      ((files.list (place base true path) recursive).filter (admits options)) := by
    unfold found order at member
    split at member
    · exact List.mem_mergeSort.mp member
    · exact member
  have pairs := NameMap.mem_keys_ofList ordered
  rw [List.map_map] at pairs
  obtain ⟨other, isOther, rfl⟩ := List.mem_map.mp pairs
  exact (MemoryStore.mem_list (List.mem_filter.mp isOther).1).1

/-- In a directory that stays inside no path is cut. -/
theorem list_eq_found {files : MemoryStore} {base path : String}
    (inside : Path.IsInside (Path.parent base ++ Path.asDirectory path)) (fixup recursive : Bool)
    (options : Options) :
    list files.toStore fixup base true path recursive options =
      if found files base path recursive options = [] ∧ options.demanded then
        .error (.resource (Path.asDirectory path) .emptyDirectory)
      else .ok (found files base path recursive options) := by
  have fixed : Path.asDirectory (place base true path) = place base true path :=
    inside.asDirectory_asDirectory.2
  have kept : ∀ other ∈ (files.list (place base true path) recursive).filter (admits options),
      cutToPlace (place base true path) other = other := by
    intro other member
    have begins := (MemoryStore.mem_list (List.mem_filter.mp member).1).2
    rw [fixed] at begins
    rw [cutToPlace, fromFirst_of_prefix begins, String.ofList_toList]
  have uncut : (if isCut fixup path then
        ((files.list (place base true path) recursive).filter (admits options)).map
          (cutToPlace (place base true path))
        else (files.list (place base true path) recursive).filter (admits options)) =
      (files.list (place base true path) recursive).filter (admits options) := by
    split
    · exact (List.map_congr_left kept).trans (List.map_id _)
    · rfl
  unfold list found
  rw [← uncut]
  rfl

theorem mem_of_list_eq_ok {files : MemoryStore} {base path : String} {fixup recursive : Bool}
    {options : Options} {listed : List String}
    (inside : Path.IsInside (Path.parent base ++ Path.asDirectory path))
    (isList : list files.toStore fixup base true path recursive options = .ok listed) :
    ∀ script ∈ listed, script ∈ files.contents.keys := by
  rw [list_eq_found inside] at isList
  split at isList
  · cases isList
  · cases isList
    exact fun script => mem_found

/-- A directory is listed in another one as it was before. -/
theorem list_moved (isDirectory : Path.IsDirectory directory) {files : MemoryStore}
    {base path : String} (unmarked : ¬ Path.virtualRoot.isPrefixOf base.toList)
    (inside : Path.IsInside (Path.parent base ++ Path.asDirectory path))
    (named : ∀ key ∈ files.contents.keys, Path.isBareExtension key = false)
    (options : Options) (noFilter : options.accepts = none)
    (keeps : ∀ compare ∈ options.compare, ∀ a b,
      compare (directory ++ a) (directory ++ b) = compare a b)
    (fixup recursive : Bool) :
    list (files.moved directory).toStore fixup (directory ++ base) true path recursive options =
      (list files.toStore fixup base true path recursive options).map
        (List.map (directory ++ ·)) := by
  have insideMoved :
      Path.IsInside (Path.parent (directory ++ base) ++ Path.asDirectory path) := by
    rw [Path.parent_append isDirectory unmarked, String.append_assoc]
    exact Path.isInside_append isDirectory inside
  have admitted : (((files.list (place base true path) recursive).map (directory ++ ·)).filter
        (admits options)) =
      ((files.list (place base true path) recursive).filter (admits options)).map
        (directory ++ ·) := by
    rw [List.filter_map]
    refine congrArg (List.map _) (List.filter_congr fun key member => ?_)
    have isFile := (MemoryStore.mem_list member).1
    simp only [Function.comp_apply, admits, noFilter, Path.isScript_append isDirectory,
      named key isFile, Bool.or_false]
  have same : found (files.moved directory) (directory ++ base) path recursive options =
      (found files base path recursive options).map (directory ++ ·) := by
    have placed : Path.IsInside (place base true path) := inside.asDirectory_asDirectory.1
    rw [found, place_append isDirectory unmarked inside,
      MemoryStore.list_moved isDirectory placed, admitted, distinct_moved, order_moved keeps, found]
  rw [list_eq_found insideMoved, list_eq_found inside, same]
  simp only [List.map_eq_nil_iff]
  split <;> rfl

end Listing

end Migration
