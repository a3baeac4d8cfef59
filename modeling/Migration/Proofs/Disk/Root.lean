import Migration.Proofs.Cut
import Migration.Proofs.Disk.Bounded

/-!
# Directories below a root

A store on a disk lists a directory below its root by whole paths, which begin with the names of the root
and go on with those of the directory.  It reads a path from the directory on as it reads the whole one.
With what is known of cut listings, `list_eq_answer_iff` says when a listing gives paths that do not
depend on the root.
-/

namespace Migration

/-! ## Directories on a disk -/

namespace Path

/-- Whether a path is the canonical form of an absolute directory. -/
structure IsRoot (path : String) : Prop where
  begins : path.toList.head? = some '/'
  ends : path.toList.getLast? = some '/'
  canonical : normalize path = path

theorem isVirtual_eq_false_of_head {path : String} (begins : path.toList.head? = some '/') :
    isVirtual path = false := by
  obtain ⟨rest, same⟩ := List.head?_eq_some_iff.mp begins
  rw [isVirtual, same]
  rfl

/-- Names that are no steps and hold no separators. -/
structure AreNames (names : List (List Char)) : Prop where
  areNames : ∀ name ∈ names, IsName name
  apart : ∀ name ∈ names, '/' ∉ name
  noBackslash : ∀ name ∈ names, '\\' ∉ name

/-- Some names with a separator behind each. -/
def closed (names : List (List Char)) : List Char :=
  names.flatMap (· ++ ['/'])

theorem closed_cons (name : List Char) (names : List (List Char)) :
    closed (name :: names) = name ++ '/' :: closed names := by
  simp [closed]

theorem join_append_separator {names : List (List Char)} (nonempty : names ≠ []) :
    join names ++ ['/'] = closed names := by
  induction names with
  | nil => exact absurd rfl nonempty
  | cons name names ih =>
      by_cases last : names = []
      · simp [last, join, closed]
      · rw [← List.singleton_append, join_append (by simp) last, List.append_assoc,
          List.cons_append, ih last, List.singleton_append, closed_cons]
        simp [join]

theorem split_closed {names : List (List Char)} (apart : ∀ name ∈ names, '/' ∉ name) :
    Text.split '/' (closed names) = names ++ [[]] := by
  induction names with
  | nil => rfl
  | cons name names ih =>
      obtain ⟨here, others⟩ := List.forall_mem_cons.mp apart
      rw [closed_cons, Text.split_append_cons, Text.split_of_not_mem here, ih others]
      rfl

theorem AreNames.append {first second : List (List Char)} (front : AreNames first)
    (back : AreNames second) : AreNames (first ++ second) where
  areNames name member := (List.mem_append.mp member).elim (front.areNames name) (back.areNames name)
  apart name member := (List.mem_append.mp member).elim (front.apart name) (back.apart name)
  noBackslash name member :=
    (List.mem_append.mp member).elim (front.noBackslash name) (back.noBackslash name)

theorem IsDirectory.exists_closed {directory : String} (isDirectory : IsDirectory directory) :
    ∃ names, AreNames names ∧ directory.toList = closed names := by
  obtain ⟨names, spells⟩ := isDirectory.spells
  refine ⟨names, ⟨spells.areWritten.areNames, spells.areWritten.areApart, ?_⟩, ?_⟩
  · exact fun name member => (spells.areWritten.apart name member).2
  · rw [spells.eq_join, join_append_separator spells.nonempty]

/-- An absolute path that ends in a separator has one behind each of its names. -/
theorem written_eq_closed {names : List (List Char)} {trailing : Bool}
    (areNonempty : ∀ name ∈ names, name ≠ []) (apart : ∀ name ∈ names, '/' ∉ name)
    (named : trailing = true → names ≠ [])
    (ends : (written true names trailing).getLast? = some '/') :
    written true names trailing = '/' :: closed names := by
  cases trailing with
  | true =>
      rw [← join_append_separator (named rfl)]
      rfl
  | false =>
      have plain : written true names false = ['/'] ++ join names := by simp [written]
      by_cases nothing : names = []
      · subst nothing
        rfl
      · rw [plain, List.getLast?_append_of_ne_nil _ (join_ne_nil areNonempty nothing)] at ends
        exact absurd ends (getLast?_join_ne areNonempty apart)

theorem backslash_not_mem_of_canonical {path : String} (canonical : normalize path = path) :
    '\\' ∉ path.toList := by
  rw [← canonical, normalize, String.toList_ofList]
  exact backslash_not_mem_normalizeChars _

theorem IsRoot.exists_closed {root : String} (isRoot : IsRoot root) :
    ∃ names, AreNames names ∧ root.toList = '/' :: closed names := by
  obtain ⟨begins, ends, canonical⟩ := isRoot
  have noBackslash := backslash_not_mem_of_canonical canonical
  obtain ⟨absolute, ups, names, trailing, isCanonical, same⟩ := exists_written canonical
  rw [isVirtual_eq_false_of_head begins, if_neg (by simp), List.nil_append] at same
  obtain rfl := (isCanonical.head?_written absolute).mp (same ▸ begins)
  obtain rfl := isCanonical.atRoot rfl
  rw [List.replicate_zero, List.nil_append] at same
  have areNonempty : ∀ name ∈ names, name ≠ [] := fun name member =>
    (isCanonical.areNames name member).nonempty
  rw [written_eq_closed areNonempty isCanonical.areApart isCanonical.closed (same ▸ ends)] at same
  refine ⟨names, ⟨isCanonical.areNames, isCanonical.areApart, fun name member inside => ?_⟩, same⟩
  rw [same] at noBackslash
  refine noBackslash (List.mem_cons_of_mem _ (List.mem_flatMap.mpr ⟨name, member, ?_⟩))
  exact List.mem_append_left _ inside

end Path

namespace Disk

/-- A file in a directory is not the directory itself. -/
theorem ne_nil_of_mem_filesOf {here : Place} {entries : List (String × Disk)} {files : List Place}
    (found : filesOf here entries = .ok files) : ∀ file ∈ files, file ≠ [] := by
  induction entries generalizing files with
  | nil =>
      cases found
      simp
  | cons entry entries ih =>
      obtain ⟨name, node⟩ := entry
      rw [filesOf] at found
      obtain ⟨below, -, found⟩ := bind_eq_ok.mp found
      obtain ⟨others, isOthers, found⟩ := bind_eq_ok.mp found
      cases found
      intro file member
      rcases List.mem_append.mp member with inside | later
      · obtain ⟨rest, -, rfl⟩ := List.mem_map.mp inside
        exact List.cons_ne_nil _ _
      · exact ih isOthers file later

theorem ne_nil_of_mem_filesDirectlyIn {here : Place} {entries : List (String × Disk)}
    {files : List Place} (found : filesDirectlyIn here entries = .ok files) :
    ∀ file ∈ files, file ≠ [] := by
  induction entries generalizing files with
  | nil =>
      cases found
      simp
  | cons entry entries ih =>
      obtain ⟨name, node⟩ := entry
      have other (found : (filesDirectlyIn here entries).map ([name] :: ·) = .ok files) :
          ∀ file ∈ files, file ≠ [] := by
        obtain ⟨others, isOthers, rfl⟩ := map_eq_ok.mp found
        exact List.forall_mem_cons.mpr ⟨List.cons_ne_nil _ _, ih isOthers⟩
      cases node with
      | unexplored => cases found
      | directory => exact ih found
      | file => exact other found
      | other => exact other found

end Disk

namespace DiskStore

variable {store : DiskStore} {directory : String} {names : List (List Char)}

/-- A directory leads to the place of its names. -/
theorem place_eq (areNames : Path.AreNames names) {path : String}
    (spelled : path.toList = '/' :: Path.closed names) {place : Disk.Place} {node : Disk}
    (located : store.locate path = .ok (.leads place node)) :
    place = names.map String.ofList := by
  have followed := (follow_of_locate located).2
  rw [spelled] at followed
  obtain ⟨same, -⟩ := Disk.follow_eq_leads followed
  rw [← List.nil_append ('/' :: Path.closed names), Text.split_append_cons, List.foldl_append,
    Path.split_closed areNames.apart, List.foldl_append,
    Disk.foldl_go_names areNames.areNames] at same
  simpa [Text.split, Disk.go] using same

theorem toList_joinNames_append (names : List (List Char)) {file : Disk.Place}
    (nonempty : file ≠ []) :
    (joinNames (names.map String.ofList ++ file)).toList =
      Path.closed names ++ (joinNames file).toList := by
  induction names with
  | nil => rfl
  | cons name names ih =>
      have some : names.map String.ofList ++ file ≠ [] := by simp [nonempty]
      rw [List.map_cons, List.cons_append, joinNames, String.intercalate_cons_of_ne_nil some]
      rw [joinNames] at ih
      simp [ih, Path.closed_cons]

theorem absolutePath_append (noBackslash : ∀ name ∈ names, '\\' ∉ name) {file : Disk.Place}
    (nonempty : file ≠ []) :
    (absolutePath (names.map String.ofList ++ file)).toList =
      '/' :: Path.closed names ++ Path.slashed (joinNames file).toList := by
  have plain : '\\' ∉ Path.closed names := by
    intro inside
    obtain ⟨name, member, inside⟩ := List.mem_flatMap.mp inside
    exact noBackslash name member (by simpa using inside)
  rw [absolutePath, String.toList_ofList, String.toList_append, toList_joinNames_append names nonempty]
  rw [Path.slashed, List.map_append, List.map_append, ← Path.slashed, ← Path.slashed,
    ← Path.slashed, Path.slashed_of_not_mem plain]
  rfl

theorem filesIn_eq_some {path : String} {recursive : Bool} {place : Disk.Place}
    {files : List Disk.Place} (found : store.filesIn path recursive = .ok (some (place, files))) :
    (∃ node, store.locate path = .ok (.leads place node)) ∧ ∀ file ∈ files, file ≠ [] := by
  rw [filesIn] at found
  obtain ⟨way, located, found⟩ := bind_eq_ok.mp found
  match way with
  | .leads here (.directory entries) =>
      obtain ⟨inside, isInside, found⟩ := bind_eq_ok.mp found
      cases found
      refine ⟨⟨_, located⟩, ?_⟩
      have isInside := mapError_eq_ok.mp isInside
      cases recursive with
      | true => exact Disk.ne_nil_of_mem_filesOf isInside
      | false => exact Disk.ne_nil_of_mem_filesDirectlyIn isInside
  | .leads _ .unexplored | .leads _ (.file _) | .leads _ .other | .missing | .blocked
  | .tooLong => cases found

theorem join_eq_append {root path : String} (isRoot : Path.IsRoot root)
    (relative : Path.isAbsolute path = false) : join root path = root ++ path := by
  have noSeparator : path.toList.head? ≠ some '/' := by
    intro begins
    obtain ⟨rest, same⟩ := List.head?_eq_some_iff.mp begins
    simp [Path.isAbsolute, Path.slashed, same] at relative
  have nonempty : root ≠ "" := by
    rintro rfl
    cases isRoot.begins
  rw [join, if_neg (by simp [noSeparator, nonempty]), if_pos isRoot.ends]

/-- A directory below the root is listed by whole paths. -/
theorem list_below (isRoot : Path.IsRoot store.root) (isDirectory : Path.IsDirectory directory)
    (relative : Path.isAbsolute directory = false) {recursive : Bool} {listed : List String}
    (lists : store.list directory recursive = .ok listed) :
    ∃ names : List String, listed = names.map (store.root ++ directory ++ ·) := by
  obtain ⟨above, areAbove, rootNames⟩ := isRoot.exists_closed
  obtain ⟨below, areBelow, directoryNames⟩ := isDirectory.exists_closed
  have areNames := areAbove.append areBelow
  have whole : (store.root ++ directory).toList = '/' :: Path.closed (above ++ below) := by
    simp [rootNames, directoryNames, Path.closed]
  rw [list, if_neg (by simp [isDirectory.isVirtual_eq_false]), if_neg (by simp [relative]),
    join_eq_append isRoot relative] at lists
  obtain ⟨found, isFound, lists⟩ := bind_eq_ok.mp lists
  cases found with
  | none =>
      cases lists
      exact ⟨[], rfl⟩
  | some found =>
      obtain ⟨place, files⟩ := found
      cases lists
      obtain ⟨⟨node, located⟩, nonempty⟩ := filesIn_eq_some isFound
      obtain rfl := place_eq areNames whole located
      refine ⟨files.map fun file => String.ofList (Path.slashed (joinNames file).toList), ?_⟩
      rw [List.map_map]
      refine List.map_congr_left fun file member => String.toList_inj.mp ?_
      rw [absolutePath_append areNames.noBackslash (nonempty file member), ← whole]
      simp

/-- What is read by a path below the root is what is read by the whole path. -/
theorem read_below (isRoot : Path.IsRoot store.root) (isDirectory : Path.IsDirectory directory)
    (relative : Path.isAbsolute directory = false) (name : String) :
    store.read (directory ++ name) = store.read (store.root ++ directory ++ name) := by
  have below : Path.isAbsolute (directory ++ name) = false :=
    isDirectory.isAbsolute_append relative name
  obtain ⟨rest, begins⟩ := List.head?_eq_some_iff.mp isRoot.begins
  have absolute : Path.isAbsolute (store.root ++ directory ++ name) = true := by
    simp [Path.isAbsolute, Path.slashed, begins]
  have unmarked : Path.isVirtual (store.root ++ directory ++ name) = false :=
    Path.isVirtual_eq_false_of_head (by simp [begins])
  have short : store.candidates (directory ++ name) = [store.root ++ (directory ++ name)] := by
    simp only [candidates, isDirectory.isVirtual_append name, below, join_eq_append isRoot below,
      Bool.false_eq_true, if_false]
  have whole : store.candidates (store.root ++ directory ++ name) =
      [store.root ++ directory ++ name] := by
    simp only [candidates, unmarked, absolute, Bool.false_eq_true, if_false, if_true]
  rw [read, read, short, whole, String.append_assoc]

end DiskStore

/-- Where a directory is listed by whole paths, its listing is that of the paths from the directory on
exactly if there are no scripts in it or it stands in its whole path at the end only.  A store on a disk
lists whole paths, and reads a path from the directory on as the whole one. -/
theorem Listing.list_eq_answer_iff {root directory : String}
    (isDirectory : Path.IsDirectory directory) (relative : Path.isAbsolute directory = false) :
    (∀ (store : Store) (names : List String) (base : String) (recursive : Bool) (options : Options),
      store.list directory recursive = .ok (names.map (root ++ directory ++ ·)) →
        (list store true base false directory recursive options =
            answer directory options
              ((scriptNames root directory options names).map (directory ++ ·)) ↔
          scriptNames root directory options names = [] ∨
            Text.StandsLast directory.toList root.toList)) ∧
      ∀ store : DiskStore, store.root = root → Path.IsRoot root →
        (∀ recursive listed, store.list directory recursive = .ok listed →
          ∃ names : List String, listed = names.map (root ++ directory ++ ·)) ∧
        ∀ name, store.read (directory ++ name) = store.read (root ++ directory ++ name) := by
  constructor
  · intro store names base recursive options lists
    have nonempty : directory ≠ "" := by
      rintro rfl
      exact isDirectory.1.2 rfl
    obtain ⟨kept, alone, cuts⟩ := exists_cutToPlace_eq nonempty root
    have cut : ((scriptNames root directory options names).map fun name =>
          cutToPlace directory (root ++ directory ++ name)) =
        ((scriptNames root directory options names).map (directory ++ ·)).map (kept ++ ·) := by
      rw [List.map_map]
      exact List.map_congr_left fun name _ => cuts name
    rw [list_eq_answer isDirectory relative lists, cut, answer_append_eq_iff, ← alone,
      List.map_eq_nil_iff]
  · rintro store rfl isRoot
    exact ⟨fun recursive listed => DiskStore.list_below isRoot isDirectory relative,
      DiskStore.read_below isRoot isDirectory relative⟩

namespace DiskStore

/-- A directory of scripts below two roots, one of which has the name of the directory in it. -/
def nested (root : String) : DiskStore where
  disk :=
    let scripts := .directory [("db", .directory [("a.qcl", .file (some ""))])]
    .directory [("srv", .directory [("app", scripts), ("db", .directory [("app", scripts)])])]
  workingDirectory := []
  root := root

/-- Below a root that does not have the name in it, the listed path is cut to the directory and read. -/
theorem list_nested :
    Path.IsDirectory "db/" ∧ Path.isAbsolute "db/" = false ∧
      (nested "/srv/app/").list "db/" true = .ok ["/srv/app/db/a.qcl"] ∧
      Listing.list (nested "/srv/app/").toStore true "" false "db/" true {} = .ok ["db/a.qcl"] ∧
      (nested "/srv/app/").read "db/a.qcl" = .ok "" := by
  have isDirectory : Path.IsDirectory "db/" := by decide
  have relative : Path.isAbsolute "db/" = false := by decide
  have isRoot : Path.IsRoot "/srv/app/" := ⟨by decide, by decide, by decide⟩
  have lists : (nested "/srv/app/").list "db/" true = .ok ["/srv/app/db/a.qcl"] :=
    eq_ok_of_toOption (by decide +kernel)
  have last : Text.StandsLast "db/".toList "/srv/app/".toList :=
    (Text.standsLast_iff (by decide)).mpr (by decide)
  obtain ⟨cut, below⟩ := @Listing.list_eq_answer_iff "/srv/app/" _ isDirectory relative
  have listed := (cut (nested "/srv/app/").toStore ["a.qcl"] "" true {} lists).mpr (.inr last)
  have reads := (below (nested "/srv/app/") rfl isRoot).2 "a.qcl"
  exact ⟨isDirectory, relative, lists, listed.trans (eq_ok_of_toOption (by decide +kernel)),
    reads.trans (eq_ok_of_toOption (by decide +kernel))⟩

/-- Below the other root the path is cut inside of the root, and no file is there. -/
theorem not_list_eq_answer :
    ¬ ∀ (store : DiskStore) (directory : String) (names : List String), Path.IsRoot store.root →
      Path.IsDirectory directory → Path.isAbsolute directory = false →
      store.list directory true = .ok (names.map (store.root ++ directory ++ ·)) →
      Listing.list store.toStore true "" false directory true {} =
        Listing.answer directory {}
          ((names.filter fun name => Path.isScript (directory ++ name)).map (directory ++ ·)) := by
  intro cuts
  have isRoot : Path.IsRoot "/srv/db/app/" := ⟨by decide, by decide, by decide⟩
  have lists : (nested "/srv/db/app/").list "db/" true = .ok ["/srv/db/app/db/a.qcl"] :=
    eq_ok_of_toOption (by decide +kernel)
  have listed : Listing.list (nested "/srv/db/app/").toStore true "" false "db/" true {} =
      .ok ["db/app/db/a.qcl"] :=
    eq_ok_of_toOption (by decide +kernel)
  have claimed : Listing.answer "db/" {} ((["a.qcl"].filter fun name =>
      Path.isScript ("db/" ++ name)).map ("db/" ++ ·)) = .ok ["db/a.qcl"] :=
    eq_ok_of_toOption (by decide +kernel)
  have same := cuts (nested "/srv/db/app/") "db/" ["a.qcl"] isRoot (by decide) (by decide) lists
  rw [listed, claimed] at same
  exact absurd (Except.ok.inj same) (by decide)

end DiskStore

end Migration
