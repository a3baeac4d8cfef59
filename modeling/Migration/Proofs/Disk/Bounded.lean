import Mathlib
import Migration.Disk.Store
import Migration.Proofs.Build.Bounded
import Migration.Proofs.Disk.Place
import Migration.Proofs.Path.Form

/-!
# How many paths lead to a file

A canonical path leads to a place by steps up and names.  The names are the end of the place, so the
place where the path begins, the number of its steps up and the place to which it leads spell the
path.  The main statement, `DiskStore.isBounded`, says that the bound of a store on a disk is a true
one.
-/

namespace Migration

theorem Disk.foldl_go_names {names : List (List Char)} (areNames : ∀ name ∈ names, Path.IsName name)
    (here : Place) : names.foldl go here = here ++ names.map String.ofList := by
  induction names generalizing here with
  | nil => simp
  | cons name names ih =>
      obtain ⟨isName, others⟩ := List.forall_mem_cons.mp areNames
      have down : go here name = here ++ [String.ofList name] := by
        simp [go, isName.nonempty, isName.ne_here, isName.ne_up]
      rw [List.foldl_cons, down, ih others, List.map_cons, List.append_assoc]
      rfl

/-! ## Canonical paths -/

namespace Path

namespace IsCanonical

variable {absolute : Bool} {ups : Nat} {names : List (List Char)} {trailing : Bool}

/-- Segments lead up as many places as there are steps up, and then down by the names. -/
theorem foldl_go (isCanonical : IsCanonical absolute ups names trailing) (here : Disk.Place) :
    (Text.split '/' (join (List.replicate ups ['.', '.'] ++ names))).foldl Disk.go here =
      here.take (here.length - ups) ++ names.map String.ofList := by
  have parts : (Text.split '/' (join (List.replicate ups ['.', '.'] ++ names))).foldl Disk.go here =
      (List.replicate ups ['.', '.'] ++ names).foldl Disk.go here := by
    by_cases nothing : List.replicate ups ['.', '.'] ++ names = []
    · rw [nothing]
      rfl
    · rw [split_join nothing isCanonical.parts_apart]
  rw [parts, List.foldl_append, Disk.foldl_go_ups, Disk.foldl_go_names isCanonical.areNames]

/-- Every step up takes two points. -/
theorem two_mul_ups_le (ups : Nat) (names : List (List Char)) :
    2 * ups ≤ (join (List.replicate ups ['.', '.'] ++ names)).length := by
  induction ups with
  | zero => exact Nat.zero_le _
  | succ ups ih =>
      rw [List.replicate_succ, List.cons_append]
      cases rest : List.replicate ups ['.', '.'] ++ names with
      | nil =>
          rw [rest] at ih
          simp only [join, List.intercalate_nil, List.length_nil] at ih
          simp only [join, List.intercalate_singleton, List.length_cons, List.length_nil]
          omega
      | cons part parts =>
          rw [rest] at ih
          simp only [join] at ih
          simp only [join, List.intercalate_cons_cons, List.length_append, List.length_cons,
            List.length_nil]
          omega

end IsCanonical

end Path

/-! ## Paths from a directory -/

namespace DiskStore

variable {store : DiskStore} {root : String}

/-- What stands before a path that leads on from another one. -/
def front (root : String) : List Char :=
  if root = "" then []
  else if root.toList.getLast? = some '/' then root.toList
  else root.toList ++ ['/']

theorem join_toList (root : String) {path : String} (relative : path.toList.head? ≠ some '/') :
    (join root path).toList = front root ++ path.toList := by
  unfold join front
  by_cases empty : root = ""
  · rw [if_pos (.inr empty), if_pos empty]
    rfl
  · have leadsOn : ¬ (path.toList.head? = some '/' ∨ root = "") := by simp [relative, empty]
    rw [if_neg leadsOn, if_neg empty]
    split <;> simp

/-- The place where paths begin that lead on from a path. -/
def origin (store : DiskStore) (root : String) : Disk.Place :=
  (Text.split '/' root.toList).foldl Disk.go
    (if root.toList.head? = some '/' then [] else store.workingDirectory)

theorem foldl_go_front (root : String) (path : List Char) (here : Disk.Place) :
    (Text.split '/' (front root ++ path)).foldl Disk.go here =
      (Text.split '/' path).foldl Disk.go ((Text.split '/' root.toList).foldl Disk.go here) := by
  unfold front
  split
  · subst root
    rfl
  split
  · rename_i closed
    obtain ⟨before, same⟩ := List.getLast?_eq_some_iff.mp closed
    rw [same, List.append_assoc, List.singleton_append, Text.split_append_cons,
      Text.split_append_cons, List.foldl_append, List.foldl_append]
    rfl
  · rw [List.append_assoc, List.singleton_append, Text.split_append_cons, List.foldl_append]

theorem head?_front (root : String) {path : List Char} (relative : path.head? ≠ some '/') :
    (front root ++ path).head? = some '/' ↔ root.toList.head? = some '/' := by
  unfold front
  by_cases empty : root = ""
  · subst root
    simpa using relative
  · have nonempty : root.toList ≠ [] := by simpa using empty
    rw [if_neg empty]
    split
    · rw [List.head?_append_of_ne_nil _ nonempty]
    · rw [List.append_assoc, List.head?_append_of_ne_nil _ nonempty]

theorem length_le_utf8ByteSize (s : String) : s.toList.length ≤ s.utf8ByteSize := by
  rw [← String.ofList_toList (s := s), String.utf8ByteSize_ofList, String.toList_ofList]
  induction s.toList with
  | nil => exact Nat.zero_le _
  | cons c s ih =>
      have positive := c.utf8Size_pos
      rw [List.length_cons, String.utf8Len_cons]
      omega

/-- A path that leads to a place is short enough, and followed by its segments. -/
theorem follow_of_locate {path : String} {place : Disk.Place} {node : Disk}
    (located : store.locate path = .ok (.leads place node)) :
    path.utf8ByteSize < Disk.pathLimit ∧
      store.disk.follow (if path.toList.head? = some '/' then [] else store.workingDirectory)
        (Text.split '/' path.toList) = .ok (.leads place node) := by
  have located := mapError_eq_ok.mp located
  rw [Disk.locate] at located
  split at located
  · cases located
  split at located
  · cases located
  · exact ⟨by omega, located⟩

/-- Where a path leads on from another one, and that it leads to a directory if it ends in a
separator. -/
theorem locate_eq_leads {path : String} {place : Disk.Place} {node : Disk}
    (relative : path.toList.head? ≠ some '/')
    (located : store.locate (join root path) = .ok (.leads place node)) :
    path.toList.length < Disk.pathLimit ∧
      place = (Text.split '/' path.toList).foldl Disk.go (store.origin root) ∧
      store.disk.find [] place = .ok (some node) ∧
      (path.toList.getLast? = some '/' → ∃ entries, node = .directory entries) := by
  obtain ⟨short, located⟩ := follow_of_locate located
  rw [join_toList root relative] at located
  have here : (if (front root ++ path.toList).head? = some '/' then [] else
      store.workingDirectory) =
        if root.toList.head? = some '/' then [] else store.workingDirectory :=
    if_congr (head?_front root relative) rfl rfl
  rw [here] at located
  obtain ⟨same, found⟩ := Disk.follow_eq_leads located
  refine ⟨?_, ?_, found, fun closed => ?_⟩
  · have bytes := length_le_utf8ByteSize (join root path)
    rw [join_toList root relative, List.length_append] at bytes
    omega
  · rw [same, foldl_go_front]
    rfl
  · obtain ⟨before, same⟩ := List.getLast?_eq_some_iff.mp closed
    rw [same, ← List.append_assoc, Text.split_append_cons] at located
    exact Disk.follow_append_nil located

/-- A text that is read is that of a file to which one of the candidates leads. -/
theorem exists_of_readFirst {paths : List String} {text : String}
    (found : store.readFirst paths = .ok text) :
    ∃ path ∈ paths, ∃ place content, store.locate path = .ok (.leads place (.file content)) := by
  induction paths with
  | nil => cases found
  | cons path paths ih =>
      rw [readFirst] at found
      obtain ⟨way, located, found⟩ := bind_eq_ok.mp found
      have later (found : store.readFirst paths = .ok text) :
          ∃ other ∈ path :: paths, ∃ place content,
            store.locate other = .ok (.leads place (.file content)) := by
        obtain ⟨other, member, leads⟩ := ih found
        exact ⟨other, List.mem_cons_of_mem _ member, leads⟩
      match way with
      | .leads place (.file content) =>
          exact ⟨path, List.mem_cons_self, place, content, located⟩
      | .leads _ .unexplored | .leads _ (.directory _) | .leads _ .other | .missing | .blocked
      | .tooLong => exact later found

/-! ## Spellings -/

/-- The marks and the paths with which paths that do not begin with a separator begin. -/
def starts (store : DiskStore) : List (List Char × String) :=
  ([], "") :: ([], store.root) :: store.virtualRoots.map fun root => (Path.virtualRoot, root)

/-- The marks and the paths with which paths that begin with a separator begin. -/
def tops (store : DiskStore) : List (List Char × String) :=
  ([], "/") :: store.virtualRoots.map fun root => (Path.virtualRoot, root)

/-- The canonical path to a place. -/
def spell (mark : List Char) (absolute : Bool) (start : Disk.Place) (ups : Nat)
    (place : Disk.Place) : String :=
  String.ofList (mark ++ Path.written absolute (List.replicate ups ['.', '.'] ++
    (place.drop (start.length - ups)).map String.toList) false)

/-- All canonical paths that may lead to a file. -/
def spellings (store : DiskStore) : List String :=
  (store.starts.flatMap fun start => (List.range (Disk.pathLimit / 2)).flatMap fun ups =>
    store.disk.ends.map (spell start.1 false (store.origin start.2) ups)) ++
  store.tops.flatMap fun top => store.disk.ends.map (spell top.1 true (store.origin top.2) 0)

theorem written_eq (absolute : Bool) (parts : List (List Char)) (trailing : Bool) :
    Path.written absolute parts trailing =
      (if absolute then ['/'] else []) ++ Path.written false parts trailing := by
  simp [Path.written]

section

variable {absolute : Bool} {ups : Nat} {names : List (List Char)} {trailing : Bool}

theorem behindMark_eq {path : String} (isCanonical : Path.IsCanonical absolute ups names trailing)
    (same : path.toList = Path.virtualRoot ++
      Path.written absolute (List.replicate ups ['.', '.'] ++ names) trailing) :
    behindMark path =
      String.ofList (Path.written false (List.replicate ups ['.', '.'] ++ names) trailing) := by
  have begins : (Path.written false (List.replicate ups ['.', '.'] ++ names) trailing).head? ≠
      some '/' := by
    simp [isCanonical.head?_written]
  have kept : (Path.written false (List.replicate ups ['.', '.'] ++ names) trailing).dropWhile
      (· = '/') = Path.written false (List.replicate ups ['.', '.'] ++ names) trailing := by
    generalize Path.written false (List.replicate ups ['.', '.'] ++ names) trailing = s at begins
    cases s with
    | nil => rfl
    | cons c s =>
        have other : c ≠ '/' := by simpa using begins
        simp [other]
  rw [behindMark, same, List.drop_left, written_eq]
  cases absolute with
  | false => exact congrArg String.ofList kept
  | true => exact congrArg String.ofList kept

/-- The candidates for a canonical path lead on from one of the paths with which it may begin. -/
theorem exists_start {path candidate : String}
    (isCanonical : Path.IsCanonical absolute ups names trailing)
    (same : path.toList = (if Path.isVirtual path then Path.virtualRoot else []) ++
      Path.written absolute (List.replicate ups ['.', '.'] ++ names) trailing)
    (member : candidate ∈ store.candidates path) :
    ∃ start ∈ if absolute then store.tops else store.starts,
      start.1 = (if Path.isVirtual path then Path.virtualRoot else []) ∧
      candidate = join start.2
        (String.ofList (Path.written false (List.replicate ups ['.', '.'] ++ names) trailing)) := by
  unfold candidates at member
  split at member
  · rename_i marked
    rw [if_pos marked] at same ⊢
    obtain ⟨root, isRoot, rfl⟩ := List.mem_map.mp member
    refine ⟨(Path.virtualRoot, root), ?_, rfl, by rw [behindMark_eq isCanonical same]⟩
    cases absolute with
    | false => exact .tail _ (.tail _ (List.mem_map.mpr ⟨root, isRoot, rfl⟩))
    | true => exact .tail _ (List.mem_map.mpr ⟨root, isRoot, rfl⟩)
  rename_i unmarked
  rw [if_neg unmarked, List.nil_append] at same
  rw [if_neg unmarked]
  cases absolute with
  | false =>
      have path_eq : path =
          String.ofList (Path.written false (List.replicate ups ['.', '.'] ++ names) trailing) := by
        rw [← same, String.ofList_toList]
      rw [← path_eq]
      split at member
      · obtain rfl := List.mem_singleton.mp member
        exact ⟨([], ""), .head _, rfl, by simp [join]⟩
      · obtain rfl := List.mem_singleton.mp member
        exact ⟨([], store.root), .tail _ (.head _), rfl, rfl⟩
  | true =>
      rw [written_eq] at same
      have isAbsolute : Path.isAbsolute path = true := by
        simp [Path.isAbsolute, same, Path.slashed]
      rw [if_pos isAbsolute] at member
      obtain rfl := List.mem_singleton.mp member
      refine ⟨([], "/"), .head _, rfl, String.toList_inj.mp ?_⟩
      rw [join_toList "/" (by simp [isCanonical.head?_written]), String.toList_ofList, same]
      rfl

/-- The names of a path are the end of the place to which it leads. -/
theorem spell_eq (mark : List Char) (absolute : Bool) (start : Disk.Place) (ups : Nat)
    (names : List (List Char)) :
    spell mark absolute start ups (start.take (start.length - ups) ++ names.map String.ofList) =
      String.ofList (mark ++
        Path.written absolute (List.replicate ups ['.', '.'] ++ names) false) := by
  have kept : (start.take (start.length - ups)).length = start.length - ups := by simp
  have same : (names.map String.ofList).map String.toList = names := by
    simp [Function.comp_def]
  rw [spell, List.drop_left' kept, same]

/-- Every canonical path that leads to a file is one of the spellings. -/
theorem mem_spellings {path text : String} (canonical : Path.normalize path = path)
    (found : store.read path = .ok text) : path ∈ store.spellings := by
  obtain ⟨absolute, ups, names, trailing, isCanonical, same⟩ := Path.exists_written canonical
  obtain ⟨candidate, member, place, content, located⟩ := exists_of_readFirst found
  obtain ⟨⟨mark, root⟩, isStart, isMark, rfl⟩ := exists_start isCanonical same member
  obtain ⟨short, leads, isFile, closed⟩ :=
    locate_eq_leads (by simp [isCanonical.head?_written]) located
  have isEnd := Disk.mem_ends isFile
  -- A path that ends in a separator does not lead to a file.
  cases trailing with
  | true =>
      obtain ⟨entries, impossible⟩ := closed (by simp [Path.written])
      cases impossible
  | false =>
      have rest : Path.written false (List.replicate ups ['.', '.'] ++ names) false =
          Path.join (List.replicate ups ['.', '.'] ++ names) := by
        simp [Path.written]
      rw [String.toList_ofList, rest] at short leads
      rw [isCanonical.foldl_go] at leads
      have few := Path.IsCanonical.two_mul_ups_le ups names
      have spelled : spell mark absolute (store.origin root) ups place = path := by
        rw [leads, spell_eq, ← String.ofList_toList (s := path), same, ← isMark]
      rw [spellings, List.mem_append]
      cases absolute with
      | false =>
          refine .inl (List.mem_flatMap.mpr ⟨(mark, root), isStart, ?_⟩)
          refine List.mem_flatMap.mpr ⟨ups, List.mem_range.mpr ?_, ?_⟩
          · rw [Disk.pathLimit] at short ⊢
            omega
          · exact List.mem_map.mpr ⟨place, isEnd, spelled⟩
      | true =>
          obtain rfl := isCanonical.atRoot rfl
          refine .inr (List.mem_flatMap.mpr ⟨(mark, root), isStart, ?_⟩)
          exact List.mem_map.mpr ⟨place, isEnd, spelled⟩

end

theorem length_spellings (store : DiskStore) :
    store.spellings.length =
      (store.virtualRoots.length + 2) * (Disk.pathLimit / 2 * store.disk.size) +
        (store.virtualRoots.length + 1) * store.disk.size := by
  simp [spellings, starts, tops, List.length_flatMap, Disk.length_ends, Function.comp_def]
  ring

/-- The bound of a store on a disk is a true one. -/
theorem isBounded (store : DiskStore) : store.toStore.IsBounded := by
  intro paths distinct known
  have inside : paths ⊆ store.spellings := by
    intro path member
    obtain ⟨canonical, text, found⟩ := known path member
    exact mem_spellings canonical found
  have le := (List.subperm_of_subset distinct inside).length_le
  rw [length_spellings] at le
  show paths.length + 2 ≤
    Disk.pathLimit * (store.virtualRoots.length + 2) * (store.disk.size + 1)
  have half : Disk.pathLimit / 2 = 2048 := rfl
  have limit : Disk.pathLimit = 4096 := rfl
  rw [half] at le
  rw [limit]
  nlinarith

end DiskStore

end Migration
