import Migration.Proofs.Listing.Order

/-!
# Files in memory

A directory of a store in memory is listed by the canonical paths in it.  What is listed can be read
where that path is canonical for good: it is put in canonical form once more, and then it may name
another file or none.
-/

namespace Migration.MemoryStore

/-- The files that are put into a store, by their canonical paths. -/
def keyed (files : List (String × String)) : List (String × String) :=
  files.map fun file => (Path.normalize file.1, file.2)

/-- Whether a path is the canonical one of a file in a directory: the canonical text of the directory
stands in front of it, and behind that is something, which holds no separator if the file must
lie directly in the directory. -/
def IsFileIn (files : List (String × String)) (directory : String) (recursive : Bool)
    (path : String) : Prop :=
  path ∈ (keyed files).map (·.1) ∧
    ∃ rest, path = Path.asDirectory directory ++ rest ∧ rest ≠ "" ∧
      (recursive = true ∨ '/' ∉ rest.toList)

variable {files : List (String × String)} {directory path content : String} {recursive : Bool}

/-- What is read is the content of the last file that was put at the canonical path. -/
theorem read_eq_ok_iff :
    (ofList files).read path = .ok content ↔
      NameMap.IsLast (keyed files) (Path.normalize path) content := by
  have stored : (ofList files).contents = NameMap.ofList (keyed files) := by
    rw [ofList_eq, keyed]
  rw [← NameMap.get?_ofList, read, stored]
  cases (NameMap.ofList (keyed files)).get? (Path.normalize path) <;> simp

theorem isBelow_eq_true_iff {place : String} :
    isBelow place.toList recursive path.toList = true ↔
      ∃ rest, path = place ++ rest ∧ rest ≠ "" ∧ (recursive = true ∨ '/' ∉ rest.toList) := by
  rw [isBelow, Bool.and_eq_true, List.isPrefixOf_iff_prefix]
  constructor
  · rintro ⟨⟨rest, same⟩, further⟩
    refine ⟨String.ofList rest, ?_, ?_⟩
    · rw [← String.toList_inj, String.toList_append, String.toList_ofList, same]
    · rw [← same, List.drop_left] at further
      simpa using further
  · rintro ⟨rest, rfl, further⟩
    rw [String.toList_append, List.drop_left]
    exact ⟨List.prefix_append _ _, by simpa using further⟩

/-- A directory is listed by the files in it, each of them once and in the order of their texts. -/
theorem isListing_list (files : List (String × String)) (directory : String) (recursive : Bool) :
    Listing.IsListing none (IsFileIn files directory recursive)
      ((ofList files).list directory recursive) := by
  have ascends : ((ofList files).list directory recursive).Pairwise (· < ·) := by
    rw [list, ofList_eq]
    exact (NameMap.ascends_ofList _).filter _
  refine ⟨ascends.imp fun less => String.ne_of_lt less, fun path => ?_, ascends⟩
  rw [list, ofList_eq, List.mem_filter, isBelow_eq_true_iff, NameMap.mem_keys_ofList_iff]
  rfl

/-- A directory is listed by the files in it, each of them once and in the order of their texts.  A
file that is listed can be read under the path that is listed, with the last content that was put
there, exactly if that is also the last content that was put at the canonical form of the path.  So
all files can be read if the canonical forms of their paths are canonical for good. -/
theorem list_read_iff (files : List (String × String)) (directory : String) (recursive : Bool) :
    Listing.IsListing none (IsFileIn files directory recursive)
      ((ofList files).list directory recursive) ∧
    (∀ path ∈ (ofList files).list directory recursive,
      (∃ content, NameMap.IsLast (keyed files) path content) ∧
      ∀ content, NameMap.IsLast (keyed files) path content →
        ((ofList files).read path = .ok content ↔
          NameMap.IsLast (keyed files) (Path.normalize path) content)) ∧
    ((∀ file ∈ files,
        Path.normalize (Path.normalize file.1) = Path.normalize file.1) →
      ∀ path ∈ (ofList files).list directory recursive,
        ∀ content, NameMap.IsLast (keyed files) path content →
          (ofList files).read path = .ok content) := by
  have isListing := isListing_list files directory recursive
  refine ⟨isListing, fun path listed => ⟨?_, fun content _ => read_eq_ok_iff⟩, ?_⟩
  · exact NameMap.exists_isLast ((isListing.complete path).mp listed).1
  · intro fixed path listed content isLast
    have isKey := ((isListing.complete path).mp listed).1
    rw [keyed, List.map_map] at isKey
    obtain ⟨file, isFile, rfl⟩ := List.mem_map.mp isKey
    rw [read_eq_ok_iff]
    simpa only [Function.comp_apply, fixed file isFile] using isLast

/-- Files of which one is read in place of another that has its content. -/
def sharedFiles : List (String × String) :=
  [("db\\a.qcl", "1"), ("./classpath:./x", "2"), ("db/./a.qcl", "3"), ("classpath:x", "2")]

/-- A path that is no more canonical when it is read, and one that was put twice. -/
theorem list_read_sharedFiles :
    "classpath:./x" ∈ (ofList sharedFiles).list "." true ∧
    NameMap.IsLast (keyed sharedFiles) "classpath:./x" "2" ∧
    NameMap.IsLast (keyed sharedFiles) (Path.normalize "classpath:./x") "2" ∧
    (ofList sharedFiles).read "classpath:./x" = .ok "2" ∧
    "db/a.qcl" ∈ (ofList [("db\\a.qcl", "1"), ("db/./a.qcl", "3")]).list "db/x/.." false ∧
    (ofList [("db\\a.qcl", "1"), ("db/./a.qcl", "3")]).read "db/a.qcl" = .ok "3" := by
  have keys : keyed sharedFiles =
      [("db/a.qcl", "1"), ("classpath:./x", "2"), ("db/a.qcl", "3"), ("classpath:x", "2")] := by
    decide
  have listed : "classpath:./x" ∈ (ofList sharedFiles).list "." true := by decide
  have isLast : NameMap.IsLast (keyed sharedFiles) "classpath:./x" "2" :=
    ⟨[("db/a.qcl", "1")], [("db/a.qcl", "3"), ("classpath:x", "2")], keys, by decide⟩
  have again : NameMap.IsLast (keyed sharedFiles) (Path.normalize "classpath:./x") "2" :=
    ⟨[("db/a.qcl", "1"), ("classpath:./x", "2"), ("db/a.qcl", "3")], [], keys.trans (by decide),
      by decide⟩
  have listed' : "db/a.qcl" ∈
      (ofList [("db\\a.qcl", "1"), ("db/./a.qcl", "3")]).list "db/x/.." false := by decide
  exact ⟨listed, isLast, again,
    (((list_read_iff sharedFiles "." true).2.1 _ listed).2 _ isLast).mpr again, listed',
    (list_read_iff _ _ _).2.2 (by decide) _ listed' "3" ⟨[("db/a.qcl", "1")], [], by decide,
      by decide⟩⟩

/-- A file at a path that hides the mark of the virtual root is listed and cannot be read. -/
theorem not_list_read :
    ¬ ∀ (files : List (String × String)) (directory : String) (recursive : Bool),
      ∀ path ∈ (ofList files).list directory recursive,
        ∀ content, NameMap.IsLast (keyed files) path content →
          (ofList files).read path = .ok content := by
  intro claimed
  have isLast : NameMap.IsLast (keyed [("./classpath:./a", "x")]) "classpath:./a" "x" :=
    ⟨[], [], by decide, by simp⟩
  have found := claimed [("./classpath:./a", "x")] "" true "classpath:./a" (by decide) "x" isLast
  rw [read_eq_ok_iff] at found
  obtain ⟨before, after, same, -⟩ := found
  have known : (Path.normalize "classpath:./a", "x") ∈ keyed [("./classpath:./a", "x")] :=
    same ▸ by simp
  exact absurd known (by decide)

end Migration.MemoryStore
