import Mathlib.Data.List.Forall2
import Migration.Proofs.Build.Bounded

/-!
# Stores with related files

Two stores whose files have the same paths and related texts list the same paths, and what is read
from the one is related to what is read from the other.
-/

namespace Migration

/-- Whether two stores have files at the same paths, whose texts are related. -/
structure Store.Relates (rel : String → String → Prop) (store other : Store) : Prop where
  depth : store.depth = other.depth
  list : store.list = other.list
  texts : ∀ path, Parallels rel (store.read path) (other.read path)

namespace Store.Relates

variable {rel : String → String → Prop} {store other : Store}

theorem text (relates : store.Relates rel other) (path : String) :
    Parallels rel (store.text path) (other.text path) :=
  (relates.texts path).mapError _

theorem isBounded (relates : store.Relates rel other) (bounded : store.IsBounded) :
    other.IsBounded := by
  refine bounded.of_read relates.depth fun path text read => ?_
  have related := relates.texts path
  rw [read] at related
  generalize store.read path = before at related
  cases related with
  | ok => exact ⟨_, rfl⟩

end Store.Relates

/-- Whether two files have the same path and related texts. -/
def FilesRelate (rel : String → String → Prop) (file other : String × String) : Prop :=
  file.1 = other.1 ∧ rel file.2 other.2

namespace MemoryStore

variable {rel : String → String → Prop}

theorem forall₂_insertEntry {path text other : String} (related : rel text other)
    {entries others : List (String × String)}
    (before : List.Forall₂ (FilesRelate rel) entries others) :
    List.Forall₂ (FilesRelate rel) (NameMap.insertEntry path text entries)
      (NameMap.insertEntry path other others) := by
  induction before with
  | nil => exact .cons ⟨rfl, related⟩ .nil
  | cons first rest ih =>
      rw [NameMap.insertEntry, NameMap.insertEntry, ← first.1]
      split
      · exact .cons ⟨rfl, related⟩ rest
      split
      · exact .cons first ih
      · exact .cons ⟨rfl, related⟩ (.cons first rest)

theorem forall₂_ofList {files others : List (String × String)}
    (related : List.Forall₂ (FilesRelate rel) files others) :
    List.Forall₂ (FilesRelate rel) (ofList files).contents.entries
      (ofList others).contents.entries := by
  have from' {store other : MemoryStore}
      (before : List.Forall₂ (FilesRelate rel) store.contents.entries other.contents.entries) :
      List.Forall₂ (FilesRelate rel)
        (files.foldl (fun store file => store.insert file.1 file.2) store).contents.entries
        (others.foldl (fun store file => store.insert file.1 file.2) other).contents.entries := by
    induction related generalizing store other with
    | nil => exact before
    | @cons file again files others first _ ih =>
        obtain ⟨path, text⟩ := file
        obtain ⟨_, other⟩ := again
        obtain ⟨rfl, related⟩ := first
        exact ih (forall₂_insertEntry related before)
  exact from' .nil

theorem paths_eq_of_forall₂ {entries others : List (String × String)}
    (related : List.Forall₂ (FilesRelate rel) entries others) :
    entries.map (·.1) = others.map (·.1) := by
  induction related with
  | nil => rfl
  | cons first _ ih => rw [List.map_cons, List.map_cons, first.1, ih]

theorem findEntry_forall₂ (path : String) {entries others : List (String × String)}
    (related : List.Forall₂ (FilesRelate rel) entries others) :
    Option.Rel rel (NameMap.findEntry path entries) (NameMap.findEntry path others) := by
  induction related with
  | nil => exact .none
  | cons first _ ih =>
      rw [NameMap.findEntry, NameMap.findEntry, ← first.1]
      split
      · exact .some first.2
      · exact ih

/-- Files in memory are related if each of them is. -/
theorem relates_ofList {files others : List (String × String)}
    (related : List.Forall₂ (FilesRelate rel) files others) :
    (ofList files).toStore.Relates rel (ofList others).toStore := by
  have entries := forall₂_ofList related
  refine ⟨congrArg (· + 2) entries.length_eq, ?_, fun path => ?_⟩
  · simp only [toStore, list, NameMap.keys, paths_eq_of_forall₂ entries]
  · have found := findEntry_forall₂ (Path.normalize path) entries
    simp only [toStore, read, NameMap.get?]
    generalize NameMap.findEntry _ (ofList files).contents.entries = first at found ⊢
    generalize NameMap.findEntry _ (ofList others).contents.entries = second at found ⊢
    cases found with
    | none => exact .error _
    | some related => exact .ok related

end MemoryStore

end Migration
