import Mathlib.Data.List.Perm.Basic
import Migration.Proofs.Build.Run
import Migration.Proofs.NameMap
import Migration.Proofs.Path.Canonical

/-!
# Builds from files in memory

A file that an inclusion names is a file of the store under that very name, so no more files are
open at a time than the store has, and the root.  The reader's bound is therefore never reached, and
`build_runs` says that every build is a run.
-/

namespace Migration

/-- A host whose files are in memory. -/
def Host.ofMemory (configuration : Configuration) (catalog : Catalog) (files : MemoryStore)
    (isPattern : String → Bool := Pattern.isWellFormed) : Host :=
  { configuration, catalog, isPattern, store := files.toStore }

namespace Changelog

variable {configuration : Configuration} {catalog : Catalog} {files : MemoryStore}
  {isPattern : String → Bool}

theorem IsNormalized.fixed {path : String} (normalized : IsNormalized path) :
    Path.normalize (Path.normalize path) = Path.normalize path := by
  obtain ⟨raw, rfl⟩ := normalized
  exact Path.normalize_normalize_normalize raw

/-- An included script that can be read is a file of the store under its canonical path. -/
theorem mem_keys_of_readScript {target : String} {script : Script}
    (normalized : IsNormalized target)
    (read : readScript (.ofMemory configuration catalog files isPattern) (Path.normalize target)
      none = .ok script) :
    Path.normalize target ∈ files.contents.keys := by
  simp only [readScript] at read
  obtain ⟨text, found, -⟩ := bind_eq_ok.mp read
  simp only [Store.text, Host.ofMemory, MemoryStore.toStore, MemoryStore.read,
    normalized.fixed] at found
  split at found
  · rename_i content present
    exact NameMap.mem_keys_of_get? present
  · cases found

/-- Open files as they can be in a build: each is open once, and all but the first are files of
the store. -/
structure AreOpen (files : MemoryStore) (opened : List String) : Prop where
  distinct : opened.Nodup
  known : ∀ path ∈ opened.tail, path ∈ files.contents.keys

namespace AreOpen

variable {opened : List String}

theorem nil : AreOpen files [] :=
  ⟨List.nodup_nil, by simp⟩

/-- No more files are open than there are, and the root. -/
theorem length_le (areOpen : AreOpen files opened) :
    opened.length ≤ files.contents.size + 1 := by
  have distinct : opened.tail.Nodup := areOpen.distinct.sublist (List.tail_sublist opened)
  have le : opened.tail.length ≤ files.contents.keys.length :=
    (List.subperm_of_subset distinct areOpen.known).length_le
  have size : files.contents.keys.length = files.contents.size := List.length_map _
  rw [List.length_tail] at le
  omega

/-- A path that is not open can be opened: as the first one, or if it is a file of the store. -/
theorem append (areOpen : AreOpen files opened) {path : String} (fresh : path ∉ opened)
    (known : opened ≠ [] → path ∈ files.contents.keys) : AreOpen files (opened ++ [path]) := by
  refine ⟨?_, ?_⟩
  · rw [List.nodup_append]
    refine ⟨areOpen.distinct, by simp, ?_⟩
    intro a inside b isPath same
    obtain rfl := List.mem_singleton.mp isPath
    exact fresh (same ▸ inside)
  · intro other member
    cases opened with
    | nil => cases member
    | cons first rest =>
        rcases List.mem_append.mp member with before | last
        · exact areOpen.known other before
        · exact List.mem_singleton.mp last ▸ known (by simp)

theorem dropLast (areOpen : AreOpen files opened) : AreOpen files opened.dropLast := by
  refine ⟨areOpen.distinct.sublist (List.dropLast_sublist opened), ?_⟩
  intro path member
  rw [List.tail_dropLast] at member
  exact areOpen.known path (List.dropLast_subset _ member)

end AreOpen

/-- A path that no open path is the same as is not among them. -/
theorem not_mem_of_fresh {opened : List String} {path : String}
    (fresh : opened.any (Path.same · path) = false) : path ∉ opened := by
  intro member
  have same := List.any_eq_false.mp fresh path member
  exact same (Path.same_refl path)

/-- While some files are open, included scripts are read as their runs say. -/
theorem faithful_memory {opened : List String} (areOpen : AreOpen files opened)
    (nonempty : opened ≠ []) :
    Faithful (.ofMemory configuration catalog files isPattern) (fun _ => False) opened
      (load (.ofMemory configuration catalog files isPattern) (files.contents.size + 2)) := by
  refine faithful_load (fun depth opened => AreOpen files opened ∧ opened ≠ [] ∧
    files.contents.size + 1 < depth + opened.length) ?_ ?_ _ opened ⟨areOpen, nonempty, by omega⟩
  · rintro opened path ⟨areOpen, -, enough⟩
    have le := areOpen.length_le
    omega
  · rintro depth opened target ⟨areOpen, -, enough⟩ normalized fresh ⟨script, read⟩
    refine ⟨areOpen.append (not_mem_of_fresh fresh) fun _ => ?_, by simp, ?_⟩
    · exact mem_keys_of_readScript normalized read
    · simp only [List.length_append, List.length_cons, List.length_nil]
      omega

/-- Every script has a run, whatever files of the store are open: it may be the root script, or it
is an included one. -/
theorem runs_file (configuration : Configuration) (catalog : Catalog)
    (isPattern : String → Bool) {path : String} {source : Option String}
    (arguments : List (String × Value)) {session : Session}
    (areOpen : AreOpen files session.openFiles)
    (included : session.openFiles ≠ [] → source = none ∧ IsNormalized path) :
    ∃ result last, Runs (.ofMemory configuration catalog files isPattern)
        (.file path source arguments) session result last ∧
      buildScript (.ofMemory configuration catalog files isPattern)
        (load (.ofMemory configuration catalog files isPattern) (files.contents.size + 2)) path
        source arguments session = (result, last) := by
  have answers : Answers (.ofMemory configuration catalog files isPattern) (fun _ => False) path
      source arguments session
      (buildScript (.ofMemory configuration catalog files isPattern)
        (load (.ofMemory configuration catalog files isPattern) (files.contents.size + 2)) path
        source arguments session) := by
    refine answers_buildScript ?_
    rintro fresh ⟨script, read⟩
    refine faithful_memory (areOpen.append (not_mem_of_fresh fresh) fun open' => ?_) (by simp)
    obtain ⟨rfl, normalized⟩ := included open'
    exact mem_keys_of_readScript normalized read
  rcases answers.runs with run | ⟨_, _, impossible⟩
  · exact ⟨_, _, run, rfl⟩
  · cases impossible

/-- Every build is a run. -/
theorem build_runs (configuration : Configuration) (catalog : Catalog) (files : MemoryStore)
    (isPattern : String → Bool) (path : String) (source : Option String)
    (arguments : List (String × Value)) :
    ∃ result last,
      Runs (.ofMemory configuration catalog files isPattern) (.file path source arguments)
        (startSession (.ofMemory configuration catalog files isPattern)) result last ∧
      build (.ofMemory configuration catalog files isPattern) path source arguments =
        result.map (finish last) := by
  have noneOpen : (startSession (.ofMemory configuration catalog files isPattern)).openFiles = [] :=
    rfl
  obtain ⟨result, last, run, built⟩ := runs_file configuration catalog isPattern arguments
    (noneOpen ▸ AreOpen.nil) fun impossible => absurd noneOpen impossible
  refine ⟨result, last, run, ?_⟩
  rw [build_eq]
  exact congrArg (fun outcome => outcome.1.map (finish outcome.2)) built

end Changelog

end Migration
