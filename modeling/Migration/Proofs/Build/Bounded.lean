import Migration.Proofs.Build.Memory

/-!
# Builds within the bound of the reader

The reader of included scripts gives up when more of them are open than its store allows for.  Where
the bound of the store is a true one, this never happens, and `build_runs_of_isBounded` says that
every build is a run.  The bound of files in memory is true, and so is that of files on a disk, by
`DiskStore.isBounded`.  Where the bound may be too low, a build that fails fails as its run does, or
says that there is a circle.
-/

namespace Migration

/-- Whether there are fewer different canonical paths of texts than the depth of a store says, with
one to spare for the root script and one for a script that is open already. -/
def Store.IsBounded (store : Store) : Prop :=
  ∀ paths : List String, paths.Nodup →
    (∀ path ∈ paths, Path.normalize path = path ∧ ∃ text, store.read path = .ok text) →
    paths.length + 2 ≤ store.depth

/-- The bound of a store is a true one for another store that can read no more paths. -/
theorem Store.IsBounded.of_read {store other : Store} (bounded : store.IsBounded)
    (depth : store.depth = other.depth)
    (known : ∀ path text, other.read path = .ok text → ∃ before, store.read path = .ok before) :
    other.IsBounded := by
  intro paths distinct isKnown
  rw [← depth]
  refine bounded paths distinct fun path member => ?_
  obtain ⟨canonical, text, read⟩ := isKnown path member
  exact ⟨canonical, known path text read⟩

theorem MemoryStore.isBounded (files : MemoryStore) : files.toStore.IsBounded := by
  intro paths distinct known
  have inside : paths ⊆ files.contents.keys := by
    intro path member
    obtain ⟨fixed, text, found⟩ := known path member
    simp only [toStore, read, fixed] at found
    split at found
    · rename_i content present
      exact NameMap.mem_keys_of_get? present
    · cases found
  have le : paths.length ≤ files.contents.keys.length :=
    (List.subperm_of_subset distinct inside).length_le
  have size : files.contents.keys.length = files.contents.size := List.length_map _
  show paths.length + 2 ≤ files.contents.size + 2
  omega

namespace Changelog

variable {host : Host}

/-- Open files as they can be in a build: each is open once, and all but the first are canonical
paths of texts. -/
structure CanBeOpen (store : Store) (opened : List String) : Prop where
  distinct : opened.Nodup
  known : ∀ path ∈ opened.tail, Path.normalize path = path ∧ ∃ text, store.read path = .ok text

theorem CanBeOpen.append {store : Store} {opened : List String} (canBeOpen : CanBeOpen store opened)
    {path : String} (fresh : path ∉ opened) (canonical : Path.normalize path = path)
    (readable : ∃ text, store.read path = .ok text) : CanBeOpen store (opened ++ [path]) := by
  refine ⟨?_, ?_⟩
  · have apart : ∀ other ∈ opened, ∀ last ∈ [path], other ≠ last := by
      rintro other inside last isPath rfl
      exact fresh (List.mem_singleton.mp isPath ▸ inside)
    exact List.nodup_append.mpr ⟨canBeOpen.distinct, by simp, apart⟩
  · intro other member
    cases opened with
    | nil => cases member
    | cons first rest =>
        rcases List.mem_append.mp member with before | last
        · exact canBeOpen.known other before
        · exact List.mem_singleton.mp last ▸ ⟨canonical, readable⟩

theorem readable_of_readScript {path : String} {script : Script}
    (read : readScript host path none = .ok script) : ∃ text, host.store.read path = .ok text := by
  obtain ⟨text, found, -⟩ := bind_eq_ok.mp read
  exact ⟨text, mapError_eq_ok.mp found⟩

/-- Included scripts are read as their runs say where the bound of the store is a true one. -/
theorem faithful_of_isBounded (bounded : host.store.IsBounded) (root : String) :
    Faithful host (fun _ => False) [root] (load host host.store.depth) := by
  refine faithful_load (fun depth opened => CanBeOpen host.store opened ∧ opened ≠ [] ∧
    host.store.depth ≤ depth + opened.length) ?_ ?_ _ [root]
    ⟨⟨by simp, by simp⟩, by simp, Nat.le_add_right _ _⟩
  · rintro opened path ⟨canBeOpen, nonempty, enough⟩
    have le := bounded opened.tail (canBeOpen.distinct.sublist (List.tail_sublist opened))
      canBeOpen.known
    have positive := List.length_pos_iff.mpr nonempty
    rw [List.length_tail] at le
    omega
  · rintro depth opened target ⟨canBeOpen, -, enough⟩ normalized fresh ⟨script, read⟩
    refine ⟨canBeOpen.append (not_mem_of_fresh fresh) normalized.fixed
      (readable_of_readScript read), by simp, ?_⟩
    simp only [List.length_append, List.length_singleton]
    omega

/-- Every build is a run where the bound of the store is a true one. -/
theorem build_runs_of_isBounded (bounded : host.store.IsBounded) (path : String)
    (source : Option String) (arguments : List (String × Value)) :
    ∃ result last, Runs host (.file path source arguments) (startSession host) result last ∧
      build host path source arguments = result.map (finish last) := by
  have answers : Answers host (fun _ => False) path source arguments (startSession host)
      (buildScript host (load host host.store.depth) path source arguments (startSession host)) :=
    answers_buildScript fun _ _ => faithful_of_isBounded bounded _
  rcases answers.runs with run | ⟨_, _, impossible⟩
  · exact ⟨_, _, run, build_eq host path source arguments⟩
  · cases impossible

/-- A build that fails for another reason than a circle is a run, whatever the bound is. -/
theorem runs_of_build_eq_error {path : String} {source : Option String}
    {arguments : List (String × Value)} {error : BuildError}
    (built : build host path source arguments = .error error)
    (other : ∀ target chain, error ≠ .circularInclude target chain) :
    ∃ last, Runs host (.file path source arguments) (startSession host) (.error error) last := by
  have answers : Answers host (fun error => ∃ target chain, error = .circularInclude target chain)
      path source arguments (startSession host)
      (buildScript host (load host host.store.depth) path source arguments (startSession host)) :=
    answers_buildScript fun _ _ => faithful_load (fun _ _ => True)
      (fun _ _ _ => ⟨_, _, rfl⟩) (fun _ _ _ _ _ _ _ => trivial) host.store.depth _ trivial
  rw [build_eq] at built
  rcases ran : buildScript host (load host host.store.depth) path source arguments
    (startSession host) with ⟨result, last⟩
  rw [ran] at answers built
  cases result with
  | ok final => cases built
  | error cause =>
      cases built
      rcases answers.runs with run | ⟨_, same, target, chain, rfl⟩
      · exact ⟨last, run⟩
      · exact absurd (Except.error.inj same) (other target chain)

end Changelog

end Migration
