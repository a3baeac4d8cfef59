import Migration.Proofs.Build.Walk
import Migration.Proofs.Precondition

/-!
# Preconditions in document order

The preconditions of a changelog are made of the blocks that it declares and of the preconditions of
the changelogs that it includes.  The main statement, `preconditions_in_document_order`, says that
no check is lost or moved, and that each block stands in a container of its own.
-/

namespace Migration.Changelog

/-! ## Where preconditions come from -/

/-- Preconditions that a changelog comes by. -/
inductive Guard where
  /-- A block of its own. -/
  | own (block : PreconditionContainer)
  /-- The preconditions of an included changelog. -/
  | included (container : PreconditionContainer)

namespace Guard

def container : Guard → PreconditionContainer
  | .own block => block
  | .included container => container

/-- Whether included preconditions are there before the first ones of a changelog's own. -/
def includedFirst : List Guard → Bool
  | .included _ :: _ => true
  | _ => false

/-- The preconditions of a changelog that comes by some guards.  The first block holds the others,
and where included preconditions are there before, a container is made that holds all of them. -/
def assemble : List Guard → Option PreconditionContainer
  | [] => none
  | .own block :: guards => some (block.extend (guards.map container))
  | .included first :: guards => some (.extend {} (first :: guards.map container))

/-- What is read off the containers one after the other is read off what they make up. -/
theorem flatMap_assemble {α : Type} {f : PreconditionContainer → List α}
    (extends' : ∀ container parts, f (container.extend parts) = f container ++ parts.flatMap f)
    (guards : List Guard) :
    (assemble guards).toList.flatMap f =
      (if includedFirst guards then f {} else []) ++
        guards.flatMap fun guard => f guard.container := by
  cases guards with
  | nil => rfl
  | cons first guards =>
      cases first with
      | own block => simp [assemble, includedFirst, extends', List.flatMap_map, container]
      | included other => simp [assemble, includedFirst, extends', List.flatMap_map, container]

end Guard

/-- Where a container in the preconditions of a changelog comes from. -/
inductive Origin where
  | declared (block : PreconditionContainer)
  /-- It is made because included preconditions are there before the first ones of a changelog's
  own. -/
  | made

namespace Origin

/-- The container, without those that are put into it. -/
def container : Origin → PreconditionContainer
  | .declared block => block
  | .made => {}

def block? : Origin → Option PreconditionContainer
  | .declared block => some block
  | .made => none

end Origin

namespace Walk

/-- The declared blocks of preconditions of changelogs in document order. -/
def blocks : Walk → List PreconditionContainer
  | .done => []
  | .changeset _ _ rest => rest.blocks
  | .properties _ rest => rest.blocks
  | .preconditions block rest => block :: rest.blocks
  | .file _ inside rest => inside.blocks ++ rest.blocks

/-- The guards of the outermost changelog in document order. -/
def guards : Walk → List Guard
  | .done => []
  | .changeset _ _ rest => rest.guards
  | .properties _ rest => rest.guards
  | .preconditions block rest => .own block :: rest.guards
  | .file _ inside rest => (Guard.assemble inside.guards).toList.map .included ++ rest.guards

/-- Where the containers come from that are put together for the outermost changelog. -/
def parts : Walk → List Origin
  | .done => []
  | .changeset _ _ rest => rest.parts
  | .properties _ rest => rest.parts
  | .preconditions block rest => .declared block :: rest.parts
  | .file _ inside rest =>
      (if Guard.includedFirst inside.guards then [.made] else []) ++ inside.parts ++ rest.parts

/-- Where the containers come from that make up the preconditions of the outermost changelog, from
left to right, each before those inside it. -/
def origins (walk : Walk) : List Origin :=
  (if Guard.includedFirst walk.guards then [.made] else []) ++ walk.parts

theorem block?_made (included : Bool) :
    (if included then [Origin.made] else []).filterMap Origin.block? = [] := by
  cases included <;> rfl

/-- The blocks are all there, once each and in order. -/
theorem block?_parts (walk : Walk) : walk.parts.filterMap Origin.block? = walk.blocks := by
  induction walk with
  | done => rfl
  | changeset _ _ rest ih => exact ih
  | properties _ rest ih => exact ih
  | preconditions block rest ih => exact congrArg (block :: ·) ih
  | file passage inside rest ihInside ihRest =>
      rw [parts, blocks, List.filterMap_append, List.filterMap_append, block?_made, ihInside,
        ihRest, List.nil_append]

theorem block?_origins (walk : Walk) : walk.origins.filterMap Origin.block? = walk.blocks := by
  rw [origins, List.filterMap_append, block?_made, block?_parts, List.nil_append]

/-- The checks of what is put together are those of the declared blocks. -/
theorem checks_assemble (walk : Walk) :
    (Guard.assemble walk.guards).toList.flatMap (·.checks) = walk.blocks.flatMap (·.checks) := by
  have nothing : ({} : PreconditionContainer).checks = [] := by
    rw [PreconditionContainer.checks, Precondition.checksOf]
  have assembled (guards : List Guard) : (Guard.assemble guards).toList.flatMap (·.checks) =
      guards.flatMap fun guard => guard.container.checks := by
    rw [Guard.flatMap_assemble PreconditionContainer.checks_extend, nothing, ite_self,
      List.nil_append]
  rw [assembled]
  induction walk with
  | done => rfl
  | changeset _ _ rest ih => exact ih
  | properties _ rest ih => exact ih
  | preconditions block rest ih => exact congrArg (block.checks ++ ·) ih
  | file passage inside rest ihInside ihRest =>
      rw [guards, blocks, List.flatMap_append, List.flatMap_append, ihRest, List.flatMap_map]
      exact congrArg (· ++ _) ((assembled inside.guards).trans ihInside)

/-- The containers of what is put together are those of the declared blocks, which have no other
containers inside, and those that are made. -/
theorem containers_assemble (walk : Walk)
    (written : ∀ block ∈ walk.blocks, block.containers.map (·.own) = [block]) :
    ((Guard.assemble walk.guards).toList.flatMap fun container =>
      container.containers.map (·.own)) = walk.origins.map Origin.container := by
  have assembled (guards : List Guard) (parts : List Origin)
      (same : (guards.flatMap fun guard => guard.container.containers.map (·.own)) =
        parts.map Origin.container) :
      ((Guard.assemble guards).toList.flatMap fun container => container.containers.map (·.own)) =
        ((if Guard.includedFirst guards then [Origin.made] else []) ++ parts).map
          Origin.container := by
    rw [@Guard.flatMap_assemble _ (fun container => container.containers.map (·.own))
      PreconditionContainer.own_containers_extend, same, List.map_append]
    split
    · rw [PreconditionContainer.containers, Precondition.containersOf]
      rfl
    · rfl
  refine assembled _ _ ?_
  induction walk with
  | done => rfl
  | changeset _ _ rest ih => exact ih written
  | properties _ rest ih => exact ih written
  | preconditions block rest ih =>
      obtain ⟨here, later⟩ := List.forall_mem_cons.mp written
      rw [guards, parts, List.flatMap_cons, ih later]
      exact congrArg (· ++ _) here
  | file passage inside rest ihInside ihRest =>
      obtain ⟨front, back⟩ := List.forall_mem_append.mp written
      rw [guards, parts, List.flatMap_append, List.map_append, ihRest back, List.flatMap_map]
      exact congrArg (· ++ _) (assembled inside.guards inside.parts (ihInside front))

end Walk

/-! ## Walks -/

variable {host : Host} {log final : Changelog} {tasks : List Task} {table last : PropertyTable}
  {walk : Walk}

/-- Preconditions to which some guards are added. -/
def withGuards (existing : Option PreconditionContainer) (guards : List Guard) :
    Option PreconditionContainer :=
  match existing with
  | some container => some (container.extend (guards.map Guard.container))
  | none => Guard.assemble guards

theorem withGuards_nil (existing : Option PreconditionContainer) :
    withGuards existing [] = existing := by
  cases existing with
  | none => rfl
  | some container => simp [withGuards, PreconditionContainer.extend]

theorem withGuards_addPreconditions (log : Changelog) (block : PreconditionContainer)
    (guards : List Guard) :
    withGuards (log.addPreconditions block).preconditions guards =
      withGuards log.preconditions (.own block :: guards) := by
  unfold addPreconditions
  cases log.preconditions with
  | none => rfl
  | some existing =>
      simp [withGuards, PreconditionContainer.add_eq_extend, PreconditionContainer.extend_extend,
        Guard.container]

theorem withGuards_foldPreconditions (existing included : Option PreconditionContainer)
    (guards : List Guard) :
    withGuards (foldPreconditions existing included) guards =
      withGuards existing (included.toList.map .included ++ guards) := by
  cases included with
  | none => rfl
  | some container =>
      cases existing <;>
        simp [foldPreconditions, withGuards, Guard.assemble, Guard.container,
          PreconditionContainer.add_eq_extend, PreconditionContainer.extend_extend]

/-- The preconditions of a changelog are put together from the guards of its walk. -/
theorem preconditions_of_walks (walks : Walks host log tasks table walk final last) :
    final.preconditions = withGuards log.preconditions walk.guards := by
  induction walks with
  | done => exact (withGuards_nil _).symm
  | root named given taken _ ih =>
      obtain ⟨_, _, _, rfl⟩ := takeArguments_eq_ok taken
      exact ih
  | changeset named built _ ih => exact ih
  | properties | inclusion | inclusions => assumption
  | preconditions named found _ ih => exact ih.trans (withGuards_addPreconditions _ _ _)
  | file isScript read _ _ ihInside ihRest =>
      rw [ihRest, splice, withGuards_foldPreconditions, ihInside]
      rfl

/-- The blocks of a walk are what elements write. -/
theorem isWritten_of_walks (walks : Walks host log tasks table walk final last) :
    ∀ block ∈ walk.blocks, ∃ site e, e.name = "preConditions" ∧ block.IsWritten host site e := by
  induction walks with
  | done => exact List.forall_mem_nil _
  | root | changeset | properties | inclusion | inclusions => assumption
  | preconditions named found _ ih =>
      exact List.forall_mem_cons.mpr
        ⟨⟨_, _, named, PreconditionContainer.isWritten_ofElement found⟩, ih⟩
  | file isScript read _ _ ihInside ihRest =>
      exact List.forall_mem_append.mpr ⟨ihInside, ihRest⟩

/-! ## The theorem -/

/-- The single checks of a changelog's preconditions are those of the blocks in all scripts that are
read, in document order.  Each block is what its element writes, and stands in one container, with
its own policy.  Any other container has the default policy, and holds together what is included
before the first block of a changelog and what follows it. -/
theorem preconditions_in_document_order {host : Host} {path : String} {source : Option String}
    {arguments : List (String × Value)} {log : Changelog}
    (built : build host path source arguments = .ok log) :
    (∀ site e block, PreconditionContainer.ofElement host site e = .ok block →
      block.IsWritten host site e) ∧
    ∃ walk, IsWalk host path source arguments walk ∧
      log.preconditions = Guard.assemble walk.guards ∧
      log.preconditions.toList.flatMap (·.checks) = walk.blocks.flatMap (·.checks) ∧
      (log.preconditions.toList.flatMap (·.containers)).map (·.own) =
        walk.origins.map Origin.container ∧
      walk.origins.filterMap Origin.block? = walk.blocks := by
  refine ⟨fun _ _ _ => PreconditionContainer.isWritten_ofElement, ?_⟩
  obtain ⟨final, last, run, rfl⟩ := runs_of_build_eq_ok built
  obtain ⟨script, start, walk, read, taken, walks, -⟩ := hasWalk_of_runs run rfl
  have whole : final.preconditions = Guard.assemble walk.guards := by
    obtain ⟨_, _, _, rfl⟩ := takeArguments_eq_ok taken
    exact preconditions_of_walks walks
  have written : ∀ block ∈ walk.blocks, block.containers.map (·.own) = [block] := by
    intro block member
    obtain ⟨site, e, -, isWritten⟩ := isWritten_of_walks walks block member
    exact isWritten.own_containers
  refine ⟨walk, ⟨script, start, final, last.properties, read, taken, walks⟩, whole, ?_, ?_,
    walk.block?_origins⟩
  · rw [finish, whole, walk.checks_assemble]
  · rw [finish, whole, List.map_flatMap, walk.containers_assemble written]

/-- A script that includes preconditions before it has its own, and has two blocks of its own. -/
def guardedFiles : MemoryStore :=
  .ofList [
    ("main.qcl",
      r"databaseChangeLog { include 'a.qcl' " ++
        r"preConditions(onFail: 'WARN') { or { dbms(type: 'h') dbms(type: 'p') } } " ++
        r"preConditions { not { dbms(type: 'x') } } }"),
    ("a.qcl", r"databaseChangeLog { preConditions(onFail: 'CONTINUE') " ++
      r"{ dbms(type: 'a') } }")]

/-- The three blocks stand in containers of their own, below one that is made for them. -/
theorem preconditions_of_guardedFiles :
    ∃ log, build (.ofMemory {} .builtin guardedFiles) "main.qcl" none [] = .ok log ∧
      ((log.preconditions.toList.flatMap (·.containers)).map fun container =>
        (container.policy.onFail, container.own.nested.map (·.name))) =
        [(.halt, []), (.proceed, ["dbms"]), (.warn, ["or"]), (.halt, ["not"])] ∧
      ∃ walk, IsWalk (.ofMemory {} .builtin guardedFiles) "main.qcl" none [] walk ∧
        log.preconditions.toList.flatMap (·.checks) = walk.blocks.flatMap (·.checks) ∧
        walk.origins.filterMap Origin.block? = walk.blocks := by
  have evaluated : ((build (.ofMemory {} .builtin guardedFiles) "main.qcl" none []).toOption.map
      fun log => (log.preconditions.toList.flatMap (·.containers)).map fun container =>
        (container.policy.onFail, container.own.nested.map (·.name))) =
      some [(.halt, []), (.proceed, ["dbms"]), (.warn, ["or"]), (.halt, ["not"])] := by
    decide +kernel
  obtain ⟨log, built, containers⟩ := exists_ok_of_toOption evaluated
  obtain ⟨-, walk, isWalk, -, checks, -, blocks⟩ := preconditions_in_document_order built
  exact ⟨log, built, containers, walk, isWalk, checks, blocks⟩

end Migration.Changelog
