import Mathlib.Data.List.Forall2
import Migration.Proofs.Declaration.Changeset
import Migration.Proofs.Declaration.Contents

/-!
# Changesets with several blocks of preconditions

A changeset has the preconditions of the last `preConditions` element in its block.  The main
statement, `checks_declared_iff_last`, says that the checks which the changeset has are those of that
element, so that all declared checks are kept exactly if no other element declares any.
-/

namespace Migration

/-! ## Single checks as they are written -/

namespace Precondition

mutual
/-- The elements at and below one that declare single checks, from left to right: all that are not
combinations. -/
def leaves : Element → List Element
  | ⟨name, arguments, block, line⟩ =>
      match combination? name, block with
      | none, _ => [⟨name, arguments, block, line⟩]
      | some _, none => []
      | some _, some items => leavesOf items

def leavesOf : List (Item Element) → List Element
  | [] => []
  | .text _ :: items => leavesOf items
  | .element e :: items => leaves e ++ leavesOf items
end

end Precondition

/-- Whether some elements declare some checks, one after the other. -/
def Check.AreDeclared (host : Host) (site : Site) : List Element → List Check → Prop :=
  List.Forall₂ fun leaf check => Check.ofElement host site leaf = .ok check

namespace Check.AreDeclared

variable {host : Host} {site : Site} {leaves others : List Element} {checks more : List Check}

theorem append (front : AreDeclared host site leaves checks)
    (back : AreDeclared host site others more) :
    AreDeclared host site (leaves ++ others) (checks ++ more) :=
  List.rel_append front back

end Check.AreDeclared

namespace Precondition

variable {host : Host} {site : Site}

mutual
/-- A tree of preconditions has the checks that its elements declare. -/
theorem areDeclared_ofElement : (e : Element) → {read : Precondition} →
    ofElement host site e = .ok read → Check.AreDeclared host site (leaves e) read.checks
  | ⟨name, arguments, block, line⟩, read, isRead => by
      rw [ofElement] at isRead
      rw [leaves.eq_def]
      split at isRead
      · rename_i leaf
        obtain ⟨check, declared, rfl⟩ := map_eq_ok.mp isRead
        simp only [leaf, checks]
        exact .cons declared .nil
      · rename_i combine combined
        simp only [combined]
        split at isRead
        · cases isRead
        split at isRead
        · cases isRead
          rw [checks_combine combined, checksOf]
          exact .nil
        · rename_i items
          obtain ⟨children, areRead, rfl⟩ := map_eq_ok.mp isRead
          rw [checks_combine combined]
          exact areDeclared_ofItems items areRead

theorem areDeclared_ofItems : (items : List (Item Element)) → {name : String} → {line : Nat} →
    {read : List Precondition} → ofItems host site name line items = .ok read →
      Check.AreDeclared host site (leavesOf items) (checksOf read)
  | [], _, _, _, isRead => by
      cases isRead
      rw [leavesOf, checksOf]
      exact List.Forall₂.nil
  | .text _ :: _, _, _, _, isRead => by cases isRead
  | .element e :: items, _, _, _, isRead => by
      obtain ⟨child, first, isRead⟩ := bind_eq_ok.mp isRead
      obtain ⟨children, rest, isRead⟩ := bind_eq_ok.mp isRead
      cases isRead
      rw [leavesOf, checksOf]
      exact (areDeclared_ofElement e first).append (areDeclared_ofItems items rest)
end

end Precondition

theorem PreconditionContainer.areDeclared_ofElement {host : Host} {site : Site} {e : Element}
    {container : PreconditionContainer} (read : ofElement host site e = .ok container) :
    Check.AreDeclared host site (Precondition.leavesOf e.items) container.checks := by
  obtain ⟨given, -, read⟩ := bind_eq_ok.mp read
  obtain ⟨policy, -, read⟩ := bind_eq_ok.mp read
  obtain ⟨nested, areRead, read⟩ := bind_eq_ok.mp read
  cases read
  exact Precondition.areDeclared_ofItems e.items areRead

/-! ## Blocks of a changeset -/

namespace Changeset

/-- The element of an item of the block of a changeset, if it declares preconditions. -/
def preconditions? : Item Element → Option Element
  | .text _ => none
  | .element e => if e.name = "preConditions" then some e else none

/-- The elements in the block of a changeset that declare preconditions, in document order. -/
def guards (items : List (Item Element)) : List Element :=
  items.filterMap preconditions?

/-- The elements that declare the single checks of some `preConditions` elements. -/
def leaves (guards : List Element) : List Element :=
  guards.flatMap fun guard => Precondition.leavesOf guard.items

/-- The single checks that a changeset has, from left to right. -/
def checks (changeset : Changeset) : List Check :=
  changeset.preconditions.toList.flatMap (·.checks)

variable {host : Host} {site : Site} {log : Changelog} {changeset after own : Changeset}
  {warnings : List Warning} {items : List (Item Element)} {e : Element}

/-- A `preConditions` element takes the place of those before it. -/
theorem preconditions_takeElement_of_named (named : e.name = "preConditions")
    (taken : takeElement host site log changeset e = .ok (after, warnings)) :
    ∃ container, PreconditionContainer.ofElement host site e = .ok container ∧
      after.preconditions = some container := by
  cases takes_of_takeElement taken with
  | preconditions _ read => exact ⟨_, read, rfl⟩
  | _ => simp_all [partNames]

/-- What a block leaves of the preconditions: those of its last `preConditions` element, or else
those that were there.  Every such element declares its checks, wherever it stands. -/
theorem preconditions_takeItems
    (taken : takeItems host site log changeset items = .ok (after, warnings)) :
    ∃ containers, List.Forall₂
        (fun guard container => PreconditionContainer.ofElement host site guard = .ok container)
        (guards items) containers ∧
      after.preconditions = containers.getLast?.or changeset.preconditions := by
  induction items generalizing changeset warnings with
  | nil =>
      cases taken
      exact ⟨[], .nil, rfl⟩
  | cons item items ih =>
      cases item with
      | text s => cases taken
      | element e =>
          obtain ⟨⟨middle, first⟩, front, taken⟩ := bind_eq_ok.mp taken
          obtain ⟨⟨last, second⟩, rest, taken⟩ := bind_eq_ok.mp taken
          cases taken
          obtain ⟨containers, areRead, kept⟩ := ih rest
          by_cases named : e.name = "preConditions"
          · obtain ⟨container, read, replaced⟩ := preconditions_takeElement_of_named named front
            refine ⟨container :: containers, ?_, ?_⟩
            · rw [guards, List.filterMap_cons_some (b := e) (by simp [preconditions?, named])]
              exact .cons read areRead
            · rw [kept, replaced, List.getLast?_cons]
              cases containers.getLast? <;> rfl
          · refine ⟨containers, ?_, ?_⟩
            · rw [guards, List.filterMap_cons_none (by simp [preconditions?, named])]
              exact areRead
            · rw [kept, preconditions_takeElement front named]

/-- The preconditions that a changeset declares are those of its last `preConditions` element, and it
has none if there is no such element. -/
theorem preconditions_ofElement {properties : PropertyTable}
    (built : ofElement host properties log e = .ok (own, warnings)) :
    ∃ containers, List.Forall₂
        (fun guard container => PreconditionContainer.ofElement host
          { properties, path := log.physicalPath, changeset := some own.id } guard = .ok container)
        (guards e.items) containers ∧
      own.preconditions = containers.getLast? := by
  obtain ⟨arguments, -, built⟩ := bind_eq_ok.mp built
  obtain ⟨start, begun, taken⟩ := bind_eq_ok.mp built
  obtain ⟨-, -, nothing⟩ := holds_nothing_ofArguments begun
  obtain ⟨containers, areRead, kept⟩ := preconditions_takeItems taken
  have sameId : own.id = start.id := by
    obtain ⟨_, _, _, _, _, _, rfl⟩ := sameHead_takeItems taken
    rfl
  refine ⟨containers, sameId ▸ areRead, ?_⟩
  rw [kept, nothing, Option.or_none]

/-! ## The checks that are kept -/

theorem areDeclared_leaves {guards : List Element} {containers : List PreconditionContainer}
    (areRead : List.Forall₂
      (fun guard container => PreconditionContainer.ofElement host site guard = .ok container)
      guards containers) :
    Check.AreDeclared host site (leaves guards) (containers.flatMap (·.checks)) := by
  induction areRead with
  | nil => exact List.Forall₂.nil
  | cons read _ ih => exact (PreconditionContainer.areDeclared_ofElement read).append ih

/-- What corresponds one after the other corresponds in front of the last ones, and at these. -/
theorem forall₂_last {α β : Type} {same : α → β → Prop} {firsts : List α} {seconds : List β}
    (all : List.Forall₂ same firsts seconds) :
    List.Forall₂ same firsts.dropLast seconds.dropLast ∧
      List.Forall₂ same firsts.getLast?.toList seconds.getLast?.toList := by
  induction all with
  | nil => exact ⟨.nil, .nil⟩
  | cons here rest ih =>
      cases rest with
      | nil => exact ⟨.nil, .cons here .nil⟩
      | cons => exact ⟨.cons here ih.1, ih.2⟩

theorem dropLast_append_last {α : Type} (values : List α) :
    values.dropLast ++ values.getLast?.toList = values := by
  cases last : values.getLast? with
  | none => simp [List.getLast?_eq_none_iff.mp last]
  | some value => exact List.dropLast_append_getLast? value last

/-- The checks that a changeset has are those of its last `preConditions` element.  All declared ones
are among them, in document order, exactly if the other such elements declare none. -/
theorem checks_declared_iff_last {properties : PropertyTable}
    (built : ofElement host properties log e = .ok (own, warnings)) :
    let site : Site := { properties, path := log.physicalPath, changeset := some own.id }
    ∃ declared,
      Check.AreDeclared host site (leaves (guards e.items)) declared ∧
      Check.AreDeclared host site (leaves (guards e.items).getLast?.toList) own.checks ∧
      (declared.Sublist own.checks ↔ leaves (guards e.items).dropLast = []) := by
  intro site
  obtain ⟨containers, areRead, isLast⟩ := preconditions_ofElement built
  obtain ⟨inFront, atLast⟩ := forall₂_last areRead
  have front := areDeclared_leaves inFront
  have last : Check.AreDeclared host site (leaves (guards e.items).getLast?.toList) own.checks := by
    rw [checks, isLast]
    exact areDeclared_leaves atLast
  have whole : containers.flatMap (·.checks) =
      containers.dropLast.flatMap (·.checks) ++ own.checks := by
    rw [checks, isLast, ← List.flatMap_append, dropLast_append_last]
  refine ⟨_, areDeclared_leaves areRead, last, ?_⟩
  have noneInFront : leaves (guards e.items).dropLast = [] ↔
      containers.dropLast.flatMap (·.checks) = [] := by
    rw [← List.length_eq_zero_iff, ← List.length_eq_zero_iff, front.length_eq]
  rw [noneInFront, whole]
  constructor
  · intro kept
    have le := kept.length_le
    rw [List.length_append] at le
    exact List.length_eq_zero_iff.mp (by omega)
  · intro nothing
    rw [nothing]
    exact List.Sublist.refl _

/-! ## Changesets with two blocks -/

/-- An element that declares a check of the database, for each of some names. -/
def dbmsChecks (names : List String) : List (Item Element) :=
  names.map fun name => .element ⟨"dbms", [⟨some "type", .str name⟩], none, 1⟩

/-- A changeset that declares preconditions, makes a change and declares preconditions again. -/
def twiceGuarded (first second : List String) : Element where
  name := "changeSet"
  arguments := [⟨some "id", .str "1"⟩, ⟨some "author", .str "m"⟩]
  block := some [
    .element ⟨"preConditions", [], some (dbmsChecks first), 1⟩,
    .element ⟨"tagDatabase", [⟨none, .str "t"⟩], none, 1⟩,
    .element ⟨"preConditions", [], some [.element ⟨"or", [], some (dbmsChecks second), 1⟩], 1⟩]
  line := 1

/-- A host without files. -/
def bareHost : Host := { store := MemoryStore.toStore {} }

def guardedLog : Changelog := { physicalPath := "m.qcl" }

/-- The changeset of such an element has two checks, whatever it declares first. -/
theorem ofElement_twiceGuarded : ∀ first ∈ [[], ["h"]], ∃ own warnings,
    ofElement bareHost {} guardedLog (twiceGuarded first ["p", "q"]) = .ok (own, warnings) ∧
      own.checks.length = 2 := by
  have evaluated : ∀ first ∈ [[], ["h"]],
      (ofElement bareHost {} guardedLog (twiceGuarded first ["p", "q"])).toOption.map
        (fun read => read.1.checks.length) = some 2 := by
    decide +kernel
  intro first member
  obtain ⟨⟨own, warnings⟩, built, length⟩ := exists_ok_of_toOption (evaluated first member)
  exact ⟨own, warnings, built, length⟩

/-- Where the first block declares no check, both checks of the second one are kept. -/
theorem checks_of_twiceGuarded : ∃ own warnings declared,
    ofElement bareHost {} guardedLog (twiceGuarded [] ["p", "q"]) = .ok (own, warnings) ∧
      Check.AreDeclared bareHost
        { properties := {}, path := guardedLog.physicalPath, changeset := some own.id }
        (leaves (guards (twiceGuarded [] ["p", "q"]).items)) declared ∧
      declared.length = 2 ∧ declared.Sublist own.checks := by
  obtain ⟨own, warnings, built, -⟩ := ofElement_twiceGuarded [] (by decide)
  obtain ⟨declared, areDeclared, -, kept⟩ := checks_declared_iff_last built
  exact ⟨own, warnings, declared, built, areDeclared, areDeclared.length_eq.symm, kept.mpr rfl⟩

/-- Where the first block declares a check, not all declared checks are kept. -/
theorem not_checks_declared_kept :
    ¬ ∀ (host : Host) (properties : PropertyTable) (log : Changelog) (e : Element)
        (own : Changeset) (warnings : List Warning) (declared : List Check),
      ofElement host properties log e = .ok (own, warnings) →
      Check.AreDeclared host { properties, path := log.physicalPath, changeset := some own.id }
        (leaves (guards e.items)) declared →
      declared.Sublist own.checks := by
  intro claimed
  obtain ⟨own, warnings, built, two⟩ := ofElement_twiceGuarded ["h"] (by decide)
  obtain ⟨containers, areRead, -⟩ := preconditions_ofElement built
  have declared := areDeclared_leaves areRead
  have three : (containers.flatMap (·.checks)).length = 3 := declared.length_eq.symm
  have le := (claimed _ _ _ _ own warnings _ built declared).length_le
  rw [three, two] at le
  exact absurd le (by decide)

end Changeset

end Migration
