import Migration.Declaration.Precondition
import Migration.Proofs.Declaration.Change
import Migration.Proofs.Strictness

/-!
# Declared checks and their kinds

A declared check has no more than its kind allows.  The checks of a tree of preconditions are those
that its elements declare.
-/

namespace Migration

/-- Whether a check has no more than a kind allows. -/
structure PreconditionKind.Admits (kind : PreconditionKind) (check : Check) : Prop where
  params : kind.params.Types check.params
  sql : check.sql.isSome → kind.takesSql
  customParams : check.customParams ≠ [] → kind.takesCustomParams

namespace Check

variable {kind : PreconditionKind} {host : Host} {site : Site} {check : Check}

/-- A declared check is one of the kind of its name, with its block, and checked for what is
required in a strict build. -/
theorem ofElement_eq_ok {e : Element} : ofElement host site e = .ok check ↔
    ∃ kind given, host.catalog.preconditions.get? e.name = some kind ∧
      site.attributes kind.params none e = .ok given ∧
      e.items.foldlM (takeItem site kind) (ofAttributes kind given) = .ok check ∧
      (host.configuration.strictParameters → checkRequired site kind check = .ok ()) := by
  unfold ofElement
  constructor
  · intro read
    split at read
    · cases read
    · rename_i kind found
      obtain ⟨given, called, read⟩ := bind_eq_ok.mp read
      obtain ⟨taken, isTaken, read⟩ := bind_eq_ok.mp read
      dsimp only at read
      split at read
      · obtain ⟨_, checked, read⟩ := bind_eq_ok.mp read
        cases read
        exact ⟨kind, given, found, called, isTaken, fun _ => checked⟩
      · rename_i lax
        cases read
        exact ⟨kind, given, found, called, isTaken, fun strict => absurd strict lax⟩
  · rintro ⟨kind, given, found, called, isTaken, checked⟩
    rw [found]
    refine bind_eq_ok.mpr ⟨given, called, bind_eq_ok.mpr ⟨check, isTaken, ?_⟩⟩
    dsimp only
    split
    · rename_i strict
      exact bind_eq_ok.mpr ⟨(), checked strict, rfl⟩
    · rfl

/-- What the items of the block of a check keep: its kind, and that the kind admits it. -/
def IsOf (kind : PreconditionKind) (check : Check) : Prop :=
  check.kind = kind.name ∧ kind.Admits check

theorem isOf_ofAttributes {given : Attributes} (types : kind.params.Types given) :
    (ofAttributes kind given).IsOf kind := by
  unfold ofAttributes
  split
  · rename_i takesSql
    refine ⟨rfl, types.erase "sql", fun _ => takesSql, fun notEmpty => absurd rfl notEmpty⟩
  · refine ⟨rfl, types, ?_, fun notEmpty => absurd rfl notEmpty⟩
    intro isSome
    cases isSome

theorem isOf_takeItem {before after : Check} {item : Item Element}
    (taken : takeItem site kind before item = .ok after) (isOf : before.IsOf kind) :
    after.IsOf kind := by
  obtain ⟨same, admits⟩ := isOf
  cases item with
  | text s =>
      simp only [takeItem] at taken
      split at taken
      · rename_i takesSql
        cases taken
        exact ⟨same, { admits with sql := fun _ => takesSql }⟩
      · cases taken
  | element e =>
      simp only [takeItem] at taken
      split at taken
      · rename_i takes
        obtain ⟨param, -, taken⟩ := bind_eq_ok.mp taken
        cases taken
        exact ⟨same, { admits with customParams := fun _ => takes.1 }⟩
      · cases taken

theorem isOf_taken {e : Element} {given : Attributes}
    (called : site.attributes kind.params none e = .ok given)
    (isTaken : e.items.foldlM (takeItem site kind) (ofAttributes kind given) = .ok check) :
    check.IsOf kind :=
  of_foldlM_eq_ok isOf_takeItem isTaken (isOf_ofAttributes (Site.types_attributes called))

/-- A declared check of one of the kinds that are always there has no more than its kind allows. -/
theorem admits_ofElement
    (preconditions : host.catalog.preconditions = Catalog.builtin.preconditions) {e : Element}
    (read : ofElement host site e = .ok check) :
    ∃ kind, Catalog.builtin.preconditions.get? check.kind = some kind ∧ kind.Admits check := by
  obtain ⟨kind, given, found, called, isTaken, -⟩ := ofElement_eq_ok.mp read
  rw [preconditions] at found
  obtain ⟨-, named⟩ := Catalog.mem_preconditionKinds found
  obtain ⟨same, admits⟩ := isOf_taken called isTaken
  refine ⟨kind, ?_, admits⟩
  rw [same, named, found]

end Check

/-! ## Trees -/

theorem Precondition.checksOf_append (trees others : List Precondition) :
    checksOf (trees ++ others) = checksOf trees ++ checksOf others := by
  induction trees with
  | nil => simp [checksOf]
  | cons tree trees ih => simp [checksOf, ih]

/-- The single checks of a container from left to right. -/
def PreconditionContainer.checks (container : PreconditionContainer) : List Check :=
  Precondition.checksOf container.nested

namespace PreconditionContainer

@[simp]
theorem checks_asPart (container : PreconditionContainer) :
    container.asPart.checks = container.checks := by
  rw [asPart, Precondition.checks, checks]

@[simp]
theorem checks_add (container : PreconditionContainer) (part : Precondition) :
    (container.add part).checks = container.checks ++ part.checks := by
  simp [add, checks, Precondition.checksOf_append, Precondition.checksOf]

end PreconditionContainer

namespace Precondition

variable {site : Site}

theorem checks_combine {name : String} {combine : List Precondition → Precondition}
    (found : combination? name = some combine) (children : List Precondition) :
    (combine children).checks = checksOf children := by
  unfold combination? at found
  split at found
  · cases found
    rw [checks]
  split at found
  · cases found
    rw [checks]
  split at found
  · cases found
    rw [checks]
  · cases found

/-- Whether all single checks of a tree are good. -/
def Holds (good : Check → Prop) (tree : Precondition) : Prop :=
  ∀ check ∈ tree.checks, good check

def AllHold (good : Check → Prop) (trees : List Precondition) : Prop :=
  ∀ check ∈ checksOf trees, good check

variable {strict lax : Host} {exact : Prop} {good : Check → Prop}

theorem holds_check {leaf : Check} : Holds good (.check leaf) ↔ good leaf := by
  simp [Holds, checks]

theorem allHold_cons {tree : Precondition} {trees : List Precondition} :
    AllHold good (tree :: trees) ↔ Holds good tree ∧ AllHold good trees := by
  simp [AllHold, Holds, checksOf, or_imp, forall_and]

mutual
/-- A tree is read as strictly as its single checks. -/
theorem filters_ofElement
    (leaves : ∀ e, Filters exact True (Check.ofElement strict site e) (Check.ofElement lax site e)
      good) : (e : Element) →
    Filters exact True (ofElement strict site e) (ofElement lax site e) (Holds good)
  | ⟨name, arguments, block, line⟩ => by
      rw [ofElement, ofElement]
      cases combined : combination? name with
      | none => exact (leaves _).map fun leaf => holds_check
      | some combine =>
          cases arguments with
          | cons argument arguments => exact .error _
          | nil =>
              have same (trees : List Precondition) :
                  Holds good (combine trees) ↔ AllHold good trees := by
                rw [Holds, checks_combine combined, AllHold]
              cases block with
              | none => exact .ok _ (fun _ => by simp [same, AllHold, checksOf]) fun _ _ => trivial
              | some items => exact (filters_ofItems leaves name line items).map same

theorem filters_ofItems
    (leaves : ∀ e, Filters exact True (Check.ofElement strict site e) (Check.ofElement lax site e)
      good) (name : String) (line : Nat) : (items : List (Item Element)) →
    Filters exact True (ofItems strict site name line items) (ofItems lax site name line items)
      (AllHold good)
  | [] => by
      rw [ofItems, ofItems]
      exact .ok _ (fun _ => by simp [AllHold, checksOf]) fun _ _ => trivial
  | .text _ :: _ => by
      rw [ofItems, ofItems]
      exact .error _
  | .element e :: items => by
      rw [ofItems, ofItems]
      refine (filters_ofElement leaves e).bind fun tree _ => ?_
      refine Filters.bind (.given fun _ => filters_ofItems leaves name line items) fun trees _ => ?_
      exact .ok _ allHold_cons.mpr fun _ => allHold_cons.mp
end

end Precondition

namespace PreconditionContainer

/-- Whether all single checks of a container are good. -/
def Holds (good : Check → Prop) (container : PreconditionContainer) : Prop :=
  ∀ check ∈ container.checks, good check

/-- A container is read as strictly as its single checks. -/
theorem filters_ofElement {strict lax : Host} {exact : Prop} {good : Check → Prop} {site : Site}
    (leaves : ∀ e, Filters exact True (Check.ofElement strict site e) (Check.ofElement lax site e)
      good) (e : Element) :
    Filters exact True (ofElement strict site e) (ofElement lax site e) (Holds good) := by
  refine Filters.bind (.aside _) fun given _ => Filters.bind (.aside _) fun policy _ => ?_
  refine (Precondition.filters_ofItems leaves e.name e.line e.items).bind fun trees _ => ?_
  exact .ok _ id fun _ => id

end PreconditionContainer

end Migration
