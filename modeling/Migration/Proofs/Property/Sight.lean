import Mathlib.Logic.Relation
import Migration.Property.Table

/-!
# Properties in sight

A changelog sees the properties whose scope matches the environment and that are global or its own.
The main statement, `only_properties_in_sight_count`, says that all others can be put into the table
or taken out of it, wherever they stand, and that a property in scope which is added gives its value
to its own name only, and only where it is local or no local property hides it.
-/

namespace Migration

namespace Property

/-- Whether a changelog has declared a property for itself. -/
def isLocalTo (changelog : String) (property : Property) : Bool :=
  !property.scope.isGlobal && Path.same property.changelog changelog

/-- Whether a changelog does not see a property: another changelog has declared it for itself, or
its scope does not match the environment. -/
def isHidden (environment : Environment) (changelog : String) (property : Property) : Bool :=
  (!property.scope.isGlobal && !Path.same property.changelog changelog) ||
    !property.scope.admits environment

/-- Whether entries become others when one that a changelog does not see is put in somewhere. -/
inductive InsertsHidden (environment : Environment) (changelog : String) :
    List Property → List Property → Prop
  | here (front back : List Property) {property : Property}
      (hidden : property.isHidden environment changelog = true) :
      InsertsHidden environment changelog (front ++ back) (front ++ property :: back)

/-- Whether entries become others when some that a changelog does not see are put in or taken out,
one after the other, each of them anywhere. -/
def DifferOutOfSight (environment : Environment) (changelog : String) :
    List Property → List Property → Prop :=
  Relation.EqvGen (InsertsHidden environment changelog)

variable {environment : Environment} {changelog : String} {property : Property}

theorem isHidden_eq_false_of_isLocalTo (isLocal : property.isLocalTo changelog = true)
    (inScope : property.scope.admits environment = true) :
    property.isHidden environment changelog = false := by
  simp_all [isLocalTo, isHidden]

theorem isHidden_eq_false_of_isGlobal (isGlobal : property.scope.isGlobal = true)
    (inScope : property.scope.admits environment = true) :
    property.isHidden environment changelog = false := by
  simp [isHidden, isGlobal, inScope]

/-- The entries in sight stay the same. -/
theorem DifferOutOfSight.filter_eq {entries others : List Property}
    (differ : DifferOutOfSight environment changelog entries others) :
    (entries.filter fun property => !property.isHidden environment changelog) =
      others.filter fun property => !property.isHidden environment changelog := by
  induction differ with
  | rel _ _ inserts =>
      cases inserts with
      | here front back hidden => simp [List.filter_append, hidden]
  | refl => rfl
  | symm _ _ _ ih => exact ih.symm
  | trans _ _ _ _ _ first second => exact first.trans second

end Property

namespace PropertyTable

variable {table : PropertyTable} {changelog name : String} {property : Property}

/-- The value of a name is that of the latest local entry in scope, or else of the latest global
one. -/
theorem resolve_eq : table.resolve name changelog =
    (((table.candidates name).find? (·.isLocalTo changelog)).or
      ((table.candidates name).find? (·.scope.isGlobal))).map (·.value) :=
  rfl

/-- A value is that of an entry with the name. -/
theorem exists_entry_of_resolve {value : String}
    (known : table.resolve name changelog = some value) :
    ∃ entry ∈ table.entries, entry.name = name ∧ entry.value = value := by
  obtain ⟨entry, found, rfl⟩ := Option.map_eq_some_iff.mp (resolve_eq.symm.trans known)
  have member : entry ∈ table.candidates name := by
    rcases Option.or_eq_some_iff.mp found with isLocal | ⟨-, isGlobal⟩
    · exact List.mem_of_find?_eq_some isLocal
    · exact List.mem_of_find?_eq_some isGlobal
  obtain ⟨isEntry, isNamed⟩ := List.mem_filter.mp member
  simp only [Bool.and_eq_true, decide_eq_true_eq] at isNamed
  exact ⟨entry, List.mem_reverse.mp isEntry, isNamed.1, rfl⟩

/-- A search for an entry in sight finds the same one where there are no others. -/
theorem find?_candidates_filter {wanted : Property → Bool}
    (seen : ∀ property : Property, property.scope.admits table.environment = true →
      wanted property = true → property.isHidden table.environment changelog = false) :
    ({ table with
        entries := table.entries.filter fun property =>
          !property.isHidden table.environment changelog }.candidates name).find? wanted =
      (table.candidates name).find? wanted := by
  simp only [candidates, ← List.filter_reverse, List.find?_filter]
  congr 1
  funext property
  cases inScope : property.scope.admits table.environment
  · simp
  cases isWanted : wanted property
  · simp
  · simp [seen property inScope isWanted]

/-- A name has the value that it has in the table of the entries in sight. -/
theorem resolve_filter (table : PropertyTable) (changelog name : String) :
    { table with
        entries := table.entries.filter fun property =>
          !property.isHidden table.environment changelog }.resolve name changelog =
      table.resolve name changelog := by
  rw [resolve_eq, resolve_eq,
    find?_candidates_filter fun _ inScope isLocal =>
      Property.isHidden_eq_false_of_isLocalTo isLocal inScope,
    find?_candidates_filter fun _ inScope isGlobal =>
      Property.isHidden_eq_false_of_isGlobal isGlobal inScope]

/-- Entries out of sight have no part in the values of names. -/
theorem resolve_of_differOutOfSight {entries : List Property}
    (differ : Property.DifferOutOfSight table.environment changelog table.entries entries)
    (name : String) :
    { table with entries }.resolve name changelog = table.resolve name changelog := by
  rw [← resolve_filter { table with entries }, ← resolve_filter table]
  simp only [differ.filter_eq]

/-- An expansion depends on nothing but the values of names and the number of passes. -/
theorem expand_congr {other : PropertyTable} {place : String}
    (values : ∀ name, table.resolve name changelog = other.resolve name place)
    (passes : table.passes = other.passes) (text : String) :
    table.expand text changelog = other.expand text place := by
  simp only [expand, values, passes]

/-! ## Properties that are added -/

theorem candidates_add (inScope : property.scope.admits table.environment = true) :
    (table.add property).candidates property.name = property :: table.candidates property.name := by
  simp [candidates, add, inScope]

theorem candidates_add_of_ne (other : name ≠ property.name) :
    (table.add property).candidates name = table.candidates name := by
  simp [candidates, add, other.symm]

/-- Whether a property that is added gives a changelog its value: it is local to the changelog, or
it is global and no entry of its name that is in scope is local to the changelog. -/
def Prevails (table : PropertyTable) (changelog : String) (property : Property) : Prop :=
  property.isLocalTo changelog = true ∨
    property.scope.isGlobal = true ∧
      ∀ entry ∈ table.entries, entry.name = property.name →
        entry.scope.admits table.environment = true → entry.isLocalTo changelog = false

theorem find?_isLocalTo_eq_none :
    (table.candidates name).find? (·.isLocalTo changelog) = none ↔
      ∀ entry ∈ table.entries, entry.name = name →
        entry.scope.admits table.environment = true → entry.isLocalTo changelog = false := by
  simp [candidates]

theorem resolve_add_of_prevails (inScope : property.scope.admits table.environment = true)
    (prevails : table.Prevails changelog property) :
    (table.add property).resolve property.name changelog = some property.value := by
  rw [resolve_eq, candidates_add inScope]
  rcases prevails with isLocal | ⟨isGlobal, alone⟩
  · rw [List.find?_cons_of_pos isLocal, Option.some_or, Option.map_some]
  · have notLocal : ¬ property.isLocalTo changelog = true := by simp [Property.isLocalTo, isGlobal]
    rw [List.find?_cons_of_neg notLocal, find?_isLocalTo_eq_none.mpr alone, Option.none_or]
    simp [isGlobal]

theorem resolve_add_of_not_prevails (inScope : property.scope.admits table.environment = true)
    (fails : ¬ table.Prevails changelog property) :
    (table.add property).resolve property.name changelog =
      table.resolve property.name changelog := by
  have notLocal : ¬ property.isLocalTo changelog = true := fun isLocal => fails (.inl isLocal)
  rw [resolve_eq, resolve_eq, candidates_add inScope, List.find?_cons_of_neg notLocal]
  cases isGlobal : property.scope.isGlobal with
  | false => rw [List.find?_cons_of_neg (by simp [isGlobal])]
  | true =>
      -- A local entry hides the added one.
      have hides : (table.candidates property.name).find? (·.isLocalTo changelog) ≠ none :=
        fun alone => fails (.inr ⟨isGlobal, find?_isLocalTo_eq_none.mp alone⟩)
      obtain ⟨entry, found⟩ := Option.ne_none_iff_exists'.mp hides
      rw [found, Option.some_or, Option.some_or]

theorem resolve_add_of_ne (other : name ≠ property.name) :
    (table.add property).resolve name changelog = table.resolve name changelog := by
  rw [resolve_eq, resolve_eq, candidates_add_of_ne other]

/-- Values and expansions depend on the properties in sight only.  A property in scope that is added
gives its value to its name where it prevails, and changes no value otherwise. -/
theorem only_properties_in_sight_count (table : PropertyTable) (changelog : String) :
    (∀ entries, Property.DifferOutOfSight table.environment changelog table.entries entries →
      (∀ name, { table with entries }.resolve name changelog = table.resolve name changelog) ∧
      ∀ text, { table with entries }.expand text changelog = table.expand text changelog) ∧
    ∀ property : Property, property.scope.admits table.environment = true →
      (table.Prevails changelog property →
        (table.add property).resolve property.name changelog = some property.value) ∧
      (¬ table.Prevails changelog property →
        (table.add property).resolve property.name changelog =
          table.resolve property.name changelog) ∧
      ∀ name ≠ property.name,
        (table.add property).resolve name changelog = table.resolve name changelog := by
  constructor
  · intro entries differ
    have values := resolve_of_differOutOfSight differ
    exact ⟨values, expand_congr values rfl⟩
  · intro property inScope
    exact ⟨resolve_add_of_prevails inScope, resolve_add_of_not_prevails inScope,
      fun name other => resolve_add_of_ne other⟩

/-! ## A name with values for several places -/

/-- A table for one database with a global property and one of the same name that is local. -/
def sharedTable : PropertyTable where
  entries := [
    { name := "x", value := "all", changelog := "a" },
    { name := "x", value := "own", changelog := "a", scope := { isGlobal := false } }]
  environment := { dbms := some "h2" }

/-- A property of that name for another database. -/
def otherDatabase : Property :=
  { name := "x", value := "other", changelog := "a", scope := { dbms := ["mysql"] } }

/-- A property of that name that is local to a changelog in a directory. -/
def ownProperty : Property :=
  { name := "x", value := "mine", changelog := "d\\b", scope := { isGlobal := false } }

/-- The entries of the table with the property for the other database, and without the local one. -/
def unsharedEntries : List Property :=
  [{ name := "x", value := "all", changelog := "a" }, otherDatabase]

theorem differOutOfSight_sharedTable :
    Property.DifferOutOfSight sharedTable.environment "d/b" sharedTable.entries unsharedEntries := by
  refine .trans _ _ _ (.symm _ _ (.rel _ _ (.here [_] [] ?_))) (.rel _ _ (.here [_] [] ?_))
  · decide
  · decide

/-- For a changelog in the directory, the property for the other database is as good as absent, where
on that database it would have the last word.  Its own property gives the name another value. -/
theorem values_of_sharedTable :
    { sharedTable with entries := unsharedEntries }.expand "${x}" "d/b" =
      sharedTable.expand "${x}" "d/b" ∧
    { entries := unsharedEntries, environment := { dbms := some "mysql" } :
      PropertyTable }.expand "${x}" "d/b" = "other" ∧
    ownProperty.scope.admits sharedTable.environment = true ∧
    sharedTable.Prevails "d/b" ownProperty ∧
    (sharedTable.add ownProperty).resolve "x" "d/b" = some "mine" := by
  obtain ⟨outOfSight, added⟩ := only_properties_in_sight_count sharedTable "d/b"
  have inScope : ownProperty.scope.admits sharedTable.environment = true := by decide
  have prevails : sharedTable.Prevails "d/b" ownProperty := .inl (by decide)
  exact ⟨(outOfSight _ differOutOfSight_sharedTable).2 _, by decide +kernel, inScope, prevails,
    (added ownProperty inScope).1 prevails⟩

end PropertyTable

end Migration
