import Migration.Changelog.Build
import Migration.Proofs.Catalog
import Migration.Proofs.Declaration.Call

/-!
# Bare values

An element that is called with bare values is the short form of one that gives the same values under
the names of the parameters for which they stand.  The main statement, `Element.short_eq_long`, says that
both forms are read as the same thing, or refused for the same cause, wherever a bare value is
accepted.
-/

namespace Migration

namespace Element

/-- An element that is called with bare values. -/
def short (name : String) (literals : List Literal) (block : Option (List (Item Element)))
    (line : Nat) : Element :=
  ⟨name, literals.map fun literal => ⟨none, literal⟩, block, line⟩

/-- An element that is called with values under names. -/
def long (name : String) (pairs : List (String × Literal)) (block : Option (List (Item Element)))
    (line : Nat) : Element :=
  ⟨name, pairs.map fun pair => ⟨some pair.1, pair.2⟩, block, line⟩

variable (name : String) (literals : List Literal) (pairs : List (String × Literal))
  (block : Option (List (Item Element))) (line : Nat)

@[simp]
theorem name_short : (short name literals block line).name = name := rfl

@[simp]
theorem name_long : (long name pairs block line).name = name := rfl

end Element

namespace Site

open Element (short long)

variable (site : Site) {name : String} {literals : List Literal} {pairs : List (String × Literal)}
  {block : Option (List (Item Element))} {line : Nat}

/-! ## Calls -/

theorem call_short (some' : literals ≠ []) :
    site.call (short name literals block line) =
      (site.resolveAll literals).map .positional := by
  have bare : (short name literals block line).hasNamed = false := by
    simp [Element.hasNamed, short]
  have values : (short name literals block line).arguments.map (·.value) = literals := by
    simp [short, Function.comp_def]
  have nonempty : (short name literals block line).arguments.isEmpty = false := by
    simpa [short] using some'
  simp only [call, nonempty, bare, values, Bool.and_false, Bool.false_eq_true, if_false]

theorem resolveNamed_long {e : Element} {before : List String}
    (distinct : (pairs.map (·.1)).Nodup) (fresh : ∀ pair ∈ pairs, pair.1 ∉ before) :
    site.resolveNamed e before (pairs.map fun pair => ⟨some pair.1, pair.2⟩) =
      (site.resolveAll (pairs.map (·.2))).map ((pairs.map (·.1)).zip ·) := by
  induction pairs generalizing before with
  | nil => rfl
  | cons pair pairs ih =>
      obtain ⟨key, literal⟩ := pair
      obtain ⟨apart, distinct⟩ := List.nodup_cons.mp distinct
      obtain ⟨isFresh, fresh⟩ := List.forall_mem_cons.mp fresh
      have rest : site.resolveNamed e (key :: before)
            (pairs.map fun pair => ⟨some pair.1, pair.2⟩) =
          (site.resolveAll (pairs.map (·.2))).map ((pairs.map (·.1)).zip ·) := by
        refine ih distinct fun other member => ?_
        rw [List.mem_cons, not_or]
        exact ⟨fun same => apart (List.mem_map.mpr ⟨other, member, same⟩), fresh other member⟩
      have all : site.resolveAll (literal :: pairs.map (·.2)) =
          site.resolve literal >>= fun value => site.resolveAll (pairs.map (·.2)) >>= fun values =>
            .ok (value :: values) := by
        rw [resolveAll]
        rfl
      rw [List.map_cons, resolveNamed, if_neg isFresh, rest, List.map_cons, List.map_cons, all]
      cases site.resolve literal with
      | error error => rfl
      | ok value => cases site.resolveAll (pairs.map (·.2)) <;> rfl

/-- Values under names are called as the bare values are, each under its name. -/
theorem call_long (some' : pairs ≠ []) (distinct : (pairs.map (·.1)).Nodup) :
    site.call (long name pairs block line) =
      (site.resolveAll (pairs.map (·.2))).map fun values =>
        .named ((pairs.map (·.1)).zip values) := by
  have allNamed : ∀ argument ∈ (long name pairs block line).arguments, argument.key.isSome := by
    intro argument member
    obtain ⟨pair, -, rfl⟩ := List.mem_map.mp member
    rfl
  rw [call_of_named allNamed (by simpa [long] using some'), long,
    site.resolveNamed_long distinct fun _ _ => List.not_mem_nil]
  cases site.resolveAll (pairs.map (·.2)) <;> rfl

theorem resolveAll_single (literal : Literal) :
    site.resolveAll [literal] = (site.resolve literal).map fun value => [value] := by
  rw [resolveAll, resolveAll]
  cases site.resolve literal <;> rfl

theorem call_short_single (literal : Literal) :
    site.call (short name [literal] block line) =
      (site.resolve literal).map fun value => .positional [value] := by
  rw [call_short site (by simp), resolveAll_single]
  cases site.resolve literal <;> rfl

theorem call_long_single (key : String) (literal : Literal) :
    site.call (long name [(key, literal)] block line) =
      (site.resolve literal).map fun value => .named [(key, value)] := by
  rw [call_long site (by simp) (by simp)]
  simp only [List.map_cons, List.map_nil, resolveAll_single]
  cases site.resolve literal <;> rfl

/-! ## Readers -/

variable (name block line)

/-- A bare value has the attributes of the parameter for which it stands. -/
theorem attributes_short (schema : Schema) (key : String) (literal : Literal) :
    site.attributes schema (some key) (short name [literal] block line) =
      site.attributes schema (some key) (long name [(key, literal)] block line) := by
  rw [attributes, attributes, call_short_single, call_long_single]
  cases site.resolve literal <;> rfl

theorem commandArgument_short (literal : Literal) :
    site.commandArgument (short name [literal] block line) =
      site.commandArgument (long name [("value", literal)] block line) := by
  rw [commandArgument, commandArgument, call_short_single, call_long_single]
  cases site.resolve literal <;> rfl

/-- The two bare values of a custom parameter are its name and its value. -/
theorem customParam_short (first second : Literal) :
    site.customParam (short name [first, second] block line) =
      site.customParam (long name [("name", first), ("value", second)] block line) := by
  have both : site.resolveAll [first, second] = site.resolve first >>= fun value =>
      (site.resolve second).map fun other => [value, other] := by
    rw [resolveAll, resolveAll_single]
    cases site.resolve first with
    | error error => rfl
    | ok value => cases site.resolve second <;> rfl
  rw [customParam, customParam, call_short site (by simp), call_long site (by simp) (by simp)]
  simp only [List.map_cons, List.map_nil, both]
  cases site.resolve first with
  | error error => rfl
  | ok value => cases site.resolve second <;> rfl

end Site

/-! ## Elements that accept bare values -/

section

open Element (short long)

variable (host : Host) (site : Site) (name : String) (block : Option (List (Item Element)))
  (line : Nat) (literal : Literal)

/-- A bare value is that of the parameter of the kind, if the kind declares it. -/
theorem Change.ofCall_short {kind : ChangeKind} {key : String} {param : Param}
    (standsFor : kind.textParam = some key) (declared : kind.params.find? key = some param) :
    ofCall site kind (short name [literal] block line) =
      ofCall site kind (long name [(key, literal)] block line) := by
  have found : kind.textParam.bind kind.params.find? = some param := by
    rw [standsFor, Option.bind_some, declared]
  rw [ofCall, ofCall, Site.call_short_single, Site.call_long_single]
  cases site.resolve literal with
  | error error => rfl
  | ok value =>
      simp only [Except.map, found]
      obtain rfl := Schema.find?_name declared
      simp only [Schema.check, Schema.addArguments, Schema.convert, declared, bind, Except.bind]
      cases param.convert value <;> rfl

theorem Change.ofElement_short {id : String} {kind : ChangeKind} {key : String}
    (known : host.catalog.changes.get? name = some kind) (standsFor : kind.textParam = some key)
    (declared : (kind.params.find? key).isSome) :
    ofElement host site id (short name [literal] block line) =
      ofElement host site id (long name [(key, literal)] block line) := by
  obtain ⟨param, found⟩ := Option.isSome_iff_exists.mp declared
  have read : ofKind host { site with changeset := some id } kind (short name [literal] block line) =
      ofKind host { site with changeset := some id } kind
        (long name [(key, literal)] block line) := by
    rw [ofKind, ofKind, ofCall_short _ name block line literal standsFor found]
    rfl
  simp only [ofElement, Element.name_short, Element.name_long, known, read]

theorem Changelog.includedFile_short :
    includedFile host site (short name [literal] block line) =
      includedFile host site (long name [("file", literal)] block line) := by
  rw [includedFile, includedFile, Site.attributes_short]
  rfl

theorem Column.ofElement_short (form : ColumnForm) :
    ofElement site form (short name [literal] block line) =
      ofElement site form (long name [("name", literal)] block line) := by
  have items : takeItem site (short name [literal] block line) =
      takeItem site (long name [("name", literal)] block line) := by
    funext column item
    cases item <;> rfl
  rw [ofElement, ofElement, Site.attributes_short, items]
  rfl

theorem SqlEdit.addedText_short :
    addedText site (short name [literal] block line) =
      addedText site (long name [("value", literal)] block line) := by
  rw [addedText, addedText, Site.attributes_short]
  rfl

/-- Wherever a bare value is accepted it may as well stand under the name of the parameter that it
gives: in a change whose kind declares such a parameter, in an inclusion, in columns, in texts that
are put around SQL, and in the arguments and parameters of commands, of changes and of checks. -/
theorem Element.short_eq_long (second : Literal) :
    (∀ (kind : ChangeKind) (key id : String), host.catalog.changes.get? name = some kind →
      kind.textParam = some key → (kind.params.find? key).isSome →
        Change.ofElement host site id (short name [literal] block line) =
          Change.ofElement host site id (long name [(key, literal)] block line)) ∧
    (∀ (load : String → Build Changelog) (log : Changelog),
      Changelog.takeElement host load log (short "include" [literal] block line) =
        Changelog.takeElement host load log (long "include" [("file", literal)] block line)) ∧
    (∀ (kind : ChangeKind) (change : Change),
      Change.takeElement site kind change (short "column" [literal] block line) =
        Change.takeElement site kind change (long "column" [("name", literal)] block line)) ∧
    (∀ change : Change,
      Change.takeWhereParam site change (.element (short "param" [literal] block line)) =
        Change.takeWhereParam site change
          (.element (long "param" [("name", literal)] block line))) ∧
    (∀ edit ∈ ["append", "prepend"],
      SqlEdit.ofElement host.isPattern site (short edit [literal] block line) =
        SqlEdit.ofElement host.isPattern site (long edit [("value", literal)] block line)) ∧
    (∀ (kind : ChangeKind) (change : Change),
      Change.takeElement site kind change (short "arg" [literal] block line) =
        Change.takeElement site kind change (long "arg" [("value", literal)] block line)) ∧
    (∀ (kind : ChangeKind) (change : Change),
      Change.takeElement site kind change (short "param" [literal, second] block line) =
        Change.takeElement site kind change
          (long "param" [("name", literal), ("value", second)] block line)) ∧
    ∀ (kind : PreconditionKind) (check : Check),
      Check.takeItem site kind check (.element (short "param" [literal, second] block line)) =
        Check.takeItem site kind check
          (.element (long "param" [("name", literal), ("value", second)] block line)) := by
  have column (form : ColumnForm) (name : String) :=
    Column.ofElement_short site name block line literal form
  have param := site.customParam_short "param" block line literal second
  refine ⟨?change, ?inclusion, ?column, ?whereParam, ?edit, ?argument, ?param, ?checkParam⟩
  case change =>
    intro kind key id known standsFor declared
    exact Change.ofElement_short host site name block line literal known standsFor declared
  case inclusion =>
    intro load log
    simp [Changelog.takeElement, Changelog.includedFile_short]
  case column =>
    intro kind change
    simp [Change.takeElement, column]
  case whereParam =>
    intro change
    simp [Change.takeWhereParam, column]
  case edit =>
    intro edit member
    have added := SqlEdit.addedText_short site edit block line literal
    rw [List.mem_cons, List.mem_singleton] at member
    rcases member with rfl | rfl <;> simp [SqlEdit.ofElement, added]
  case argument =>
    intro kind change
    have argument := site.commandArgument_short "arg" block line literal
    simp [Change.takeElement, argument]
  case param =>
    intro kind change
    simp [Change.takeElement, param]
  case checkParam =>
    intro kind check
    simp [Check.takeItem, param]

end

/-- A place where a property stands for a table. -/
def tableSite : Site where
  properties := { entries := [{ name := "table", value := "person", changelog := "m.qcl" }] }
  path := "m.qcl"

/-- Both forms of a piece of SQL are read as the same change, with the table in it. -/
theorem Element.short_eq_long_sql :
    let host : Host := { store := MemoryStore.toStore {} }
    let sql : Literal := .str "drop table ${table}"
    Change.ofElement host tableSite "1" (short "sql" [sql] none 1) =
        Change.ofElement host tableSite "1" (long "sql" [("sql", sql)] none 1) ∧
      (Change.ofElement host tableSite "1" (short "sql" [sql] none 1)).toOption.map
        (fun read => read.1.params.text? "sql") = some (some "drop table person") := by
  have builtin : (Catalog.builtin.changes.get? "sql").map (fun kind =>
      (kind.textParam, (kind.params.find? "sql").isSome)) = some (some "sql", true) := by
    rw [Catalog.get?_changes_builtin]
    decide +kernel
  obtain ⟨kind, known, facts⟩ := Option.map_eq_some_iff.mp builtin
  obtain ⟨standsFor, declared⟩ := Prod.mk.inj facts
  intro host sql
  refine ⟨(Element.short_eq_long host tableSite "sql" none 1 sql sql).1 kind "sql" "1" known
    standsFor declared, ?_⟩
  rw [Change.ofElement, show host.catalog.changes.get? _ = _ from Catalog.get?_changes_builtin _]
  decide +kernel

end Migration
