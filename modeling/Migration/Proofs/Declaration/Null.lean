import Mathlib.Logic.Relation
import Migration.Proofs.Declaration.Call

/-!
# Arguments that are null

Null stands for an attribute that is set to nothing.  An argument that is null and has a name which
the schema declares can be added to named arguments, or left out, and what is read of the attributes
stays the same: their values, and the cause for which they are refused.
-/

namespace Migration

open Relation (ReflTransGen)

/-! ## Attributes -/

namespace Attributes

/-- Whether attributes have the same values.  Null is no value. -/
def Agree (given other : Attributes) : Prop :=
  ∀ name, given.value? name = other.value? name

variable {given other : Attributes}

theorem text?_eq (given : Attributes) (name : String) :
    given.text? name = (given.value? name).bind Value.text? := by
  unfold text? value?
  cases given.get? name with
  | none => rfl
  | some value => cases value <;> rfl

theorem flag?_eq (given : Attributes) (name : String) :
    given.flag? name = (given.value? name).bind Value.bool? := by
  unfold flag? value?
  cases given.get? name with
  | none => rfl
  | some value => cases value <;> rfl

theorem int?_eq (given : Attributes) (name : String) :
    given.int? name = (given.value? name).bind Value.int? := by
  unfold int? value?
  cases given.get? name with
  | none => rfl
  | some value => cases value <;> rfl

theorem value?_insert (given : Attributes) (name other : String) (value : Value) :
    Attributes.value? (given.insert name value) other =
      if name = other then (some value).filter (!·.isNull) else given.value? other := by
  unfold value?
  rw [NameMap.get?_insert]
  split <;> rfl

namespace Agree

theorem refl (given : Attributes) : given.Agree given :=
  fun _ => rfl

theorem text? (agree : given.Agree other) : given.text? = other.text? :=
  funext fun name => by rw [text?_eq, text?_eq, agree]

theorem flag? (agree : given.Agree other) : given.flag? = other.flag? :=
  funext fun name => by rw [flag?_eq, flag?_eq, agree]

theorem int? (agree : given.Agree other) : given.int? = other.int? :=
  funext fun name => by rw [int?_eq, int?_eq, agree]

theorem has (agree : given.Agree other) : given.has = other.has :=
  funext fun name => by rw [Attributes.has, Attributes.has, agree]

theorem insert (agree : given.Agree other) (name : String) (value : Value) :
    Attributes.Agree (given.insert name value) (other.insert name value) := by
  intro key
  rw [value?_insert, value?_insert, agree]

end Agree

/-- Null takes no place. -/
theorem agree_insert_null {name : String} (absent : given.value? name = none) :
    given.Agree (given.insert name .null) := by
  intro other
  rw [value?_insert]
  split
  · rename_i same
    rw [← same, absent]
    rfl
  · rfl

end Attributes

/-! ## Checks against a schema -/

namespace Schema

variable {schema : Schema} {element : String} {changeset : Option String}
  {given other : Attributes}

theorem checkRequired_agree (schema : Schema) (element : String) (changeset : Option String)
    (agree : given.Agree other) :
    schema.checkRequired element changeset given = schema.checkRequired element changeset other := by
  simp only [checkRequired, agree.has]

theorem addArguments_agree (agree : given.Agree other) (arguments : List (String × Value)) :
    Parallels Attributes.Agree (schema.addArguments element changeset given arguments)
      (schema.addArguments element changeset other arguments) := by
  induction arguments generalizing given other with
  | nil => exact .ok agree
  | cons argument arguments ih =>
      rw [addArguments_cons, addArguments_cons]
      exact (Parallels.same _).bind fun value _ same =>
        same ▸ ih (agree.insert argument.1 value)

theorem convert_null {key : String} (declared : (schema.find? key).isSome) :
    schema.convert element changeset (key, .null) = .ok .null := by
  obtain ⟨param, found⟩ := Option.isSome_iff_exists.mp declared
  have stays : param.type.convert? .null = some .null := by cases param.type <;> rfl
  simp only [convert, found, Param.convert, stays]

/-- A further argument that is null changes no value. -/
theorem addArguments_null {key : String} (declared : (schema.find? key).isSome)
    {before : List (String × Value)} (fresh : ∀ pair ∈ before, pair.1 ≠ key)
    (absent : given.value? key = none) (after : List (String × Value)) :
    Parallels Attributes.Agree (schema.addArguments element changeset given (before ++ after))
      (schema.addArguments element changeset given (before ++ (key, .null) :: after)) := by
  induction before generalizing given with
  | nil =>
      rw [List.nil_append, List.nil_append, addArguments_cons, convert_null declared]
      exact addArguments_agree (Attributes.agree_insert_null absent) after
  | cons pair before ih =>
      obtain ⟨different, fresh⟩ := List.forall_mem_cons.mp fresh
      rw [List.cons_append, List.cons_append, addArguments_cons, addArguments_cons]
      refine (Parallels.same _).bind fun value _ same => same ▸ ih fresh ?_
      rw [Attributes.value?_insert, if_neg different, absent]

/-- Whether a schema makes the same of two lists of named arguments: attributes with the same values,
or the same failure.  Both have the same arguments that it does not declare. -/
structure SeesAlike (schema : Schema) (first second : List (String × Value)) : Prop where
  check : ∀ element changeset, Parallels Attributes.Agree (schema.check element changeset first)
    (schema.check element changeset second)
  undeclared : ∀ name, schema.find? name = none →
    first.any (·.1 = name) = second.any (·.1 = name)

namespace SeesAlike

variable {first second third : List (String × Value)}

theorem refl (schema : Schema) (arguments : List (String × Value)) :
    schema.SeesAlike arguments arguments :=
  ⟨fun _ _ => .refl .refl _, fun _ _ => rfl⟩

theorem trans (front : schema.SeesAlike first second) (back : schema.SeesAlike second third) :
    schema.SeesAlike first third where
  check element changeset := (front.check element changeset).trans
    (fun same also name => (same name).trans (also name)) (back.check element changeset)
  undeclared name isUndeclared :=
    (front.undeclared name isUndeclared).trans (back.undeclared name isUndeclared)

theorem null {key : String} (declared : (schema.find? key).isSome)
    {before after : List (String × Value)} (fresh : ∀ pair ∈ before, pair.1 ≠ key) :
    schema.SeesAlike (before ++ after) (before ++ (key, .null) :: after) where
  check element changeset := addArguments_null declared fresh rfl after
  undeclared name isUndeclared := by
    have different : key ≠ name := by
      rintro rfl
      rw [isUndeclared] at declared
      cases declared
    simp [different]

end SeesAlike

end Schema

/-! ## Elements -/

/-- Whether arguments are others and an argument that is null, with a name that a schema declares and
that none of the others has.  All of them are named. -/
inductive Argument.AddsNull (schema : Schema) : List Argument → List Argument → Prop
  | null (before after : List Argument) {key : String} (declared : (schema.find? key).isSome)
      (fresh : ∀ argument ∈ before ++ after, ∃ name, argument.key = some name ∧ name ≠ key) :
      AddsNull schema (before ++ after) (before ++ ⟨some key, .null⟩ :: after)

/-- Whether arguments are others and any number of further ones that are null. -/
def Argument.AddsNulls (schema : Schema) : List Argument → List Argument → Prop :=
  ReflTransGen (Argument.AddsNull schema)

namespace Site

variable {site : Site} {schema : Schema} {textParam : Option String} {e f : Element}

theorem namedArguments_of_named (named : ∀ argument ∈ e.arguments, argument.key.isSome) :
    site.namedArguments e = site.resolveNamed e [] e.arguments := by
  by_cases bare : e.arguments = []
  · simp [namedArguments, call, bare, resolveNamed, bind, Except.bind, pure, Except.pure]
  · rw [namedArguments, call_of_named named bare]
    cases site.resolveNamed e [] e.arguments <;> rfl

theorem attributes_of_named (named : ∀ argument ∈ e.arguments, argument.key.isSome) :
    site.attributes schema textParam e =
      site.namedArguments e >>= schema.check e.name site.changeset := by
  by_cases bare : e.arguments = []
  · simp [attributes, namedArguments, call, bare, bind, Except.bind, pure, Except.pure,
      Schema.check, Schema.addArguments]
  · rw [attributes, namedArguments, call_of_named named bare]
    cases site.resolveNamed e [] e.arguments <;> rfl

theorem resolveNamed_fresh {key : String} {arguments : List Argument}
    (fresh : ∀ argument ∈ arguments, argument.key ≠ some key) {before names : List String}
    (same : ∀ name, name ≠ key → (name ∈ names ↔ name ∈ before)) :
    site.resolveNamed e names arguments = site.resolveNamed e before arguments := by
  induction arguments generalizing before names with
  | nil => rfl
  | cons argument arguments ih =>
      obtain ⟨different, later⟩ := List.forall_mem_cons.mp fresh
      obtain ⟨_ | name, literal⟩ := argument
      · exact ih later same
      · have apart : name ≠ key := fun isKey => different (congrArg some isKey)
        have rest : site.resolveNamed e (name :: names) arguments =
            site.resolveNamed e (name :: before) arguments :=
          ih later fun other notKey => by simp [same other notKey]
        simp only [resolveNamed, same name apart, rest]

/-- A further argument that is null is resolved to a further value that is null. -/
theorem resolveNamed_null {key : String} {names : List String} {before after : List Argument}
    (fresh : ∀ argument ∈ before ++ after, ∃ name, argument.key = some name ∧ name ≠ key)
    (unknown : key ∉ names) :
    Parallels (fun values others => ∃ front back, values = front ++ back ∧
        others = front ++ (key, .null) :: back ∧ ∀ pair ∈ front, pair.1 ≠ key)
      (site.resolveNamed e names (before ++ after))
      (site.resolveNamed e names (before ++ ⟨some key, .null⟩ :: after)) := by
  induction before generalizing names with
  | nil =>
      -- Behind the null its name counts as given, which none of the others has.
      have notKey : ∀ argument ∈ after, argument.key ≠ some key := by
        intro argument member isKey
        obtain ⟨name, named, different⟩ := fresh argument member
        exact different (Option.some.inj (named.symm.trans isKey))
      have rest : site.resolveNamed e (key :: names) after = site.resolveNamed e names after :=
        resolveNamed_fresh notKey fun name different => by simp [different]
      rw [List.nil_append, List.nil_append, resolveNamed, if_neg unknown, resolve, rest]
      cases site.resolveNamed e names after with
      | error cause => exact .error cause
      | ok values => exact .ok ⟨[], values, rfl, rfl, List.forall_mem_nil _⟩
  | cons argument before ih =>
      obtain ⟨⟨name, named, different⟩, later⟩ := List.forall_mem_cons.mp fresh
      obtain ⟨_ | _, literal⟩ := argument
      · cases named
      cases named
      rw [List.cons_append, List.cons_append, resolveNamed, resolveNamed]
      split
      · exact .error _
      refine (Parallels.same _).bind fun value _ same => same ▸ ?_
      have unknown : key ∉ name :: names := by
        rw [List.mem_cons, not_or]
        exact ⟨Ne.symm different, unknown⟩
      refine (ih later unknown).bind ?_
      rintro _ _ ⟨front, back, rfl, rfl, apart⟩
      exact .ok ⟨(name, value) :: front, back, rfl, rfl, List.forall_mem_cons.mpr ⟨different, apart⟩⟩

theorem namedArguments_addsNull (name : e.name = f.name) (line : e.line = f.line)
    (adds : Argument.AddsNull schema e.arguments f.arguments) :
    (∀ argument ∈ e.arguments, argument.key.isSome) ∧
      (∀ argument ∈ f.arguments, argument.key.isSome) ∧
      Parallels schema.SeesAlike (site.namedArguments e) (site.namedArguments f) := by
  generalize given : e.arguments = first at adds ⊢
  generalize again : f.arguments = second at adds ⊢
  cases adds with
  | @null before after key declared fresh =>
      have named : ∀ argument ∈ before ++ after, argument.key.isSome := by
        intro argument member
        obtain ⟨name, named, -⟩ := fresh argument member
        rw [named]
        rfl
      have alsoNamed : ∀ argument ∈ before ++ ⟨some key, .null⟩ :: after, argument.key.isSome := by
        simp only [List.mem_append, List.mem_cons] at named ⊢
        rintro argument (front | rfl | back)
        · exact named argument (.inl front)
        · rfl
        · exact named argument (.inr back)
      refine ⟨named, alsoNamed, ?_⟩
      rw [namedArguments_of_named (by rwa [given]), namedArguments_of_named (by rwa [again]), given,
        again, ← site.resolveNamed_congr name line]
      refine (resolveNamed_null fresh List.not_mem_nil).mono ?_
      rintro _ _ ⟨front, back, rfl, rfl, apart⟩
      exact .null declared apart

/-- Nothing is seen of further arguments that are null, neither where all named arguments are asked
for nor in the attributes under the schema. -/
theorem reads_addsNulls (name : e.name = f.name) (line : e.line = f.line)
    (adds : Argument.AddsNulls schema e.arguments f.arguments) :
    Parallels schema.SeesAlike (site.namedArguments e) (site.namedArguments f) ∧
      Parallels Attributes.Agree (site.attributes schema textParam e)
        (site.attributes schema textParam f) := by
  obtain ⟨_, arguments, block, _⟩ := f
  cases name
  cases line
  dsimp only at adds
  induction adds with
  | refl =>
      have sameCall := site.call_withBlock e block
      rw [namedArguments, namedArguments, attributes, attributes, sameCall]
      exact ⟨.refl (.refl schema) _, .refl .refl _⟩
  | @tail middle last _ step ih =>
      obtain ⟨named, alsoNamed, parallel⟩ := @namedArguments_addsNull site schema
        ⟨e.name, middle, block, e.line⟩ ⟨e.name, last, block, e.line⟩ rfl rfl step
      refine ⟨ih.1.trans .trans parallel, ih.2.trans (fun a b name => (a name).trans (b name)) ?_⟩
      rw [attributes_of_named named, attributes_of_named alsoNamed]
      exact parallel.bind fun values others sees => sees.check _ _

end Site

end Migration
