import Migration.Proofs.Declaration.Call
import Migration.Proofs.Declaration.Change
import Migration.Proofs.Declaration.Parts

/-!
# What a call gives to a parameter

A call gives a parameter at most one literal: the one under its name, or a single bare value if this
stands for the parameter.  The attributes that an element has are the values of these literals,
converted to the types that the schema declares, and nothing else.
-/

namespace Migration

/-- The literal that a call gives to a parameter, where a single bare value stands for one of
them. -/
def Element.literal? (e : Element) (textParam : Option String) (name : String) : Option Literal :=
  match e.arguments with
  | [⟨none, literal⟩] => if textParam = some name then some literal else none
  | arguments => (arguments.find? fun argument => argument.key = some name).map (·.value)

/-- The value that a call gives to a parameter of a schema. -/
def Site.given? (site : Site) (schema : Schema) (textParam : Option String) (e : Element)
    (name : String) : Option Value := do
  let literal ← e.literal? textParam name
  let value ← (site.resolve literal).toOption
  let param ← schema.find? name
  param.type.convert? value

theorem Param.convert_eq_ok {param : Param} {value converted : Value} :
    param.convert value = .ok converted ↔ param.type.convert? value = some converted := by
  unfold convert
  split
  · rename_i found
    rw [found]
    exact ⟨fun same => congrArg some (Except.ok.inj same),
      fun same => congrArg Except.ok (Option.some.inj same)⟩
  · rename_i found
    rw [found]
    exact ⟨nofun, nofun⟩

namespace Schema

variable {schema : Schema} {element : String} {changeset : Option String}

theorem convert_eq_ok {argument : String × Value} {converted : Value} :
    schema.convert element changeset argument = .ok converted ↔
      ((schema.find? argument.1).bind fun param => param.type.convert? argument.2) =
        some converted := by
  unfold convert
  split
  · rename_i param declared
    rw [declared]
    exact Param.convert_eq_ok
  · rename_i undeclared
    rw [undeclared]
    exact ⟨nofun, nofun⟩

/-- Attributes that are added under different names are found under these. -/
theorem get?_addArguments {attributes after : Attributes} {arguments : List (String × Value)}
    (distinct : (arguments.map (·.1)).Nodup)
    (accepted : schema.addArguments element changeset attributes arguments = .ok after)
    (name : String) :
    after.get? name =
      match arguments.find? fun argument => argument.1 = name with
      | some argument => (schema.find? name).bind fun param => param.type.convert? argument.2
      | none => attributes.get? name := by
  induction arguments generalizing attributes with
  | nil =>
      cases accepted
      rfl
  | cons argument arguments ih =>
      obtain ⟨apart, distinct⟩ := List.nodup_cons.mp distinct
      rw [addArguments_cons] at accepted
      obtain ⟨value, converted, accepted⟩ := bind_eq_ok.mp accepted
      rw [ih distinct accepted]
      by_cases same : argument.1 = name
      · subst same
        have later : arguments.find? (fun other => other.1 = argument.1) = none :=
          List.find?_eq_none.mpr fun other member isSame =>
            apart (List.mem_map.mpr ⟨other, member, by simpa using isSame⟩)
        simp [later, convert_eq_ok.mp converted]
      · rw [List.find?_cons_of_neg (by simpa using same), NameMap.get?_insert, if_neg same]

end Schema

namespace Site

variable {site : Site} {schema : Schema} {textParam : Option String} {e : Element}

/-! ## Calls -/

theorem call_eq_named {values : List (String × Value)}
    (called : site.call e = .ok (.named values)) :
    (∀ argument ∈ e.arguments, argument.key.isSome) ∧
      site.resolveNamed e [] e.arguments = .ok values := by
  unfold call at called
  split at called
  · cases called
  split at called
  · cases called
  rename_i unmixed
  split at called
  · rename_i hasNamed
    obtain ⟨_, resolved, same⟩ := map_eq_ok.mp called
    cases same
    refine ⟨fun argument member => ?_, resolved⟩
    have noneBare : e.hasPositional = false := by simpa [hasNamed] using unmixed
    have notBare := List.any_eq_false.mp noneBare argument member
    rwa [Option.isNone_iff_eq_none, ← ne_eq, ← Option.isSome_iff_ne_none] at notBare
  · obtain ⟨_, -, impossible⟩ := map_eq_ok.mp called
    cases impossible

/-- Under a name stands the value of the literal that is written there. -/
theorem resolved_find? {arguments : List Argument} {values : List (String × Value)}
    (gives : List.Forall₂ site.Gives (arguments.filterMap Argument.named?) values)
    (name : String) :
    ((arguments.find? fun argument => argument.key = some name).bind fun argument =>
        (site.resolve argument.value).toOption) =
      (values.find? fun value => value.1 = name).map (·.2) := by
  induction arguments generalizing values with
  | nil =>
      cases gives
      rfl
  | cons argument arguments ih =>
      obtain ⟨_ | key, literal⟩ := argument
      · rw [List.find?_cons_of_neg (by simp)]
        exact ih gives
      · cases gives with
        | @cons _ value _ _ first gives =>
            obtain ⟨rfl, resolved⟩ := first
            by_cases same : value.1 = name
            · simp [same, resolved, Except.toOption]
            · rw [List.find?_cons_of_neg (by simpa using same),
                List.find?_cons_of_neg (by simpa using same)]
              exact ih gives

/-! ## What is given to a parameter -/

theorem given?_of_empty (bare : e.arguments = []) (name : String) :
    site.given? schema textParam e name = none := by
  simp [given?, Element.literal?, bare]

theorem given?_of_single {literal : Literal} {value : Value}
    (alone : e.arguments = [⟨none, literal⟩]) (resolved : site.resolve literal = .ok value)
    (name : String) :
    site.given? schema textParam e name =
      if textParam = some name then
        (schema.find? name).bind fun param => param.type.convert? value
      else none := by
  simp only [given?, Element.literal?, alone]
  split
  · simp [resolved, Except.toOption]
  · rfl

theorem given?_of_named {values : List (String × Value)}
    (called : site.call e = .ok (.named values)) (name : String) :
    site.given? schema textParam e name =
      (values.find? fun value => value.1 = name).bind fun value =>
        (schema.find? name).bind fun param => param.type.convert? value.2 := by
  obtain ⟨allNamed, resolved⟩ := call_eq_named called
  obtain ⟨-, -, gives⟩ := resolveNamed_eq_ok.mp resolved
  have written : e.literal? textParam name =
      (e.arguments.find? fun argument => argument.key = some name).map (·.value) := by
    unfold Element.literal?
    split
    · rename_i literal alone
      exact absurd (allNamed ⟨none, literal⟩ (alone ▸ List.mem_singleton_self _)) (by simp)
    · rfl
  have found := resolved_find? gives name
  let convert (value : Value) := (schema.find? name).bind fun param => param.type.convert? value
  calc site.given? schema textParam e name
      = ((e.arguments.find? fun argument => argument.key = some name).bind fun argument =>
          (site.resolve argument.value).toOption).bind convert := by
        rw [given?, written]
        cases e.arguments.find? fun argument => argument.key = some name <;> rfl
    _ = (values.find? fun value => value.1 = name).bind fun value => convert value.2 := by
        rw [found]
        cases values.find? fun value => value.1 = name <;> rfl

/-- Named arguments that a schema accepts are what the call gives to its parameters. -/
theorem get?_of_named {values : List (String × Value)} {element : String}
    {changeset : Option String} {given : Attributes}
    (called : site.call e = .ok (.named values))
    (checked : schema.check element changeset values = .ok given) (name : String) :
    given.get? name = site.given? schema textParam e name := by
  obtain ⟨-, resolved⟩ := call_eq_named called
  obtain ⟨-, distinct, -⟩ := resolveNamed_eq_ok.mp resolved
  rw [given?_of_named called, Schema.get?_addArguments distinct checked]
  cases found : values.find? fun value => value.1 = name <;> rfl

/-- The attributes that an element has are what its call gives to them. -/
theorem get?_attributes {given : Attributes}
    (read : site.attributes schema textParam e = .ok given) (name : String) :
    given.get? name = site.given? schema textParam e name := by
  obtain ⟨call, called, read⟩ := bind_eq_ok.mp read
  split at read
  · cases read
    rw [given?_of_empty (call_eq_empty called)]
    rfl
  · exact get?_of_named called read name
  · rename_i value key _
    obtain ⟨literal, alone, resolved⟩ := call_eq_single called
    rw [given?_of_single alone resolved, Schema.get?_addArguments (by simp) read]
    by_cases same : key = name
    · simp [same]
    · simp [same, NameMap.get?_empty]
  · cases read

end Site

namespace Change

/-- The parameters that a change has without its block are what its call gives to them. -/
theorem get?_ofCall {site : Site} {kind : ChangeKind} {e : Element} {called : Change}
    (read : ofCall site kind e = .ok called) (name : String) :
    called.params.get? name = site.given? kind.params kind.textParam e name := by
  obtain ⟨call, isCalled, read⟩ := bind_eq_ok.mp read
  split at read
  · cases read
    rw [Site.given?_of_empty (Site.call_eq_empty isCalled)]
    rfl
  · obtain ⟨given, checked, read⟩ := bind_eq_ok.mp read
    cases read
    exact Site.get?_of_named isCalled checked name
  · split at read
    · rename_i param value standsFor
      obtain ⟨converted, accepted, read⟩ := bind_eq_ok.mp read
      cases read
      obtain ⟨key, isKey, declared⟩ := Option.bind_eq_some_iff.mp standsFor
      obtain ⟨literal, alone, resolved⟩ := Site.call_eq_single isCalled
      obtain rfl := Schema.find?_name declared
      rw [Site.given?_of_single alone resolved, isKey]
      by_cases same : param.name = name
      · subst same
        simp [NameMap.ofList, NameMap.get?_insert, declared, Param.convert_eq_ok.mp accepted]
      · simp [NameMap.ofList, NameMap.get?_insert, same]
    · cases read

end Change

end Migration
