import Migration.Proofs.Failure
import Migration.Proofs.NameMap
import Migration.Schema.Check

/-!
# Attributes of declared types

The attributes that a schema accepts are declared by it, with values of the declared types.
-/

namespace Migration

/-- A converted value is one of the type. -/
theorem ParamType.admits_of_convert? {type : ParamType} {value converted : Value}
    (found : type.convert? value = some converted) : type.admits converted := by
  have ofMap {α : Type} {read : Option α} {wrap : α → Value} (wraps : ∀ a, type.admits (wrap a))
      (found : read.map wrap = some converted) : type.admits converted := by
    obtain ⟨a, -, rfl⟩ := Option.map_eq_some_iff.mp found
    exact wraps a
  unfold ParamType.convert? at found
  split at found
  · cases found
    cases type <;> rfl
  · exact ofMap (fun _ => rfl) found
  · exact ofMap (fun _ => rfl) found
  · cases found
    rfl
  · exact ofMap (fun _ => rfl) found
  · exact ofMap (fun _ => rfl) found
  · cases found
  · cases found
    rfl
  · cases found
    rfl
  · unfold readNumber? at found
    dsimp only at found
    split at found
    · cases found
      rfl
    · exact ofMap (fun _ => rfl) found
  · cases found

theorem Param.admits_of_convert {param : Param} {value converted : Value}
    (accepted : param.convert value = .ok converted) : param.type.admits converted := by
  unfold Param.convert at accepted
  split at accepted
  · rename_i found
    cases accepted
    exact ParamType.admits_of_convert? found
  · cases accepted

namespace Schema

/-- Whether a schema declares all attributes of an element, with values of the declared types. -/
def Types (schema : Schema) (given : Attributes) : Prop :=
  ∀ entry ∈ given.entries, ∃ param, schema.find? entry.1 = some param ∧ param.type.admits entry.2

variable {schema : Schema} {given : Attributes}

theorem types_empty : schema.Types .empty := by
  intro entry member
  cases member

theorem Types.insert (types : schema.Types given) {name : String} {value : Value} {param : Param}
    (declared : schema.find? name = some param) (admits : param.type.admits value) :
    schema.Types (given.insert name value) := by
  intro entry member
  rcases NameMap.mem_insert member with rfl | before
  · exact ⟨param, declared, admits⟩
  · exact types entry before

theorem Types.erase (types : schema.Types given) (name : String) :
    schema.Types (given.erase name) :=
  fun entry member => types entry (NameMap.mem_erase member)

/-- What is found under a name is of the type that is declared for the name. -/
theorem Types.admits (types : schema.Types given) {name : String} {value : Value}
    (found : given.get? name = some value) :
    ∃ param, schema.find? name = some param ∧ param.type.admits value :=
  types _ (NameMap.mem_of_get? found)

theorem types_addArguments (types : schema.Types given) {element : String}
    {changeset : Option String} {arguments : List (String × Value)} {after : Attributes}
    (accepted : schema.addArguments element changeset given arguments = .ok after) :
    schema.Types after := by
  induction arguments generalizing given with
  | nil =>
      cases accepted
      exact types
  | cons argument arguments ih =>
      rw [addArguments] at accepted
      split at accepted
      · rename_i value converted
        unfold convert at converted
        split at converted
        · rename_i param declared
          exact ih (types.insert declared (Param.admits_of_convert converted)) accepted
        · cases converted
      · cases accepted

theorem types_check {element : String} {changeset : Option String}
    {arguments : List (String × Value)}
    (accepted : schema.check element changeset arguments = .ok given) : schema.Types given :=
  types_addArguments types_empty accepted

/-! ## Schemas with more parameters -/

variable {more : Schema} {element : String} {changeset : Option String}

theorem convert_append {argument : String × Value} {value : Value}
    (accepted : schema.convert element changeset argument = .ok value) :
    (schema ++ more).convert element changeset argument = .ok value := by
  unfold convert at accepted ⊢
  split at accepted
  · rename_i param declared
    have still : (schema ++ more).find? argument.1 = some param :=
      List.find?_append.trans (by rw [show List.find? _ schema = _ from declared]; rfl)
    rw [still]
    exact accepted
  · cases accepted

theorem addArguments_append {arguments : List (String × Value)} {after : Attributes}
    (accepted : schema.addArguments element changeset given arguments = .ok after) :
    (schema ++ more).addArguments element changeset given arguments = .ok after := by
  induction arguments generalizing given with
  | nil => exact accepted
  | cons argument arguments ih =>
      rw [addArguments] at accepted ⊢
      split at accepted
      · rename_i value converted
        rw [convert_append converted]
        exact ih accepted
      · cases accepted

/-- What a schema accepts is accepted with further parameters, as the same attributes. -/
theorem check_append {arguments : List (String × Value)}
    (accepted : schema.check element changeset arguments = .ok given) :
    (schema ++ more).check element changeset arguments = .ok given :=
  addArguments_append accepted

/-! ## Arguments in another order -/

theorem addArguments_cons (argument : String × Value) (arguments : List (String × Value)) :
    schema.addArguments element changeset given (argument :: arguments) =
      schema.convert element changeset argument >>= fun value =>
        schema.addArguments element changeset (given.insert argument.1 value) arguments := by
  rw [addArguments]
  cases schema.convert element changeset argument <;> rfl

theorem addArguments_perm {first second : List (String × Value)} (perm : first.Perm second)
    (distinct : (first.map (·.1)).Nodup) :
    Alike (schema.addArguments element changeset given first)
      (schema.addArguments element changeset given second) := by
  induction perm generalizing given with
  | nil => exact .refl _
  | cons argument _ ih =>
      rw [addArguments_cons, addArguments_cons]
      exact Alike.bind (.refl _) fun value => ih (List.nodup_cons.mp distinct).2
  | swap argument other arguments =>
      have different : other.1 ≠ argument.1 := fun same =>
        (List.nodup_cons.mp distinct).1
          (List.mem_map.mpr ⟨argument, List.mem_cons_self, same.symm⟩)
      intro result
      simp only [addArguments_cons, bind_eq_ok]
      constructor
      · rintro ⟨last, ofOther, value, ofArgument, added⟩
        rw [NameMap.insert_comm given different] at added
        exact ⟨value, ofArgument, last, ofOther, added⟩
      · rintro ⟨value, ofArgument, last, ofOther, added⟩
        rw [← NameMap.insert_comm given different] at added
        exact ⟨last, ofOther, value, ofArgument, added⟩
  | trans front _ ihFront ihBack =>
      intro result
      exact (ihFront distinct result).trans (ihBack ((front.map _).nodup distinct) result)

/-- A schema accepts arguments of different names in every order, as the same attributes. -/
theorem check_perm {first second : List (String × Value)} (perm : first.Perm second)
    (distinct : (first.map (·.1)).Nodup) :
    Alike (schema.check element changeset first) (schema.check element changeset second) :=
  addArguments_perm perm distinct

end Schema

end Migration
