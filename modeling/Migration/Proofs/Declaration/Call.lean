import Mathlib.Data.List.Nodup
import Mathlib.Data.List.Perm.Basic
import Migration.Declaration.Call
import Migration.Proofs.Schema
import Migration.Proofs.Script.Reordering

/-!
# Calls with reordered arguments

Where the named arguments of an element are reordered, its call is the same up to the order of the
values.  No two of them have the same name, and so nothing is seen of the order where the values are
looked up by their names.
-/

namespace Migration

/-! ## Named values -/

/-- Two searches that succeed alike both come to nothing or both to something. -/
theorem none_or_some_of_isSome_eq {α : Type} {first second : Option α}
    (same : first.isSome = second.isSome) :
    first = none ∧ second = none ∨ ∃ value other, first = some value ∧ second = some other := by
  cases first <;> cases second
  · exact .inl ⟨rfl, rfl⟩
  · cases same
  · cases same
  · exact .inr ⟨_, _, rfl, rfl⟩

/-- Whether values of different names are others in another order. -/
structure Call.Permutes (first second : List (String × Value)) : Prop where
  perm : first.Perm second
  distinct : (first.map (·.1)).Nodup

namespace Call.Permutes

variable {first second : List (String × Value)}

theorem any_eq (permutes : Permutes first second) (p : String × Value → Bool) :
    first.any p = second.any p :=
  permutes.perm.any_eq

theorem isSome_find? (permutes : Permutes first second) (p : String × Value → Bool) :
    (first.find? p).isSome = (second.find? p).isSome := by
  rw [Bool.eq_iff_iff, List.find?_isSome, List.find?_isSome]
  simp only [permutes.perm.mem_iff]

/-- A value is found by its name wherever it stands. -/
theorem find?_eq (permutes : Permutes first second) (name : String) :
    first.find? (·.1 = name) = second.find? (·.1 = name) := by
  rcases none_or_some_of_isSome_eq (permutes.isSome_find? fun pair => pair.1 = name) with
    ⟨found, again⟩ | ⟨pair, other, found, again⟩
  · rw [found, again]
  · have named : pair.1 = name := by simpa using List.find?_some found
    have alsoNamed : other.1 = name := by simpa using List.find?_some again
    have known := permutes.perm.mem_iff.mpr (List.mem_of_find?_eq_some again)
    have same := List.inj_on_of_nodup_map permutes.distinct (List.mem_of_find?_eq_some found) known
      (named.trans alsoNamed.symm)
    rw [found, again, same]

end Call.Permutes

/-- Whether a call is another one, apart from the order of named values. -/
inductive Call.Reorders : Call → Call → Prop
  | empty : Reorders .empty .empty
  | positional (values : List Value) : Reorders (.positional values) (.positional values)
  | named {first second : List (String × Value)} (permutes : Permutes first second) :
      Reorders (.named first) (.named second)

/-! ## Calls -/

/-- An argument that has a name, as a pair. -/
def Argument.named? (argument : Argument) : Option (String × Literal) :=
  argument.key.map fun key => (key, argument.value)

namespace Site

variable {site : Site} {e f : Element}

/-- Of an element, its arguments see the name and the line. -/
theorem resolveNamed_congr (site : Site) (name : e.name = f.name) (line : e.line = f.line)
    (before : List String) (arguments : List Argument) :
    site.resolveNamed e before arguments = site.resolveNamed f before arguments := by
  induction arguments generalizing before with
  | nil => rfl
  | cons argument arguments ih =>
      obtain ⟨_ | key, literal⟩ := argument
      · exact ih before
      · simp only [resolveNamed, ih, name, line]

theorem call_withBlock (site : Site) (e : Element) (block : Option (List (Item Element))) :
    site.call { e with block } = site.call e := by
  simp only [call, site.resolveNamed_congr (e := { e with block }) (f := e) rfl rfl]
  rfl

/-- Arguments that are all named are called by their names. -/
theorem call_of_named (named : ∀ argument ∈ e.arguments, argument.key.isSome)
    (some' : e.arguments ≠ []) :
    site.call e = (site.resolveNamed e [] e.arguments).map .named := by
  have nonempty : e.arguments.isEmpty = false := by simpa using some'
  have noneBare : e.hasPositional = false :=
    List.any_eq_false.mpr fun argument member => by
      rw [Option.isNone_iff_eq_none, ← ne_eq, ← Option.isSome_iff_ne_none]
      exact named argument member
  have hasNamed : e.hasNamed = true := by
    obtain ⟨argument, member⟩ := List.exists_mem_of_ne_nil _ some'
    exact List.any_eq_true.mpr ⟨argument, member, named argument member⟩
  simp only [call, nonempty, noneBare, hasNamed, Bool.false_and, Bool.false_eq_true, if_false,
    if_true]

/-- Whether a named value is what a named literal stands for. -/
def Gives (site : Site) (pair : String × Literal) (value : String × Value) : Prop :=
  pair.1 = value.1 ∧ site.resolve pair.2 = .ok value.2

/-- Named arguments are resolved if their names are different, also from those before, and each of
them has a value. -/
theorem resolveNamed_eq_ok {before : List String} {arguments : List Argument}
    {values : List (String × Value)} :
    site.resolveNamed e before arguments = .ok values ↔
      (∀ name ∈ values.map (·.1), name ∉ before) ∧ (values.map (·.1)).Nodup ∧
        List.Forall₂ site.Gives (arguments.filterMap Argument.named?) values := by
  induction arguments generalizing before values with
  | nil =>
      constructor
      · intro resolved
        cases resolved
        simp
      · rintro ⟨-, -, gives⟩
        cases gives
        rfl
  | cons argument arguments ih =>
      obtain ⟨_ | key, literal⟩ := argument
      · exact ih
      · have pairs : (⟨some key, literal⟩ :: arguments).filterMap Argument.named? =
            (key, literal) :: arguments.filterMap Argument.named? := rfl
        rw [pairs, resolveNamed]
        constructor
        · intro resolved
          split at resolved
          · cases resolved
          rename_i fresh
          obtain ⟨value, isValue, resolved⟩ := bind_eq_ok.mp resolved
          obtain ⟨rest, areValues, resolved⟩ := bind_eq_ok.mp resolved
          cases resolved
          obtain ⟨apart, distinct, gives⟩ := ih.mp areValues
          refine ⟨?_, ?_, .cons ⟨rfl, isValue⟩ gives⟩
          · rw [List.map_cons, List.forall_mem_cons]
            exact ⟨fresh, fun name member known => apart name member (List.mem_cons_of_mem _ known)⟩
          · rw [List.map_cons, List.nodup_cons]
            exact ⟨fun known => apart key known List.mem_cons_self, distinct⟩
        · rintro ⟨apart, distinct, gives⟩
          cases gives with
          | @cons _ value _ rest first gives =>
              obtain ⟨rfl, isValue⟩ := first
              rw [List.map_cons, List.forall_mem_cons] at apart
              rw [List.map_cons, List.nodup_cons] at distinct
              rw [if_neg apart.1]
              refine bind_eq_ok.mpr ⟨value.2, isValue, bind_eq_ok.mpr ⟨rest, ih.mpr ?_, rfl⟩⟩
              refine ⟨fun name member => ?_, distinct.2, gives⟩
              rw [List.mem_cons, not_or]
              exact ⟨fun same => distinct.1 (same ▸ member), apart.2 name member⟩

theorem resolveNamed_perm {first second : List Argument} (perm : first.Perm second)
    {values : List (String × Value)} (resolved : site.resolveNamed e [] first = .ok values) :
    ∃ others, site.resolveNamed f [] second = .ok others ∧ Call.Permutes values others := by
  obtain ⟨-, distinct, gives⟩ := resolveNamed_eq_ok.mp resolved
  obtain ⟨others, given, reordered⟩ :=
    List.perm_comp_forall₂ (perm.symm.filterMap Argument.named?) gives
  have names := (reordered.symm.map (·.1)).nodup distinct
  exact ⟨others, resolveNamed_eq_ok.mpr ⟨fun _ _ => List.not_mem_nil, names, given⟩,
    reordered.symm, distinct⟩

theorem resolveNamed_reorders {first second : List Argument}
    (reorders : Argument.Reorders first second) :
    Corresponds Call.Permutes (site.resolveNamed e [] first) (site.resolveNamed f [] second) := by
  cases resolved : site.resolveNamed e [] first with
  | ok values =>
      obtain ⟨others, again, permutes⟩ := resolveNamed_perm (f := f) reorders.perm resolved
      rw [again]
      exact .ok permutes
  | error error =>
      cases again : site.resolveNamed f [] second with
      | ok others =>
          obtain ⟨values, impossible, -⟩ := resolveNamed_perm (f := e) reorders.perm.symm again
          rw [impossible] at resolved
          cases resolved
      | error other => exact .error error other

theorem call_reorders (site : Site) (reorders : e.Reorders f) :
    Corresponds Call.Reorders (site.call e) (site.call f) := by
  have arguments := reorders.arguments
  have hasPositional : e.hasPositional = f.hasPositional := arguments.any_eq _
  have hasNamed : e.hasNamed = f.hasNamed := arguments.any_eq _
  unfold call
  rw [arguments.isEmpty_eq, hasPositional, hasNamed]
  split
  · exact .ok .empty
  split
  · exact .error _ _
  split
  · exact (resolveNamed_reorders arguments).map fun _ _ => .named
  · rename_i unnamed
    rw [← hasNamed, Bool.not_eq_true] at unnamed
    rw [arguments.eq_of_bare unnamed]
    cases site.resolveAll (f.arguments.map (·.value)) with
    | ok values => exact .ok (.positional values)
    | error error => exact .error error error

/-- An element that takes named arguments only has the same ones in another order. -/
theorem namedArguments_reorders (site : Site) (reorders : e.Reorders f) :
    Corresponds Call.Permutes (site.namedArguments e) (site.namedArguments f) := by
  refine (site.call_reorders reorders).bind fun first second called => ?_
  cases called with
  | empty => exact .ok ⟨.refl _, List.nodup_nil⟩
  | positional => exact .error _ _
  | named permutes => exact .ok permutes

/-- Texts that are given by names do not depend on the order. -/
theorem onlyNamed_reorders (site : Site) (e f : Element) (allowed : List String)
    {first second : List (String × Value)} (permutes : Call.Permutes first second) :
    Alike (site.onlyNamed e allowed first) (site.onlyNamed f allowed second) := by
  unfold onlyNamed
  simp only [permutes.find?_eq]
  rcases none_or_some_of_isSome_eq (permutes.isSome_find? fun argument => argument.1 ∉ allowed) with
    ⟨found, again⟩ | ⟨argument, other, found, again⟩
  · rw [found, again]
    exact .refl _
  · rw [found, again]
    exact .error _ _

end Site

end Migration
