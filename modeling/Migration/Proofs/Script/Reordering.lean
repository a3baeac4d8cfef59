import Mathlib.Data.List.Forall2
import Migration.Proofs.Failure
import Migration.Script.Grammar

/-!
# Scripts with reordered arguments

Two scripts differ by the order of named arguments alone if they have the same elements, and the
arguments of each element of the one are those of the other in some order, in which the bare values
stay one behind the other.  On which lines the elements stand does not matter.
-/

namespace Migration

/-- Whether arguments are others in another order, which keeps that of bare values. -/
structure Argument.Reorders (first second : List Argument) : Prop where
  perm : first.Perm second
  positional : first.filter (·.key.isNone) = second.filter (·.key.isNone)

mutual
/-- Whether an element is another one, apart from the order of named arguments at any depth. -/
inductive Element.Reorders : Element → Element → Prop
  | bare {name : String} {first second : List Argument} {line other : Nat}
      (arguments : Argument.Reorders first second) :
      Element.Reorders ⟨name, first, none, line⟩ ⟨name, second, none, other⟩
  | block {name : String} {first second : List Argument} {xs ys : List (Item Element)}
      {line other : Nat} (arguments : Argument.Reorders first second)
      (items : List.Forall₂ Item.Reorders xs ys) :
      Element.Reorders ⟨name, first, some xs, line⟩ ⟨name, second, some ys, other⟩

inductive Item.Reorders : Item Element → Item Element → Prop
  | text (s : String) : Item.Reorders (.text s) (.text s)
  | element {e f : Element} (reorders : Element.Reorders e f) :
      Item.Reorders (.element e) (.element f)
end

/-- Whether a script is another one, apart from the order of named arguments. -/
def Script.Reorders (script other : Script) : Prop :=
  List.Forall₂ Element.Reorders script.elements other.elements

/-- Whether two texts are scripts that differ by the order of named arguments alone, or no scripts
at all. -/
def Script.TextsReorder (text other : String) : Prop :=
  Corresponds Script.Reorders (Script.parse text) (Script.parse other)

theorem Argument.Reorders.refl (arguments : List Argument) : Reorders arguments arguments :=
  ⟨.refl _, rfl⟩

namespace Argument.Reorders

variable {first second : List Argument}

theorem isEmpty_eq (reorders : Reorders first second) : first.isEmpty = second.isEmpty := by
  rw [Bool.eq_iff_iff, List.isEmpty_iff, List.isEmpty_iff]
  constructor
  · rintro rfl
    exact reorders.perm.nil_eq.symm
  · rintro rfl
    exact reorders.perm.eq_nil

theorem any_eq (reorders : Reorders first second) (p : Argument → Bool) :
    first.any p = second.any p :=
  reorders.perm.any_eq

/-- Arguments without names keep their order. -/
theorem eq_of_bare (reorders : Reorders first second)
    (bare : first.any (·.key.isSome) = false) : first = second := by
  have all {arguments : List Argument} (bare : arguments.any (·.key.isSome) = false) :
      arguments.filter (·.key.isNone) = arguments := by
    rw [List.filter_eq_self]
    intro argument member
    have unnamed := List.any_eq_false.mp bare argument member
    simpa using unnamed
  rw [← all bare, reorders.positional, all (reorders.any_eq _ ▸ bare)]

end Argument.Reorders

/-! ## Elements -/

mutual
theorem Element.Reorders.refl : ∀ e : Element, e.Reorders e
  | ⟨_, arguments, none, _⟩ => .bare (.refl arguments)
  | ⟨_, arguments, some items, _⟩ => .block (.refl arguments) (reorders_items items)

theorem reorders_items : ∀ items : List (Item Element), List.Forall₂ Item.Reorders items items
  | [] => .nil
  | .text s :: items => .cons (.text s) (reorders_items items)
  | .element e :: items => .cons (.element (Element.Reorders.refl e)) (reorders_items items)
end

theorem Item.Reorders.refl : ∀ item : Item Element, item.Reorders item
  | .text s => .text s
  | .element e => .element (.refl e)

namespace Element.Reorders

variable {e f : Element}

theorem name_eq (reorders : e.Reorders f) : e.name = f.name := by
  cases reorders <;> rfl

theorem arguments (reorders : e.Reorders f) : Argument.Reorders e.arguments f.arguments := by
  cases reorders <;> assumption

theorem isSome_block (reorders : e.Reorders f) : e.block.isSome = f.block.isSome := by
  cases reorders <;> rfl

theorem items (reorders : e.Reorders f) : List.Forall₂ Item.Reorders e.items f.items := by
  cases reorders with
  | bare => exact .nil
  | block _ items => exact items

end Element.Reorders

/-- Steps over items that are reordered succeed alike if each of them does. -/
theorem Alike.foldlM {Cause α : Type}
    {step other : α → Item Element → Except Cause α}
    (each : ∀ before {item reordered : Item Element}, item.Reorders reordered →
      Alike (step before item) (other before reordered)) {xs ys : List (Item Element)}
    (reorders : List.Forall₂ Item.Reorders xs ys) (start : α) :
    Alike (xs.foldlM step start) (ys.foldlM other start) := by
  induction reorders generalizing start with
  | nil => exact .refl _
  | cons first _ ih =>
      rw [List.foldlM_cons, List.foldlM_cons]
      exact (each start first).bind ih

theorem Script.TextsReorder.refl (text : String) : Script.TextsReorder text text :=
  Alike.corresponds (.refl _) fun _ => List.forall₂_same.mpr fun e _ => .refl e

end Migration
