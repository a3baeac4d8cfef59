import Mathlib.Algebra.Order.BigOperators.Group.List
import Mathlib.Algebra.Order.Group.Nat
import Mathlib.Data.List.Chain
import Mathlib.Logic.Relation
import Migration.Proofs.Property.Piece
import Migration.Proofs.Property.Sight

/-!
# Tokens replaced one at a time

A token whose name has a value may be replaced by it, one such token after the other.  Where no value
has a dollar sign, each replacement takes one away, and two replacements in one text can be made in
either order.  The main statement, `expand_is_only_normal_form`, says that in whatever order tokens are
replaced, this ends in the expansion of the text.
-/

namespace Migration

namespace Property

/-- Whether a text becomes another one when one token whose name has a value is replaced by it. -/
inductive Replaces (value? : String → Option String) : List Char → List Char → Prop
  | here (front : List Char) {name : List Char} (back : List Char) {value : String}
      (isName : IsTokenName name) (known : value? (key name) = some value) :
      Replaces value? (front ++ ((Piece.token name).source ++ back)) (front ++ (value.toList ++ back))

/-- Whether no token whose name has a value stands in a text. -/
def IsNormal (value? : String → Option String) (s : List Char) : Prop :=
  ∀ name, IsTokenName name → (Piece.token name).source <:+: s → value? (key name) = none

variable {value? : String → Option String} {s t u : List Char}

/-- A text is normal exactly if nothing in it can be replaced. -/
theorem isNormal_iff : IsNormal value? s ↔ ∀ t, ¬ Replaces value? s t := by
  constructor
  · rintro normal t ⟨front, back, isName, known⟩
    rw [normal _ isName ⟨front, back, List.append_assoc _ _ _⟩] at known
    cases known
  · rintro final name isName ⟨front, back, rfl⟩
    cases known : value? (key name) with
    | none => rfl
    | some value =>
        rw [List.append_assoc] at final
        exact absurd (.here front back isName known) (final _)

/-- A normal text stays as it is. -/
theorem IsNormal.substitute_eq (normal : IsNormal value? s) : substitute value? s = s := by
  refine substitute_eq_self fun name member => ?_
  have inside : (Piece.token name).source <:+: s := source_infix member
  exact normal name (isTokenName_of_mem_pieces member) inside

/-! ## The order of replacements -/

/-- Of two replacements in a text, each can be made after the other, unless they are the same one. -/
theorem Replaces.diamond (first : Replaces value? s t) (second : Replaces value? s u) :
    t = u ∨ ∃ last, Replaces value? t last ∧ Replaces value? u last := by
  -- The token with the name `other` stands behind the one with the name `name`.
  have apart (front middle back : List Char) {name other : List Char} {value another : String}
      (isName : IsTokenName name) (isOther : IsTokenName other)
      (known : value? (key name) = some value) (alsoKnown : value? (key other) = some another) :
      ∃ last,
        Replaces value? (front ++ (value.toList ++ (middle ++ ((Piece.token other).source ++ back))))
          last ∧
        Replaces value? (front ++ ((Piece.token name).source ++ middle) ++ (another.toList ++ back))
          last := by
    refine ⟨front ++ (value.toList ++ (middle ++ (another.toList ++ back))), ?_, ?_⟩
    · simpa using Replaces.here (front ++ (value.toList ++ middle)) back isOther alsoKnown
    · simpa using Replaces.here front (middle ++ (another.toList ++ back)) isName known
  obtain ⟨front, back, isName, known⟩ := first
  generalize whole : front ++ _ = s at second
  obtain ⟨before, after, isOther, alsoKnown⟩ := second
  rcases eq_or_behind isName isOther whole with ⟨rfl, rfl, rfl⟩ | ⟨middle, rfl, rfl⟩ | ⟨middle, rfl, rfl⟩
  · cases known.symm.trans alsoKnown
    exact .inl rfl
  · exact .inr (apart front middle after isName isOther known alsoKnown)
  · obtain ⟨last, one, other⟩ := apart before middle back isOther isName alsoKnown known
    exact .inr ⟨last, other, one⟩

/-- In whatever order replacements are made, a normal text to which they lead is the same. -/
theorem eq_of_replacements (first : Relation.ReflTransGen (Replaces value?) s t)
    (second : Relation.ReflTransGen (Replaces value?) s u) (normal : IsNormal value? t)
    (alsoNormal : IsNormal value? u) : t = u := by
  have stays {t u : List Char} (normal : IsNormal value? t)
      (replacements : Relation.ReflTransGen (Replaces value?) t u) : u = t := by
    rcases replacements.cases_head with same | ⟨next, step, -⟩
    · exact same.symm
    · exact absurd step (isNormal_iff.mp normal next)
  have joins : Relation.Join (Relation.ReflTransGen (Replaces value?)) t u := by
    refine Relation.church_rosser (fun _ _ _ left right => ?_) first second
    rcases left.diamond right with rfl | ⟨last, one, other⟩
    · exact ⟨_, .refl, .refl⟩
    · exact ⟨last, .single one, .single other⟩
  obtain ⟨last, one, other⟩ := joins
  rw [← stays normal one, stays alsoNormal other]

/-- A pass makes replacements, one after the other from left to right. -/
theorem replacements_substitute (value? : String → Option String) (s : List Char) :
    Relation.ReflTransGen (Replaces value?) s (substitute value? s) := by
  have leftToRight (parts : List Piece) (names : ∀ name, .token name ∈ parts → IsTokenName name)
      (done : List Char) : Relation.ReflTransGen (Replaces value?)
        (done ++ parts.flatMap Piece.source) (done ++ parts.flatMap (Piece.substitute value?)) := by
    induction parts generalizing done with
    | nil => exact .refl
    | cons part parts ih =>
        have rest := ih (fun name member => names name (List.mem_cons_of_mem _ member))
          (done ++ part.substitute value?)
        simp only [List.append_assoc] at rest
        rw [List.flatMap_cons, List.flatMap_cons]
        refine .trans ?_ rest
        cases part with
        | plain c => exact .refl
        | token name =>
            rw [Piece.substitute]
            split
            · rename_i value known
              exact .single (.here done _ (names name List.mem_cons_self) known)
            · exact .refl
  have whole := leftToRight (pieces s) (fun name => isTokenName_of_mem_pieces) []
  rwa [flatMap_source_pieces] at whole

theorem replacements_iterate (passes : Nat) :
    Relation.ReflTransGen (Replaces value?) s ((substitute value?)^[passes] s) := by
  induction passes generalizing s with
  | zero => exact .refl
  | succ passes ih => exact (replacements_substitute value? s).trans ih

/-! ## The number of replacements -/

theorem count_source_pos (name : List Char) : 0 < (Piece.token name).source.count '$' :=
  List.count_pos_iff.mpr List.mem_cons_self

/-- Each replacement takes a dollar sign away. -/
theorem Replaces.count_lt (values : ∀ name value, value? name = some value → '$' ∉ value.toList)
    (replaces : Replaces value? s t) : t.count '$' < s.count '$' := by
  obtain @⟨front, name, back, value, isName, known⟩ := replaces
  have none := List.count_eq_zero_of_not_mem (values _ _ known)
  have pos := count_source_pos name
  simp only [List.count_append]
  omega

theorem length_le_count (values : ∀ name value, value? name = some value → '$' ∉ value.toList)
    {texts : List (List Char)} (replacements : List.IsChain (Replaces value?) (s :: texts)) :
    texts.length ≤ s.count '$' := by
  induction texts generalizing s with
  | nil => exact Nat.zero_le _
  | cons t texts ih =>
      obtain ⟨first, rest⟩ := List.isChain_cons_cons.mp replacements
      have less := first.count_lt values
      have le := ih rest
      rw [List.length_cons]
      omega

/-- A pass takes a dollar sign away from a text that is not normal. -/
theorem isNormal_or_count_lt
    (values : ∀ name value, value? name = some value → '$' ∉ value.toList) (s : List Char) :
    IsNormal value? s ∨ (substitute value? s).count '$' < s.count '$' := by
  by_cases normal : IsNormal value? s
  · exact .inl normal
  · refine .inr ?_
    unfold IsNormal at normal
    push Not at normal
    obtain ⟨name, isName, inside, isKnown⟩ := normal
    obtain ⟨value, known⟩ := Option.ne_none_iff_exists'.mp isKnown
    have le (part : Piece) : (part.substitute value?).count '$' ≤ part.source.count '$' := by
      cases part with
      | plain c => exact le_rfl
      | token other =>
          rw [Piece.substitute]
          split
          · rename_i value known
            rw [List.count_eq_zero_of_not_mem (values _ _ known)]
            exact Nat.zero_le _
          · exact le_rfl
    have lt : ((Piece.token name).substitute value?).count '$' <
        (Piece.token name).source.count '$' := by
      rw [Piece.substitute, known, List.count_eq_zero_of_not_mem (values _ _ known)]
      exact count_source_pos name
    calc (substitute value? s).count '$'
        = ((pieces s).map fun part => (part.substitute value?).count '$').sum :=
          List.count_flatMap
      _ < ((pieces s).map fun part => part.source.count '$').sum :=
          List.sum_lt_sum _ _ (fun part _ => le part) ⟨_, mem_pieces_of_infix isName inside, lt⟩
      _ = ((pieces s).flatMap Piece.source).count '$' := List.count_flatMap.symm
      _ = s.count '$' := by rw [flatMap_source_pieces]

/-- As many passes as a text has dollar signs make it normal. -/
theorem isNormal_iterate (values : ∀ name value, value? name = some value → '$' ∉ value.toList)
    {passes : Nat} (enough : s.count '$' ≤ passes) :
    IsNormal value? ((substitute value?)^[passes] s) := by
  induction passes generalizing s with
  | zero =>
      rintro name isName inside
      have none := List.count_eq_zero.mp (Nat.le_zero.mp enough)
      exact absurd (inside.subset List.mem_cons_self) none
  | succ passes ih =>
      -- A pass changes nothing any more, or the others have fewer dollar signs to take away.
      rcases isNormal_or_count_lt values s with normal | less
      · rw [Function.iterate_fixed normal.substitute_eq]
        exact normal
      · rw [Function.iterate_succ_apply]
        exact ih (by omega)

end Property

namespace PropertyTable

open Property

/-- Where no value has a dollar sign and a text has no more of them than there are passes, no token
with a value stands in the expansion of the text, which is its own expansion.  Tokens with values can
be replaced in it one at a time, and in whatever order this is done, it ends, and the text in which no
such token is left is the expansion. -/
theorem expand_is_only_normal_form (table : PropertyTable) (changelog text : String)
    (values : ∀ name value, table.resolve name changelog = some value → '$' ∉ value.toList)
    (enough : text.toList.count '$' ≤ table.passes) :
    let value? := fun name => table.resolve name changelog
    let result := table.expand text changelog
    IsNormal value? result.toList ∧ table.expand result changelog = result ∧
      Relation.ReflTransGen (Replaces value?) text.toList result.toList ∧
      (∀ texts, List.IsChain (Replaces value?) (text.toList :: texts) →
        texts.length ≤ text.toList.count '$') ∧
      ∀ last, Relation.ReflTransGen (Replaces value?) text.toList last → IsNormal value? last →
        last = result.toList := by
  intro value? result
  have normal : IsNormal value? result.toList := by
    rw [toList_expand]
    exact isNormal_iterate values enough
  have reached : Relation.ReflTransGen (Replaces value?) text.toList result.toList := by
    rw [toList_expand]
    exact replacements_iterate table.passes
  have fixed : table.expand result changelog = result := by
    rw [expand, substituteUpTo_eq_iterate, Function.iterate_fixed normal.substitute_eq,
      String.ofList_toList]
  exact ⟨normal, fixed, reached, fun texts => length_le_count values,
    fun last replacements isLast => eq_of_replacements replacements reached isLast normal⟩

/-! ## Tokens that come about -/

/-- A table whose values make new tokens of the texts around them. -/
def joiningTable : PropertyTable where
  entries := [
    { name := "env", value := "prod", changelog := "a" },
    { name := "db_prod", value := "main", changelog := "a" },
    { name := "empty", value := "", changelog := "a" }]

/-- A text with a token inside of another one, a token between a dollar sign and braces, and a token
without a value. -/
def joinedText : String :=
  "${db_${env}} $${empty}{env} ${no}"

/-- However its tokens are replaced, the text becomes this one. -/
theorem expand_joinedText :
    (∀ name value, joiningTable.resolve name "a" = some value → '$' ∉ value.toList) ∧
    joinedText.toList.count '$' ≤ joiningTable.passes ∧
    joiningTable.expand joinedText "a" = "main prod ${no}" ∧
    ∀ last,
      Relation.ReflTransGen (Replaces fun name => joiningTable.resolve name "a") joinedText.toList
        last →
      IsNormal (fun name => joiningTable.resolve name "a") last →
      last = "main prod ${no}".toList := by
  have values : ∀ name value, joiningTable.resolve name "a" = some value → '$' ∉ value.toList := by
    intro name value known
    obtain ⟨entry, member, -, rfl⟩ := exists_entry_of_resolve known
    have none : ∀ entry ∈ joiningTable.entries, '$' ∉ entry.value.toList := by decide
    exact none entry member
  have enough : joinedText.toList.count '$' ≤ joiningTable.passes := by decide
  have result : joiningTable.expand joinedText "a" = "main prod ${no}" := by decide +kernel
  obtain ⟨-, -, -, -, only⟩ := expand_is_only_normal_form joiningTable "a" joinedText values enough
  rw [result] at only
  exact ⟨values, enough, result, only⟩

end PropertyTable

end Migration
