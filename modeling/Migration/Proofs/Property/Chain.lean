import Migration.Proofs.Property.Piece
import Migration.Proofs.Property.Sight

/-!
# Chains of properties

The values of properties may hold tokens, whose values hold tokens again.  Where the names have ranks
that fall along such chains, a text is substituted in full when every token in it gives way to its
value, in which the same is done.  The main statement, `expand_of_ranked`, says that as many passes as
the greatest rank needs do this.
-/

namespace Migration

namespace Property

/-- Whether some pieces are substituted in full by others: every token whose name has a value gives way
to the pieces of the value, substituted in full, and all other pieces stay where they are. -/
inductive SubstitutesFully (value? : String → Option String) : List Piece → List Piece → Prop
  | nil : SubstitutesFully value? [] []
  | plain (c : Char) {parts result : List Piece} (rest : SubstitutesFully value? parts result) :
      SubstitutesFully value? (.plain c :: parts) (.plain c :: result)
  | unknown {name : List Char} {parts result : List Piece} (unknown : value? (key name) = none)
      (rest : SubstitutesFully value? parts result) :
      SubstitutesFully value? (.token name :: parts) (.token name :: result)
  | known {name : List Char} {value : String} {inner inside parts result : List Piece}
      (known : value? (key name) = some value) (made : IsMadeOf value.toList inner)
      (within : SubstitutesFully value? inner inside) (rest : SubstitutesFully value? parts result) :
      SubstitutesFully value? (.token name :: parts) (inside ++ result)

namespace SubstitutesFully

variable {value? : String → Option String} {parts others result other : List Piece}

/-- There is one result only. -/
theorem unique (first : SubstitutesFully value? parts result)
    (second : SubstitutesFully value? parts other) : result = other := by
  induction first generalizing other with
  | nil =>
      cases second
      rfl
  | plain c _ ih =>
      cases second with
      | plain _ rest => rw [ih rest]
  | unknown none _ ih =>
      cases second with
      | unknown _ rest => rw [ih rest]
      | known some => cases none.symm.trans some
  | known some made _ _ within ih =>
      cases second with
      | unknown none => cases none.symm.trans some
      | known same alsoMade inside rest =>
          cases some.symm.trans same
          obtain rfl := made.pieces_eq.symm.trans alsoMade.pieces_eq
          rw [within inside, ih rest]

/-- What is substituted in full as a whole is so in its parts. -/
theorem split (whole : SubstitutesFully value? (parts ++ others) result) :
    ∃ first second, result = first ++ second ∧ SubstitutesFully value? parts first ∧
      SubstitutesFully value? others second := by
  induction parts generalizing result with
  | nil => exact ⟨[], result, rfl, .nil, whole⟩
  | cons part parts ih =>
      cases whole with
      | plain c rest =>
          obtain ⟨first, second, rfl, front, back⟩ := ih rest
          exact ⟨.plain c :: first, second, rfl, .plain c front, back⟩
      | unknown none rest =>
          obtain ⟨first, second, rfl, front, back⟩ := ih rest
          exact ⟨_ :: first, second, rfl, .unknown none front, back⟩
      | @known _ _ _ inside _ _ some made within rest =>
          obtain ⟨first, second, rfl, front, back⟩ := ih rest
          exact ⟨inside ++ first, second, (List.append_assoc _ _ _).symm,
            .known some made within front, back⟩

/-- Pieces without tokens that have values stay as they are. -/
theorem self (unknown : ∀ name, .token name ∈ parts → value? (key name) = none) :
    SubstitutesFully value? parts parts := by
  induction parts with
  | nil => exact .nil
  | cons part parts ih =>
      have rest := ih fun name member => unknown name (List.mem_cons_of_mem _ member)
      cases part with
      | plain c => exact .plain c rest
      | token name => exact .unknown (unknown name List.mem_cons_self) rest

end SubstitutesFully

/-! ## Passes over pieces -/

/-- The pieces that take the place of a piece in one pass. -/
def Piece.expanded (value? : String → Option String) : Piece → List Piece
  | .plain c => [.plain c]
  | .token name =>
      match value? (key name) with
      | some value => pieces value.toList
      | none => [.token name]

variable {value? : String → Option String} {s : List Char} {parts result : List Piece}

/-- A pass over a text that is made of pieces is one over the pieces. -/
theorem IsMadeOf.substitute
    (values : ∀ name value, value? name = some value → ∃ inner, IsMadeOf value.toList inner)
    (made : IsMadeOf s parts) :
    IsMadeOf (Property.substitute value? s) (parts.flatMap (Piece.expanded value?)) := by
  rw [Property.substitute, made.pieces_eq]
  have sound := made.sound
  clear made
  induction parts with
  | nil => exact ⟨List.forall_mem_nil _, rfl⟩
  | cons part parts ih =>
      obtain ⟨here, rest⟩ := List.forall_mem_cons.mp sound
      rw [List.flatMap_cons, List.flatMap_cons]
      refine .append ?_ (ih rest)
      have itself : IsMadeOf part.source [part] := ⟨by simpa using here, by simp⟩
      cases part with
      | plain c => exact itself
      | token name =>
          simp only [Piece.substitute, Piece.expanded]
          cases known : value? (key name) with
          | none => exact itself
          | some value =>
              obtain ⟨inner, isInner⟩ := values _ value known
              dsimp only
              rw [isInner.pieces_eq]
              exact isInner

/-- What is substituted in full after a pass is so before it. -/
theorem SubstitutesFully.of_expanded
    (values : ∀ name value, value? name = some value → ∃ inner, IsMadeOf value.toList inner)
    (after : SubstitutesFully value? (parts.flatMap (Piece.expanded value?)) result) :
    SubstitutesFully value? parts result := by
  induction parts generalizing result with
  | nil => exact after
  | cons part parts ih =>
      rw [List.flatMap_cons] at after
      obtain ⟨first, second, rfl, here, rest⟩ := after.split
      cases part with
      | plain c =>
          cases here with
          | plain _ done =>
              cases done
              exact .plain c (ih rest)
      | token name =>
          rw [Piece.expanded] at here
          split at here
          · rename_i value known
            obtain ⟨inner, isInner⟩ := values _ value known
            exact .known known (isInner.pieces_eq ▸ isInner) here (ih rest)
          · rename_i none
            rw [SubstitutesFully.unique here (.unknown none .nil)]
            exact .unknown none (ih rest)

/-! ## Ranks -/

/-- Whether the names of the tokens among some pieces that have values have ranks below a bound. -/
def IsBelow (value? : String → Option String) (rank : String → Nat) (bound : Nat)
    (parts : List Piece) : Prop :=
  ∀ name, .token name ∈ parts → value? (key name) ≠ none → rank (key name) < bound

variable {rank : String → Nat}

/-- A pass lowers the ranks. -/
theorem IsBelow.expanded {bound : Nat}
    (falls : ∀ name value, value? name = some value → ∃ inner, IsMadeOf value.toList inner ∧
      ∀ token, .token token ∈ inner → rank (key token) < rank name)
    (below : IsBelow value? rank (bound + 1) parts) :
    IsBelow value? rank bound (parts.flatMap (Piece.expanded value?)) := by
  intro token member isKnown
  obtain ⟨part, isPart, inside⟩ := List.mem_flatMap.mp member
  cases part with
  | plain c => cases List.mem_singleton.mp inside
  | token name =>
      rw [Piece.expanded] at inside
      split at inside
      · rename_i value known
        obtain ⟨inner, isInner, lower⟩ := falls _ value known
        rw [isInner.pieces_eq] at inside
        have high := below name isPart (by simp [known])
        have low := lower token inside
        omega
      · rename_i none
        cases List.mem_singleton.mp inside
        exact absurd none isKnown

/-- As many passes as there are ranks substitute a text in full. -/
theorem substitutesFully_iterate
    (falls : ∀ name value, value? name = some value → ∃ inner, IsMadeOf value.toList inner ∧
      ∀ token, .token token ∈ inner → rank (key token) < rank name)
    {bound passes : Nat} (below : IsBelow value? rank bound parts) (enough : bound ≤ passes)
    (made : IsMadeOf s parts) :
    ∃ result, IsMadeOf ((substitute value?)^[passes] s) result ∧
      SubstitutesFully value? parts result ∧
      ∀ name, .token name ∈ result → value? (key name) = none := by
  have values name value (known : value? name = some value) :
      ∃ inner, IsMadeOf value.toList inner :=
    (falls name value known).imp fun _ inner => inner.1
  -- Each pass leaves one rank less, and what later passes do to its pieces substitutes it in full.
  induction bound generalizing s parts passes with
  | zero =>
      have unknown : ∀ name, .token name ∈ parts → value? (key name) = none := by
        intro name member
        by_contra isKnown
        exact Nat.not_lt_zero _ (below name member isKnown)
      have fixed : substitute value? s = s := by
        refine substitute_eq_self fun name member => unknown name ?_
        rwa [made.pieces_eq] at member
      exact ⟨parts, by rwa [Function.iterate_fixed fixed], .self unknown, unknown⟩
  | succ bound ih =>
      obtain ⟨passes, rfl⟩ : ∃ fewer, passes = fewer + 1 := ⟨passes - 1, by omega⟩
      obtain ⟨result, isResult, fully, unknown⟩ :=
        ih (below.expanded falls) (Nat.le_of_succ_le_succ enough) (made.substitute values)
      exact ⟨result, isResult, fully.of_expanded values, unknown⟩

end Property

namespace PropertyTable

open Property

/-- Where values and a text are made of plain characters and tokens, the ranks of the tokens in the
value of a name are below that of the name, and those of the tokens in the text are below the number of
passes, the expansion of the text is the text substituted in full: each token that has a value has
given way to it, again and again, and the others have stayed. -/
theorem expand_of_ranked (table : PropertyTable) (changelog text : String) (parts : List Piece)
    (rank : String → Nat)
    (falls : ∀ name value, table.resolve name changelog = some value →
      ∃ inner, IsMadeOf value.toList inner ∧
        ∀ token, .token token ∈ inner → rank (key token) < rank name)
    (made : IsMadeOf text.toList parts)
    (low : ∀ token, .token token ∈ parts → rank (key token) < table.passes) :
    ∃ result, IsMadeOf (table.expand text changelog).toList result ∧
      SubstitutesFully (fun name => table.resolve name changelog) parts result ∧
      (∀ other, SubstitutesFully (fun name => table.resolve name changelog) parts other →
        other = result) ∧
      ∀ token, .token token ∈ result → table.resolve (key token) changelog = none := by
  have below : IsBelow (fun name => table.resolve name changelog) rank table.passes parts :=
    fun token member _ => low token member
  obtain ⟨result, isResult, fully, unknown⟩ :=
    substitutesFully_iterate falls below le_rfl made
  rw [← toList_expand] at isResult
  exact ⟨result, isResult, fully, fun other also => also.unique fully, unknown⟩

/-! ## A chain that needs all passes -/

/-- A table with two passes, in which the value of one property names another one and a property that
there is not. -/
def chainedTable : PropertyTable where
  entries := [
    { name := "schema", value := "app", changelog := "a" },
    { name := "table", value := "${schema}.t${no}", changelog := "a" }]
  maxPasses := 2

def chainedParts : List Piece :=
  [.plain '<', .token "table".toList, .token "other".toList, .plain '>']

/-- The rank of the names in the chain. -/
def chainedRank (name : String) : Nat :=
  if name = "table" then 1 else 0

/-- The values of the chain have falling ranks, and its text is substituted in full. -/
theorem expand_chainedParts :
    (∀ name value, chainedTable.resolve name "a" = some value →
      ∃ inner, IsMadeOf value.toList inner ∧
        ∀ token, .token token ∈ inner → chainedRank (key token) < chainedRank name) ∧
    IsMadeOf "<${table}${other}>".toList chainedParts ∧
    (∀ token, .token token ∈ chainedParts → chainedRank (key token) < chainedTable.passes) ∧
    ∃ result, IsMadeOf "<app.t${no}${other}>".toList result ∧
      SubstitutesFully (fun name => chainedTable.resolve name "a") chainedParts result := by
  have falls : ∀ name value, chainedTable.resolve name "a" = some value →
      ∃ inner, IsMadeOf value.toList inner ∧
        ∀ token, .token token ∈ inner → chainedRank (key token) < chainedRank name := by
    intro name value known
    obtain ⟨entry, member, rfl, rfl⟩ := exists_entry_of_resolve known
    simp only [chainedTable, List.mem_cons, List.not_mem_nil, or_false] at member
    rcases member with rfl | rfl
    · exact ⟨[.plain 'a', .plain 'p', .plain 'p'], by decide, by simp⟩
    · refine ⟨[.token "schema".toList, .plain '.', .plain 't', .token "no".toList], by decide, ?_⟩
      intro token member
      simp only [List.mem_cons, Piece.token.injEq, reduceCtorEq, List.not_mem_nil, false_or,
        or_false] at member
      rcases member with rfl | rfl <;> decide
  have made : IsMadeOf "<${table}${other}>".toList chainedParts := by decide
  have low : ∀ token, .token token ∈ chainedParts →
      chainedRank (key token) < chainedTable.passes := by
    intro token member
    simp only [chainedParts, List.mem_cons, Piece.token.injEq, reduceCtorEq, List.not_mem_nil,
      false_or, or_false] at member
    rcases member with rfl | rfl <;> decide
  obtain ⟨result, isResult, fully, -, -⟩ :=
    expand_of_ranked chainedTable "a" "<${table}${other}>" chainedParts chainedRank falls
      made low
  have expanded : chainedTable.expand "<${table}${other}>" "a" =
      "<app.t${no}${other}>" := by
    decide +kernel
  rw [expanded] at isResult
  exact ⟨falls, made, low, result, isResult, fully⟩

end PropertyTable

end Migration
