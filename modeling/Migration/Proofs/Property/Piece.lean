import Mathlib.Data.List.TakeWhile
import Mathlib.Logic.Function.Iterate
import Migration.Proofs.Property.Plain

/-!
# Pieces of texts

Tokens never overlap, so every token that stands in a text is among the pieces of the text, and a text
that is written as tokens and plain characters falls into just these.  Passes of substitution are
made one after the other; where one changes nothing, further ones would not either.
-/

namespace Migration

namespace Property

/-- Whether some characters are the name of a token. -/
def IsTokenName (name : List Char) : Prop :=
  name ≠ [] ∧ ∀ c ∈ name, isNameChar c = true

/-- The name of the property that a token asks for. -/
abbrev key (name : List Char) : String :=
  String.ofList (Text.trim name)

theorem IsTokenName.dollar_not_mem {name : List Char} (isName : IsTokenName name) :
    '$' ∉ '{' :: (name ++ ['}']) := by
  have absent : '$' ∉ name := fun member => absurd (isName.2 _ member) (by decide)
  simp [absent]

/-! ## Tokens at the beginning of a text -/

theorem token?_source {name : List Char} (isName : IsTokenName name) (rest : List Char) :
    token? ((Piece.token name).source ++ rest) = some (name, rest) := by
  obtain ⟨notEmpty, nameChars⟩ := isName
  obtain ⟨c, word, rfl⟩ := List.exists_cons_of_ne_nil notEmpty
  have stops : isNameChar '}' = false := by decide
  have taken : (c :: word ++ '}' :: rest).takeWhile isNameChar = c :: word := by
    rw [List.takeWhile_append_of_pos nameChars, List.takeWhile_cons_of_neg (by simp [stops]),
      List.append_nil]
  have dropped : (c :: word ++ '}' :: rest).dropWhile isNameChar = '}' :: rest := by
    rw [List.dropWhile_append_of_pos nameChars, List.dropWhile_cons_of_neg (by simp [stops])]
  have split : (Piece.token (c :: word)).source ++ rest =
      '$' :: '{' :: (c :: word ++ '}' :: rest) := by
    simp [Piece.source]
  rw [split]
  simp only [token?, taken, dropped]

theorem isTokenName_of_token? {s name rest : List Char} (found : token? s = some (name, rest)) :
    IsTokenName name := by
  unfold token? at found
  split at found
  · rename_i inner
    split at found
    · rename_i c word after isName _
      cases found
      refine ⟨List.cons_ne_nil _ _, fun d member => ?_⟩
      rw [← isName] at member
      exact List.mem_takeWhile_imp member
    · cases found
  · cases found

theorem token?_cons_of_ne {c : Char} (other : c ≠ '$') (s : List Char) :
    token? (c :: s) = none := by
  unfold token?
  split
  · rename_i same
    exact absurd (List.cons.inj same).1 other
  · rfl

/-! ## Texts that are written as pieces -/

/-- Whether a piece stays what it is wherever it stands: a token, or a plain character that has no
part in tokens. -/
def Piece.IsSound : Piece → Prop
  | .plain c => isNameChar c = true
  | .token name => IsTokenName name

/-- Whether a text is written as some sound pieces, one after the other. -/
structure IsMadeOf (s : List Char) (parts : List Piece) : Prop where
  sound : ∀ part ∈ parts, part.IsSound
  source : parts.flatMap Piece.source = s

instance : DecidablePred Piece.IsSound
  | .plain c => inferInstanceAs (Decidable (isNameChar c = true))
  | .token name => decidable_of_iff (name ≠ [] ∧ name.all isNameChar = true)
      (and_congr_right' List.all_eq_true)

instance (s : List Char) (parts : List Piece) : Decidable (IsMadeOf s parts) :=
  decidable_of_iff ((∀ part ∈ parts, part.IsSound) ∧ parts.flatMap Piece.source = s)
    ⟨fun made => ⟨made.1, made.2⟩, fun made => ⟨made.sound, made.source⟩⟩

theorem IsMadeOf.append {s t : List Char} {parts others : List Piece} (first : IsMadeOf s parts)
    (second : IsMadeOf t others) : IsMadeOf (s ++ t) (parts ++ others) where
  sound := List.forall_mem_append.mpr ⟨first.sound, second.sound⟩
  source := by rw [List.flatMap_append, first.source, second.source]

/-- A text falls into the sound pieces that it is written as. -/
theorem IsMadeOf.pieces_eq {s : List Char} {parts : List Piece} (made : IsMadeOf s parts) :
    pieces s = parts := by
  obtain ⟨sound, rfl⟩ := made
  induction parts with
  | nil => exact pieces_nil
  | cons part parts ih =>
      obtain ⟨here, rest⟩ := List.forall_mem_cons.mp sound
      rw [List.flatMap_cons]
      cases part with
      | plain c =>
          have other : c ≠ '$' := by
            rintro rfl
            exact absurd (show isNameChar '$' = true from here) (by decide)
          change pieces (c :: parts.flatMap Piece.source) = _
          rw [pieces_cons_of_none (token?_cons_of_ne other _), ih rest]
      | token name => rw [pieces_of_token? (token?_source here _), ih rest]

theorem isTokenName_of_mem_pieces {s name : List Char} (member : .token name ∈ pieces s) :
    IsTokenName name := by
  induction s using pieces.induct with
  | case1 =>
      rw [pieces_nil] at member
      cases member
  | case2 c rest other after found ih =>
      rw [pieces_of_token? found] at member
      rcases List.mem_cons.mp member with same | later
      · cases same
        exact isTokenName_of_token? found
      · exact ih later
  | case3 c rest none ih =>
      rw [pieces_cons_of_none none] at member
      rcases List.mem_cons.mp member with same | later
      · cases same
      · exact ih later

/-! ## Tokens anywhere in a text -/

/-- What begins with a token and goes on with another one after a gap has the same token at the
beginning of both, or has the gap begin with the first one. -/
theorem eq_or_exists_gap {name other back after gap : List Char} (isName : IsTokenName name)
    (isOther : IsTokenName other)
    (same : (Piece.token name).source ++ back = gap ++ ((Piece.token other).source ++ after)) :
    (gap = [] ∧ name = other ∧ back = after) ∨
      ∃ middle, gap = (Piece.token name).source ++ middle ∧
        back = middle ++ ((Piece.token other).source ++ after) := by
  cases gap with
  | nil =>
      have found := token?_source isName back
      rw [same, List.nil_append, token?_source isOther] at found
      cases found
      exact .inl ⟨rfl, rfl, rfl⟩
  | cons d gap =>
      refine .inr ?_
      rcases List.append_eq_append_iff.mp same with ⟨middle, whole, rest⟩ | ⟨left, cut, rest⟩
      · exact ⟨middle, whole, rest⟩
      · cases left with
        | nil => exact ⟨[], by simpa using cut.symm, by simpa using rest.symm⟩
        | cons first left =>
            -- The second token would begin inside the first one, where no dollar sign is.
            obtain ⟨rfl, -⟩ := List.cons.inj rest
            have inside : '$' ∈ '{' :: (name ++ ['}']) := by
              rw [show '{' :: (name ++ ['}']) = gap ++ '$' :: left from (List.cons.inj cut).2]
              exact List.mem_append_right _ List.mem_cons_self
            exact absurd inside isName.dollar_not_mem

/-- Two tokens that stand in one text are the same one there, or one of them stands behind the
other. -/
theorem eq_or_behind {front name back before other after : List Char} (isName : IsTokenName name)
    (isOther : IsTokenName other)
    (same : front ++ ((Piece.token name).source ++ back) =
      before ++ ((Piece.token other).source ++ after)) :
    (front = before ∧ name = other ∧ back = after) ∨
      (∃ middle, before = front ++ ((Piece.token name).source ++ middle) ∧
        back = middle ++ ((Piece.token other).source ++ after)) ∨
      ∃ middle, front = before ++ ((Piece.token other).source ++ middle) ∧
        after = middle ++ ((Piece.token name).source ++ back) := by
  rcases List.append_eq_append_iff.mp same with ⟨gap, rfl, rest⟩ | ⟨gap, rfl, rest⟩
  · rcases eq_or_exists_gap isName isOther rest with ⟨rfl, rfl, rfl⟩ | ⟨middle, rfl, split⟩
    · exact .inl ⟨(List.append_nil _).symm, rfl, rfl⟩
    · exact .inr (.inl ⟨middle, rfl, split⟩)
  · rcases eq_or_exists_gap isOther isName rest with ⟨rfl, rfl, rfl⟩ | ⟨middle, rfl, split⟩
    · exact .inl ⟨List.append_nil _, rfl, rfl⟩
    · exact .inr (.inr ⟨middle, rfl, split⟩)

/-- Every token that stands in a text is among its pieces. -/
theorem mem_pieces_of_infix {s name : List Char} (isName : IsTokenName name)
    (inside : (Piece.token name).source <:+: s) : .token name ∈ pieces s := by
  obtain ⟨front, back, same⟩ := inside
  rw [List.append_assoc] at same
  induction s using pieces.induct generalizing front with
  | case1 => exact absurd (List.append_eq_nil_iff.mp same).2 (by simp [Piece.source])
  | case2 c rest other after found ih =>
      rw [pieces_of_token? found]
      rw [token?_eq_some found] at same
      have atStart : front ++ ((Piece.token name).source ++ back) =
          [] ++ ((Piece.token other).source ++ after) := same
      rcases eq_or_behind isName (isTokenName_of_token? found) atStart with
        ⟨-, rfl, -⟩ | ⟨middle, empty, -⟩ | ⟨middle, -, split⟩
      · exact List.mem_cons_self
      · exact absurd (List.append_eq_nil_iff.mp empty.symm).2 (by simp [Piece.source])
      · exact List.mem_cons_of_mem _ (ih middle split.symm)
  | case3 c rest none ih =>
      rw [pieces_cons_of_none none]
      cases front with
      | nil =>
          rw [List.nil_append] at same
          rw [← same, token?_source isName] at none
          cases none
      | cons d front => exact List.mem_cons_of_mem _ (ih front (List.cons.inj same).2)

/-! ## Passes -/

/-- Passes up to the first one that changes nothing give what all of them would. -/
theorem substituteUpTo_eq_iterate (value? : String → Option String) (passes : Nat)
    (s : List Char) : substituteUpTo value? passes s = (substitute value?)^[passes] s := by
  induction passes generalizing s with
  | zero => rfl
  | succ passes ih =>
      rw [substituteUpTo, Function.iterate_succ_apply]
      split
      · rename_i fixed
        rw [fixed, Function.iterate_fixed fixed]
      · exact ih _

end Property

theorem PropertyTable.toList_expand (table : PropertyTable) (text changelog : String) :
    (table.expand text changelog).toList =
      (Property.substitute fun name => table.resolve name changelog)^[table.passes] text.toList := by
  rw [expand, String.toList_ofList, Property.substituteUpTo_eq_iterate]

end Migration
