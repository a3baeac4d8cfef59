import Mathlib.Data.List.Basic
import Migration.Property.Table

/-!
# Texts that stand for themselves

A text is its pieces put together, so a text all of whose tokens are unknown is its own expansion.
Texts in which no token begins are so whatever properties there are, and all texts are so where
there are no properties.
-/

namespace Migration

namespace Property

/-- What a token begins with. -/
def opening : List Char := ['$', '{']

theorem token?_eq_some {s name rest : List Char} (found : token? s = some (name, rest)) :
    s = (Piece.token name).source ++ rest := by
  unfold token? at found
  split at found
  · rename_i inner
    split at found
    · rename_i c word after isName isRest
      cases found
      rw [← List.takeWhile_append_dropWhile (p := isNameChar) (l := inner), isName, isRest]
      simp [Piece.source]
    · cases found
  · cases found

theorem pieces_nil : pieces [] = [] := by
  rw [pieces]

theorem pieces_of_token? {s name rest : List Char} (found : token? s = some (name, rest)) :
    pieces s = .token name :: pieces rest := by
  cases s with
  | nil => cases found
  | cons c s =>
      rw [pieces]
      split
      · rename_i same
        cases found.symm.trans same
        rfl
      · rename_i none
        cases found.symm.trans none

theorem pieces_cons_of_none {c : Char} {s : List Char} (none : token? (c :: s) = none) :
    pieces (c :: s) = .plain c :: pieces s := by
  rw [pieces]
  split
  · rename_i found
    cases none.symm.trans found
  · rfl

/-- The pieces of a text put together are the text. -/
theorem flatMap_source_pieces (s : List Char) : (pieces s).flatMap Piece.source = s := by
  induction s using pieces.induct with
  | case1 => rw [pieces_nil, List.flatMap_nil]
  | case2 c rest name after found ih =>
      rw [pieces_of_token? found, List.flatMap_cons, ih, ← token?_eq_some found]
  | case3 c rest none ih =>
      rw [pieces_cons_of_none none, List.flatMap_cons, ih]
      rfl

/-- Every piece stands in the text. -/
theorem source_infix {s : List Char} {piece : Piece} (member : piece ∈ pieces s) :
    piece.source <:+: s := by
  obtain ⟨front, back, split⟩ := List.append_of_mem member
  refine ⟨front.flatMap Piece.source, back.flatMap Piece.source, ?_⟩
  rw [← flatMap_source_pieces s, split]
  simp

/-- A text whose tokens have no values stays as it is. -/
theorem substitute_eq_self {value? : String → Option String} {s : List Char}
    (unknown : ∀ name, .token name ∈ pieces s → value? (String.ofList (Text.trim name)) = none) :
    substitute value? s = s := by
  have same : ∀ piece ∈ pieces s, piece.substitute value? = piece.source := by
    intro piece member
    cases piece with
    | plain c => rfl
    | token name => rw [Piece.substitute, unknown name member]
  rw [substitute, List.flatMap_congr same, flatMap_source_pieces]

theorem substituteUpTo_eq_self {value? : String → Option String} {s : List Char} (passes : Nat)
    (unknown : ∀ name, .token name ∈ pieces s → value? (String.ofList (Text.trim name)) = none) :
    substituteUpTo value? passes s = s := by
  cases passes with
  | zero => rfl
  | succ passes => simp [substituteUpTo, substitute_eq_self unknown]

end Property

namespace PropertyTable

/-- A text in which no token begins is its own expansion. -/
theorem expand_of_not_infix (table : PropertyTable) {text : String}
    (plain : ¬ Property.opening <:+: text.toList) (changelog : String) :
    table.expand text changelog = text := by
  rw [expand, Property.substituteUpTo_eq_self, String.ofList_toList]
  intro name member
  refine absurd (.trans ?_ (Property.source_infix member)) plain
  exact ⟨[], name ++ ['}'], rfl⟩

theorem expand_of_not_mem (table : PropertyTable) {text : String} (plain : '$' ∉ text.toList)
    (changelog : String) : table.expand text changelog = text :=
  table.expand_of_not_infix (fun inside => plain (inside.subset List.mem_cons_self)) changelog

/-- Where there are no properties, every text is its own expansion. -/
theorem expand_of_no_entries {table : PropertyTable} (none : table.entries = []) (text : String)
    (changelog : String) : table.expand text changelog = text := by
  rw [expand, Property.substituteUpTo_eq_self, String.ofList_toList]
  intro name _
  simp [resolve, candidates, none]

end PropertyTable

end Migration
