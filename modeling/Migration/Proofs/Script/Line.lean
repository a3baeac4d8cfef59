import Migration.Proofs.Script.Rest

/-!
# Lines

The line of an element is counted from the beginning of its script: with more lines in front of the
script every element stands as many lines further down, and nothing else changes.
-/

namespace Migration

/-! ## Elements further down -/

mutual
/-- An element a number of lines further down. -/
def Element.movedDown (lines : Nat) : Element → Element
  | ⟨name, arguments, none, line⟩ => ⟨name, arguments, none, line + lines⟩
  | ⟨name, arguments, some items, line⟩ =>
      ⟨name, arguments, some (Element.itemsMovedDown lines items), line + lines⟩

/-- The items of a block a number of lines further down. -/
def Element.itemsMovedDown (lines : Nat) : List (Item Element) → List (Item Element)
  | [] => []
  | .text s :: items => .text s :: Element.itemsMovedDown lines items
  | .element e :: items => .element (e.movedDown lines) :: Element.itemsMovedDown lines items
end

/-- A script a number of lines further down. -/
def Script.movedDown (lines : Nat) (script : Script) : Script :=
  ⟨script.elements.map (Element.movedDown lines)⟩

namespace Script

/-! ## Lines in a longer script -/

theorem lineFeeds_le {s rest : List Char} (left : rest <:+ s) : lineFeeds rest ≤ lineFeeds s :=
  left.sublist.count_le '\n'

theorem lineOf_movedDown {total lines : Nat} {s : List Char} (inside : lineFeeds s ≤ total) :
    lineOf (total + lines) s = lineOf total s + lines := by
  simp only [lineOf]
  omega

mutual
/-- More lines in front of a script move its elements down and change nothing else. -/
theorem element_movedDown {total : Nat} (lines : Nat) : (fuel : Nat) → {s : List Char} →
    lineFeeds s ≤ total → element (total + lines) fuel s =
      (element total fuel s).map fun (e, rest) => (e.movedDown lines, rest)
  | 0, s, _ => rfl
  | fuel + 1, s, inside => by
      rw [element, element]
      cases named : name? s with
      | none => rfl
      | some result =>
          obtain ⟨name, afterName⟩ := result
          dsimp only
          cases called : arguments afterName with
          | error fault => rfl
          | ok result =>
              obtain ⟨given, behind⟩ := result
              dsimp only
              have front : behind <:+ s := (arguments_suffix called).trans (name?_suffix named)
              split
              · rename_i inner opened
                have left : inner <:+ s := ((List.suffix_cons '{' inner).trans
                  (opened ▸ skipTrivia_suffix behind)).trans front
                rw [block_movedDown lines fuel (Nat.le_trans (lineFeeds_le left) inside)]
                cases block total fuel inner with
                | error fault => rfl
                | ok result => simp [Except.map, Element.movedDown, lineOf_movedDown inside]
              · simp [Except.map, Element.movedDown, lineOf_movedDown inside]

theorem block_movedDown {total : Nat} (lines : Nat) : (fuel : Nat) → {s : List Char} →
    lineFeeds s ≤ total → block (total + lines) fuel s =
      (block total fuel s).map fun (items, rest) => (Element.itemsMovedDown lines items, rest)
  | 0, s, _ => rfl
  | fuel + 1, s, inside => by
      rw [block, block]
      have front := skipTrivia_suffix s
      split
      · rfl
      · simp [Except.map, Element.itemsMovedDown]
      · have below {rest : List Char} (left : rest <:+ skipTrivia s) : lineFeeds rest ≤ total :=
          Nat.le_trans (lineFeeds_le (left.trans front)) inside
        cases read : quoted (skipTrivia s) with
        | malformed fault => rfl
        | found text behind =>
            dsimp only
            rw [block_movedDown lines fuel (below (quoted_suffix read))]
            cases block total fuel behind with
            | error fault => rfl
            | ok result => simp [Except.map, Element.itemsMovedDown]
        | absent =>
            dsimp only
            rw [element_movedDown lines fuel (below List.suffix_rfl)]
            cases found : element total fuel (skipTrivia s) with
            | error fault => rfl
            | ok result =>
                obtain ⟨e, behind⟩ := result
                dsimp only [Except.map]
                rw [block_movedDown lines fuel (below (element_suffix fuel found))]
                cases block total fuel behind with
                | error fault => rfl
                | ok result => simp [Except.map, Element.itemsMovedDown]
end

theorem topLevel_movedDown {total fuel : Nat} (lines : Nat) {s : List Char}
    (inside : lineFeeds s ≤ total) : topLevel (total + lines) fuel s =
      (topLevel total fuel s).map (List.map (Element.movedDown lines)) := by
  induction fuel generalizing s with
  | zero => rfl
  | succ fuel ih =>
      rw [topLevel, topLevel]
      have front := skipTrivia_suffix s
      split
      · rfl
      · rw [element_movedDown lines _ (Nat.le_trans (lineFeeds_le front) inside)]
        cases found : element total ((skipTrivia s).length + 2) (skipTrivia s) with
        | error fault => rfl
        | ok result =>
            obtain ⟨e, behind⟩ := result
            have left : behind <:+ s := (element_suffix _ found).trans front
            dsimp only [Except.map]
            rw [ih (Nat.le_trans (lineFeeds_le left) inside)]
            cases topLevel total fuel behind with
            | error fault => rfl
            | ok elements => simp [Except.map]

end Script

end Migration
