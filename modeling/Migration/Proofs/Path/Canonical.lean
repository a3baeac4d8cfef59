import Migration.Path

/-!
# Canonical paths

The canonical form of a path has no backslashes, so two canonical paths are the same path only if
they are the same text.  One normalisation need not give a fixed point, because what it leaves in
front may read as the mark of the virtual root; a second one does.
-/

namespace Migration

namespace Text

/-- Cutting at a separator cuts what stands before it and what stands behind it. -/
theorem split_append_cons (separator : Char) (front back : List Char) :
    split separator (front ++ separator :: back) =
      split separator front ++ split separator back := by
  induction front with
  | nil => simp [split]
  | cons c front ih =>
      by_cases same : c = separator
      · simp [split, same, ih]
      · have nonempty := split_ne_nil separator front
        cases pieces : split separator front with
        | nil => exact absurd pieces nonempty
        | cons piece more => simp [split, same, ih, pieces]

/-- A text without the separator is its only piece. -/
theorem split_of_not_mem {separator : Char} {s : List Char} (absent : separator ∉ s) :
    split separator s = [s] := by
  induction s with
  | nil => rfl
  | cons c s ih =>
      obtain ⟨different, rest⟩ : separator ≠ c ∧ separator ∉ s := by simpa using absent
      simp [split, Ne.symm different, ih rest]

/-- The characters of a piece stand in the text and are not the separator. -/
theorem mem_of_mem_split {separator c : Char} {s piece : List Char}
    (member : piece ∈ split separator s) (inside : c ∈ piece) : c ∈ s ∧ c ≠ separator := by
  induction s generalizing piece with
  | nil =>
      obtain rfl : piece = [] := by simpa [split] using member
      cases inside
  | cons d s ih =>
      unfold split at member
      split at member
      · rcases List.mem_cons.mp member with rfl | member
        · cases inside
        · exact ⟨List.mem_cons_of_mem d (ih member inside).1, (ih member inside).2⟩
      · rename_i different
        split at member
        · rename_i none
          exact absurd none (split_ne_nil separator s)
        · rename_i first more pieces
          rcases List.mem_cons.mp member with rfl | member
          · rcases List.mem_cons.mp inside with rfl | inside
            · exact ⟨List.mem_cons_self, different⟩
            · have found := ih (by simp [pieces]) inside
              exact ⟨List.mem_cons_of_mem d found.1, found.2⟩
          · have found := ih (by simp [pieces, member]) inside
            exact ⟨List.mem_cons_of_mem d found.1, found.2⟩

end Text

namespace Path

/-! ## Separators -/

theorem backslash_not_mem_slashed (path : List Char) : '\\' ∉ slashed path := by
  intro member
  obtain ⟨c, -, same⟩ := List.mem_map.mp member
  split at same
  · cases same
  · rename_i different
    exact different same

theorem slashed_of_not_mem {path : List Char} (absent : '\\' ∉ path) : slashed path = path := by
  induction path with
  | nil => rfl
  | cons c path ih =>
      obtain ⟨different, rest⟩ : '\\' ≠ c ∧ '\\' ∉ path := by simpa using absent
      have tail := ih rest
      simp only [slashed] at tail
      simp [slashed, Ne.symm different, tail]

/-! ## Segments -/

/-- A segment that is a name: it is kept wherever it stands. -/
structure IsName (segment : List Char) : Prop where
  nonempty : segment ≠ []
  ne_here : segment ≠ ['.']
  ne_up : segment ≠ ['.', '.']

/-- Segments, the last one first, that a walk leaves as they are: names, and before them steps up,
which a path from the root does not have. -/
def IsReduced (absolute : Bool) (stack : List (List Char)) : Prop :=
  ∃ names ups, stack = names ++ List.replicate ups ['.', '.'] ∧ (∀ name ∈ names, IsName name) ∧
    (absolute = true → ups = 0)

theorem isReduced_nil (absolute : Bool) : IsReduced absolute [] :=
  ⟨[], 0, rfl, by simp, fun _ => rfl⟩

/-- One more segment keeps a walk reduced. -/
theorem isReduced_walk {absolute : Bool} {stack : List (List Char)} (segment : List Char)
    (reduced : IsReduced absolute stack) : IsReduced absolute (walk absolute stack segment) := by
  obtain ⟨names, ups, rfl, areNames, atRoot⟩ := reduced
  unfold walk
  split
  · exact ⟨names, ups, rfl, areNames, atRoot⟩
  · rename_i notEmptyOrHere
    obtain ⟨nonempty, notHere⟩ := not_or.mp notEmptyOrHere
    split
    · rename_i isUp
      subst isUp
      cases names with
      | nil =>
          cases ups with
          | zero =>
              cases absolute with
              | false => exact ⟨[], 1, by simp, by simp, by simp⟩
              | true => exact isReduced_nil true
          | succ ups =>
              cases absolute with
              | false => exact ⟨[], ups + 2, by simp [List.replicate], by simp, by simp⟩
              | true => exact absurd (atRoot rfl) (by simp)
      | cons name names =>
          have isName := areNames name List.mem_cons_self
          simp only [List.cons_append, ne_eq, isName.ne_up, not_false_eq_true, if_true]
          exact ⟨names, ups, rfl, fun other member => areNames other (by simp [member]), atRoot⟩
    · rename_i notUp
      refine ⟨segment :: names, ups, rfl, ?_, atRoot⟩
      intro name member
      rcases List.mem_cons.mp member with rfl | member
      · exact ⟨nonempty, notHere, notUp⟩
      · exact areNames name member

theorem isReduced_foldl {absolute : Bool} (parts : List (List Char)) {stack : List (List Char)}
    (reduced : IsReduced absolute stack) :
    IsReduced absolute (parts.foldl (walk absolute) stack) := by
  induction parts generalizing stack with
  | nil => exact reduced
  | cons part parts ih => exact ih (isReduced_walk part reduced)

/-- A walk takes its segments from those that it is given. -/
theorem mem_of_mem_foldl_walk {absolute : Bool} {parts : List (List Char)}
    {stack : List (List Char)} {segment : List Char}
    (member : segment ∈ parts.foldl (walk absolute) stack) : segment ∈ parts ∨ segment ∈ stack := by
  induction parts generalizing stack with
  | nil => exact .inr member
  | cons part parts ih =>
      rcases ih member with later | now
      · exact .inl (List.mem_cons_of_mem part later)
      · unfold walk at now
        grind

theorem walk_of_isName {name : List Char} (isName : IsName name) (absolute : Bool)
    (stack : List (List Char)) : walk absolute stack name = name :: stack := by
  simp [walk, isName.nonempty, isName.ne_here, isName.ne_up]

theorem walk_up_of_isName {name : List Char} (isName : IsName name) (absolute : Bool)
    (stack : List (List Char)) : walk absolute (name :: stack) ['.', '.'] = stack := by
  simp [walk, isName.ne_up]

theorem walk_ups (ups : Nat) : walk false (List.replicate ups ['.', '.']) ['.', '.'] =
    List.replicate (ups + 1) ['.', '.'] := by
  cases ups <;> simp [walk, List.replicate]

/-- Names are all kept. -/
theorem foldl_walk_names {absolute : Bool} {names : List (List Char)}
    (areNames : ∀ name ∈ names, IsName name) (stack : List (List Char)) :
    names.foldl (walk absolute) stack = names.reverse ++ stack := by
  induction names generalizing stack with
  | nil => rfl
  | cons name names ih =>
      obtain ⟨isName, others⟩ := List.forall_mem_cons.mp areNames
      rw [List.foldl_cons, walk_of_isName isName, ih others]
      simp

/-- Steps up are all kept where nothing but steps up stands before them. -/
theorem foldl_walk_ups (ups more : Nat) :
    (List.replicate more ['.', '.']).foldl (walk false) (List.replicate ups ['.', '.']) =
      List.replicate (ups + more) ['.', '.'] := by
  induction more generalizing ups with
  | zero => rfl
  | succ more ih =>
      rw [List.replicate_succ, List.foldl_cons, walk_ups, ih]
      congr 1
      omega

/-- A reduced walk is what walking along it gives. -/
theorem foldl_walk_reverse {absolute : Bool} {stack : List (List Char)}
    (reduced : IsReduced absolute stack) : stack.reverse.foldl (walk absolute) [] = stack := by
  obtain ⟨names, ups, rfl, areNames, atRoot⟩ := reduced
  rw [List.reverse_append, List.reverse_replicate, List.foldl_append]
  have start : (List.replicate ups ['.', '.']).foldl (walk absolute) [] =
      List.replicate ups ['.', '.'] := by
    cases absolute with
    | false => simpa using foldl_walk_ups 0 ups
    | true => simp [atRoot rfl]
  rw [start, foldl_walk_names fun name member => areNames name (by simpa using member)]
  simp

/-! ## Written paths -/

/-- A path without the mark of its root, by its segments. -/
def written (absolute : Bool) (parts : List (List Char)) (trailing : Bool) : List Char :=
  (if absolute then ['/'] else []) ++ join parts ++ (if trailing then ['/'] else [])

theorem split_join {parts : List (List Char)} (nonempty : parts ≠ [])
    (apart : ∀ part ∈ parts, '/' ∉ part) : Text.split '/' (join parts) = parts := by
  induction parts with
  | nil => exact absurd rfl nonempty
  | cons part parts ih =>
      have here := apart part List.mem_cons_self
      cases parts with
      | nil => simpa [join, List.intercalate_singleton] using Text.split_of_not_mem here
      | cons next parts =>
          have rest := ih (by simp) fun other member => apart other (by simp [member])
          rw [join, List.intercalate_cons_cons, List.append_assoc, List.singleton_append,
            Text.split_append_cons, Text.split_of_not_mem here]
          simpa [join] using rest

/-- The pieces of a path, joined again, are the path. -/
theorem join_split (path : List Char) : join (Text.split '/' path) = path := by
  induction path with
  | nil => rfl
  | cons c path ih =>
      obtain ⟨piece, pieces, cut⟩ := List.exists_cons_of_ne_nil (Text.split_ne_nil '/' path)
      rw [cut] at ih
      by_cases slash : c = '/'
      · rw [Text.split, if_pos slash, cut, join, List.intercalate_cons_cons, slash, ← ih]
        rfl
      · rw [Text.split, if_neg slash, cut, ← ih]
        cases pieces <;> simp [join, List.intercalate_singleton, List.intercalate_cons_cons]

theorem infix_join {parts : List (List Char)} {part : List Char} (member : part ∈ parts) :
    part <:+: join parts := by
  induction parts with
  | nil => cases member
  | cons first parts ih =>
      cases parts with
      | nil =>
          obtain rfl := List.mem_singleton.mp member
          have alone : join [part] = part := List.intercalate_singleton
          exact alone.symm ▸ List.infix_rfl
      | cons next parts =>
          rw [join, List.intercalate_cons_cons]
          rcases List.mem_cons.mp member with rfl | later
          · exact ⟨[], ['/'] ++ join (next :: parts), by simp [join]⟩
          · exact (ih later).trans (List.suffix_append _ _).isInfix

/-- Reading a written path gives its segments, and an empty piece for a separator at an end. -/
theorem split_written {parts : List (List Char)} (nonempty : parts ≠ [])
    (apart : ∀ part ∈ parts, '/' ∉ part) (absolute trailing : Bool) :
    Text.split '/' (written absolute parts trailing) =
      (if absolute then [[]] else []) ++ parts ++ if trailing then [[]] else [] := by
  have pieces := split_join nonempty apart
  cases absolute <;> cases trailing <;>
    simp [written, Text.split, Text.split_append_cons, pieces]

theorem mem_of_mem_split_written {parts : List (List Char)} {part : List Char}
    {absolute trailing : Bool} (apart : ∀ part ∈ parts, '/' ∉ part)
    (member : part ∈ Text.split '/' (written absolute parts trailing)) :
    part ∈ parts ∨ part = [] := by
  by_cases nothing : parts = []
  · subst nothing
    cases absolute <;> cases trailing <;> simpa [written, join, Text.split] using member
  · rw [split_written nothing apart, List.mem_append, List.mem_append] at member
    rcases member with (leading | inside) | closing
    · exact .inr (by cases absolute <;> simp_all)
    · exact .inl inside
    · exact .inr (by cases trailing <;> simp_all)

/-- Walking along a written path gives back its segments. -/
theorem segments_written {absolute : Bool} {stack : List (List Char)} (trailing : Bool)
    (reduced : IsReduced absolute stack) (apart : ∀ part ∈ stack, '/' ∉ part) :
    segments absolute (written absolute stack.reverse trailing) = stack.reverse := by
  have skip (front : List (List Char)) : walk absolute front [] = front := by simp [walk]
  have leading (s : List Char) : (Text.split '/' ((if absolute then ['/'] else []) ++ s)).foldl
      (walk absolute) [] = (Text.split '/' s).foldl (walk absolute) [] := by
    cases absolute <;> simp [Text.split, skip]
  have closing (s : List Char) : (Text.split '/' (s ++ if trailing then ['/'] else [])).foldl
      (walk absolute) [] = (Text.split '/' s).foldl (walk absolute) [] := by
    cases trailing with
    | false => simp
    | true => simp [Text.split_append_cons, Text.split, skip]
  have inner : (Text.split '/' (join stack.reverse)).foldl (walk absolute) [] = stack := by
    by_cases empty : stack = []
    · subst empty
      simp [join, List.intercalate_nil, Text.split, skip]
    · rw [split_join (by simpa using empty) (by simpa using apart)]
      exact foldl_walk_reverse reduced
  rw [segments, written, List.append_assoc, leading, closing, inner]

theorem head?_join {parts : List (List Char)} (areNonempty : ∀ part ∈ parts, part ≠ []) :
    (join parts).head? = parts.head?.bind List.head? := by
  cases parts with
  | nil => rfl
  | cons part parts =>
      obtain ⟨c, rest, rfl⟩ := List.exists_cons_of_ne_nil (areNonempty part List.mem_cons_self)
      cases parts <;> simp [join, List.intercalate_singleton, List.intercalate_cons_cons]

theorem join_ne_nil {parts : List (List Char)} (areNonempty : ∀ part ∈ parts, part ≠ [])
    (parts_ne : parts ≠ []) : join parts ≠ [] := by
  intro nothing
  have begins := head?_join areNonempty
  obtain ⟨part, rest, rfl⟩ := List.exists_cons_of_ne_nil parts_ne
  obtain ⟨c, tail, rfl⟩ := List.exists_cons_of_ne_nil (areNonempty _ List.mem_cons_self)
  simp [nothing] at begins

theorem getLast?_join {parts : List (List Char)} (areNonempty : ∀ part ∈ parts, part ≠ []) :
    (join parts).getLast? = parts.getLast?.bind List.getLast? := by
  induction parts with
  | nil => rfl
  | cons part parts ih =>
      cases parts with
      | nil => simp [join, List.intercalate_singleton]
      | cons next parts =>
          have rest := ih fun other member => areNonempty other (by simp [member])
          have nonempty : join (next :: parts) ≠ [] :=
            join_ne_nil (fun other member => areNonempty other (by simp [member])) (by simp)
          obtain ⟨last, isLast⟩ := Option.isSome_iff_exists.mp (List.getLast?_isSome.mpr nonempty)
          have whole : join (part :: next :: parts) = part ++ ['/'] ++ join (next :: parts) :=
            List.intercalate_cons_cons
          rw [whole, List.getLast?_append, isLast, List.getLast?_cons_cons, ← rest, isLast]
          rfl

section

variable {parts : List (List Char)} (areNonempty : ∀ part ∈ parts, part ≠ [])
  (apart : ∀ part ∈ parts, '/' ∉ part)

include areNonempty apart

/-- Joined segments do not begin with a separator. -/
theorem head?_join_ne : (join parts).head? ≠ some '/' := by
  rw [head?_join areNonempty]
  intro slash
  obtain ⟨part, isFirst, begins⟩ := Option.bind_eq_some_iff.mp slash
  exact apart part (List.mem_of_head? isFirst) (List.mem_of_head? begins)

/-- Joined segments do not end in a separator. -/
theorem getLast?_join_ne : (join parts).getLast? ≠ some '/' := by
  rw [getLast?_join areNonempty]
  intro slash
  obtain ⟨part, isLast, ends⟩ := Option.bind_eq_some_iff.mp slash
  exact apart part (List.mem_of_getLast? isLast) (List.mem_of_getLast? ends)

/-- A written path begins with a separator if it is absolute. -/
theorem head?_written {absolute trailing : Bool} (closed : trailing = true → parts ≠ []) :
    (written absolute parts trailing).head? = some '/' ↔ absolute = true := by
  cases absolute with
  | true => simp [written]
  | false =>
      have begins := head?_join_ne areNonempty apart
      by_cases nothing : parts = []
      · cases trailing with
        | false => simp [written, nothing, join]
        | true => exact absurd nothing (closed rfl)
      · obtain ⟨c, rest, joined⟩ := List.exists_cons_of_ne_nil (join_ne_nil areNonempty nothing)
        rw [joined] at begins
        simpa [written, joined] using begins

/-- A written path ends in a separator, and is not just that, if it is written so. -/
theorem getLast?_written {absolute trailing : Bool} (parts_ne : parts ≠ []) :
    (written absolute parts trailing).length > 1 ∧
      (written absolute parts trailing).getLast? = some '/' ↔ trailing = true := by
  have ends := getLast?_join_ne areNonempty apart
  obtain ⟨c, isLast⟩ := Option.isSome_iff_exists.mp
    (List.getLast?_isSome.mpr (join_ne_nil areNonempty parts_ne))
  rw [isLast] at ends
  cases trailing with
  | false =>
      have different : c ≠ '/' := fun same => ends (congrArg some same)
      simp [written, List.getLast?_append, isLast, different]
  | true =>
      have long := List.length_pos_iff.mpr (join_ne_nil areNonempty parts_ne)
      simp only [written, List.length_append, if_true, List.length_singleton,
        List.getLast?_append, List.getLast?_singleton, Option.some_or, iff_true, and_true]
      omega

end

/-- The canonical form of a path without the mark of its root. -/
def tidy (path : List Char) : List Char :=
  let parts := segments (path.head? = some '/') path
  written (path.head? = some '/') parts
    (decide ((path.length > 1 ∧ path.getLast? = some '/') ∧ parts ≠ []))

theorem normalizeChars_eq (path : List Char) :
    normalizeChars path = (splitRoot (slashed path)).1 ++ tidy (splitRoot (slashed path)).2 := by
  simp [normalizeChars, tidy, written]

/-- The segments of a path are reduced, and their characters are those of the path without its
separators. -/
theorem segments_spec (absolute : Bool) (path : List Char) :
    ∃ stack, segments absolute path = stack.reverse ∧ IsReduced absolute stack ∧
      ∀ part ∈ stack, ∀ c ∈ part, c ∈ path ∧ c ≠ '/' := by
  refine ⟨(Text.split '/' path).foldl (walk absolute) [], rfl,
    isReduced_foldl _ (isReduced_nil absolute), ?_⟩
  intro part member c inside
  rcases mem_of_mem_foldl_walk member with given | impossible
  · exact Text.mem_of_mem_split given inside
  · cases impossible

theorem IsReduced.ne_nil {absolute : Bool} {stack : List (List Char)}
    (reduced : IsReduced absolute stack) : ∀ part ∈ stack, part ≠ [] := by
  obtain ⟨names, ups, rfl, areNames, -⟩ := reduced
  intro part member
  rcases List.mem_append.mp member with named | up
  · exact (areNames part named).nonempty
  · rw [(List.mem_replicate.mp up).2]
    simp

/-- A path that is written from reduced segments is tidy. -/
theorem tidy_written {absolute : Bool} {stack : List (List Char)} (trailing : Bool)
    (reduced : IsReduced absolute stack) (apart : ∀ part ∈ stack, '/' ∉ part)
    (closed : trailing = true → stack ≠ []) :
    tidy (written absolute stack.reverse trailing) = written absolute stack.reverse trailing := by
  have areNonempty : ∀ part ∈ stack.reverse, part ≠ [] := fun part member =>
    reduced.ne_nil part (by simpa using member)
  have areApart : ∀ part ∈ stack.reverse, '/' ∉ part := fun part member =>
    apart part (by simpa using member)
  have begins : decide ((written absolute stack.reverse trailing).head? = some '/') = absolute := by
    simp only [head?_written areNonempty areApart (by simpa using closed), Bool.decide_eq_true]
  have ends : decide (((written absolute stack.reverse trailing).length > 1 ∧
      (written absolute stack.reverse trailing).getLast? = some '/') ∧ stack.reverse ≠ []) =
      trailing := by
    by_cases nothing : stack.reverse = []
    · cases trailing with
      | false => simp [nothing]
      | true => exact absurd nothing (by simpa using closed rfl)
    · simp only [getLast?_written areNonempty areApart nothing, ne_eq, nothing, not_false_eq_true,
        and_true, Bool.decide_eq_true]
  rw [tidy, begins, segments_written trailing reduced apart, ends]

theorem tidy_tidy (path : List Char) : tidy (tidy path) = tidy path := by
  obtain ⟨stack, same, reduced, characters⟩ := segments_spec (path.head? = some '/') path
  have apart : ∀ part ∈ stack, '/' ∉ part := fun part member inside =>
    (characters part member '/' inside).2 rfl
  have spelled : tidy path = written (path.head? = some '/') stack.reverse
      (decide ((path.length > 1 ∧ path.getLast? = some '/') ∧ stack.reverse ≠ [])) := by
    rw [tidy, same]
  rw [spelled]
  refine tidy_written _ reduced apart fun trailing => ?_
  have nonempty := (of_decide_eq_true trailing).2
  simpa using nonempty

/-! ## Canonical forms -/

theorem mem_join {parts : List (List Char)} {c : Char} (member : c ∈ join parts) :
    c = '/' ∨ ∃ part ∈ parts, c ∈ part := by
  induction parts with
  | nil => cases member
  | cons part parts ih =>
      cases parts with
      | nil => exact .inr ⟨part, by simp, by simpa [join, List.intercalate_singleton] using member⟩
      | cons next parts =>
          have whole : join (part :: next :: parts) = part ++ ['/'] ++ join (next :: parts) :=
            List.intercalate_cons_cons
          rw [whole, List.append_assoc, List.mem_append] at member
          rcases member with here | member
          · exact .inr ⟨part, by simp, here⟩
          · rcases List.mem_cons.mp member with slash | later
            · exact .inl slash
            · rcases ih later with slash | ⟨other, isPart, inside⟩
              · exact .inl slash
              · exact .inr ⟨other, by simp [isPart], inside⟩

/-- The tidy form of a path has no character that the path has not, up to separators. -/
theorem mem_tidy {path : List Char} {c : Char} (member : c ∈ tidy path) : c = '/' ∨ c ∈ path := by
  obtain ⟨stack, same, -, characters⟩ := segments_spec (path.head? = some '/') path
  rw [tidy, same, written, List.mem_append, List.mem_append] at member
  rcases member with (leading | inside) | closing
  · left
    split at leading <;> simp_all
  · rcases mem_join inside with slash | ⟨part, isPart, inside⟩
    · exact .inl slash
    · exact .inr (characters part (by simpa using isPart) c inside).1
  · left
    split at closing <;> simp_all

theorem splitRoot_of_mark (path : List Char) :
    splitRoot (virtualRoot ++ path) = (virtualRoot, path) := by
  simp [splitRoot]

/-- Either a path begins with the mark of the virtual root, or the mark is nothing. -/
theorem splitRoot_spec (path : List Char) :
    path = virtualRoot ++ (splitRoot path).2 ∧ (splitRoot path).1 = virtualRoot ∨
      ¬ virtualRoot.isPrefixOf path ∧ splitRoot path = ([], path) := by
  unfold splitRoot
  split
  · rename_i marked
    left
    obtain ⟨rest, rfl⟩ := List.isPrefixOf_iff_prefix.mp marked
    simp
  · rename_i unmarked
    exact .inr ⟨unmarked, rfl⟩

theorem backslash_not_mem_normalizeChars (path : List Char) : '\\' ∉ normalizeChars path := by
  intro member
  rw [normalizeChars_eq, List.mem_append] at member
  have clean := backslash_not_mem_slashed path
  rcases splitRoot_spec (slashed path) with ⟨same, root⟩ | ⟨-, plain⟩
  · rw [root] at member
    rcases member with inRoot | inside
    · exact absurd inRoot (by decide)
    · rcases mem_tidy inside with slash | inside
      · cases slash
      · exact clean (same ▸ List.mem_append_right _ inside)
  · rw [plain] at member
    rcases member with inRoot | inside
    · cases inRoot
    · rcases mem_tidy inside with slash | inside
      · cases slash
      · exact clean inside

theorem normalizeChars_normalizeChars (path : List Char) :
    normalizeChars (normalizeChars path) =
      (splitRoot (normalizeChars path)).1 ++ tidy (splitRoot (normalizeChars path)).2 := by
  rw [normalizeChars_eq (normalizeChars path),
    slashed_of_not_mem (backslash_not_mem_normalizeChars path)]

/-- What is no virtual path after one normalisation is a fixed point. -/
theorem normalizeChars_twice {path : List Char}
    (unmarked : ¬ virtualRoot.isPrefixOf (normalizeChars path)) :
    normalizeChars (normalizeChars path) = normalizeChars path := by
  have plain : splitRoot (normalizeChars path) = ([], normalizeChars path) := if_neg unmarked
  have once : normalizeChars path = tidy (slashed path) := by
    rcases splitRoot_spec (slashed path) with ⟨-, root⟩ | ⟨-, root⟩
    · refine absurd ?_ unmarked
      rw [normalizeChars_eq, root]
      simp
    · simp [normalizeChars_eq, root]
  rw [normalizeChars_normalizeChars, plain, once]
  simpa using tidy_tidy (slashed path)

/-- One normalisation is enough unless it brings the mark of the virtual root to the front. -/
theorem normalize_normalize {path : String} (shown : isVirtual (normalize path) → isVirtual path) :
    normalize (normalize path) = normalize path := by
  rw [normalize, normalize, String.toList_ofList]
  by_cases marked : virtualRoot.isPrefixOf (normalizeChars path.toList)
  · have isMarked : isVirtual path := shown (by rwa [isVirtual, normalize, String.toList_ofList])
    obtain ⟨rest, same⟩ := List.isPrefixOf_iff_prefix.mp isMarked
    have slashes : slashed path.toList = virtualRoot ++ slashed rest := by
      rw [← same, slashed, List.map_append]
      rfl
    have once : normalizeChars path.toList = virtualRoot ++ tidy (slashed rest) := by
      rw [normalizeChars_eq, slashes, splitRoot_of_mark]
    rw [normalizeChars_normalizeChars, once, splitRoot_of_mark, tidy_tidy]
  · rw [normalizeChars_twice marked]

/-- The second normalisation gives a fixed point, also where the first one does not. -/
theorem normalizeChars_thrice (path : List Char) :
    normalizeChars (normalizeChars (normalizeChars path)) =
      normalizeChars (normalizeChars path) := by
  have marked {path rest : List Char} (same : normalizeChars path = virtualRoot ++ rest) :
      normalizeChars (normalizeChars path) = virtualRoot ++ tidy rest := by
    rw [normalizeChars_normalizeChars, same, splitRoot_of_mark]
  rcases splitRoot_spec (normalizeChars path) with ⟨same, -⟩ | ⟨unmarked, -⟩
  · rw [marked (marked same), tidy_tidy, marked same]
  · rw [normalizeChars_twice unmarked, normalizeChars_twice unmarked]

theorem normalize_normalize_normalize (path : String) :
    normalize (normalize (normalize path)) = normalize (normalize path) := by
  simp [normalize, normalizeChars_thrice]

/-- Two normalised paths are the same path only if they are the same text. -/
theorem same_normalize (a b : String) :
    same (normalize a) (normalize b) = true ↔ normalize a = normalize b := by
  have clean (path : String) : slashed (normalize path).toList = (normalize path).toList := by
    rw [normalize, String.toList_ofList]
    exact slashed_of_not_mem (backslash_not_mem_normalizeChars _)
  rw [same, clean, clean, beq_iff_eq]
  exact String.toList_inj

/-- One normalisation is not enough. -/
example : normalize "./classpath:./a" = "classpath:./a" ∧
    normalize "classpath:./a" = "classpath:a" := by decide

end Path

end Migration
