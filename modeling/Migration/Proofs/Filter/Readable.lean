import Migration.Proofs.Filter.Formula

/-!
# Expressions that are read to their end

Reading is lenient: where an operand should stand, `or` and `and` count as true ones.  It still reads
some tokens as one operand behind the other with operators between them, and others it does not: it
leaves off where two operands stand side by side, and it waits for an operand behind an operator that
ends a group.  The main statement, `isReadable_iff`, says that the first kind is decided in one pass.
-/

namespace Migration.Filter

/-- Tokens that are read up to their end and end with an operand.  Where an operand should stand, `or`
and `and` count as one. -/
inductive IsReadable : List Token → Prop where
  | name (s : List Char) : IsReadable [.name s]
  | or : IsReadable [.or]
  | and : IsReadable [.and]
  | not {read : List Token} (inner : IsReadable read) : IsReadable (.not :: read)
  | group {read : List Token} (inner : IsReadable read) :
      IsReadable (.opening :: (read ++ [.closing]))
  | alternatives {first second : List Token} (left : IsReadable first) (right : IsReadable second) :
      IsReadable (first ++ .or :: second)
  | conjuncts {first second : List Token} (left : IsReadable first) (right : IsReadable second) :
      IsReadable (first ++ .and :: second)

/-! ## Values -/

variable {holds : List Char → Bool}

/-- Readable tokens are one operand, or several with operators between them. -/
theorem IsReadable.reads {read : List Token} (readable : IsReadable read) (level : Level) :
    ∃ last : Level, last.negated = false ∧ ∀ outer rest,
      atOperand holds level outer (read ++ rest) = atOperator holds last outer rest := by
  induction readable generalizing level with
  | name s => exact ⟨level.operand (holds s), rfl, fun outer rest => rfl⟩
  | or => exact ⟨level.operand true, rfl, fun outer rest => rfl⟩
  | and => exact ⟨level.operand true, rfl, fun outer rest => rfl⟩
  | not _ ih => exact ih _
  | group _ ih =>
      obtain ⟨last, -, reads⟩ := ih .start
      refine ⟨level.operand last.value, rfl, fun outer rest => ?_⟩
      rw [List.cons_append, List.append_assoc, atOperand, reads, List.singleton_append, atOperator]
  | alternatives _ _ left right =>
      obtain ⟨last, -, readsFirst⟩ := left level
      obtain ⟨ends, plain, readsSecond⟩ := right ⟨last.value, true, false⟩
      refine ⟨ends, plain, fun outer rest => ?_⟩
      rw [List.append_assoc, readsFirst, List.cons_append, atOperator, readsSecond]
  | conjuncts _ _ left right =>
      obtain ⟨last, -, readsFirst⟩ := left level
      obtain ⟨ends, plain, readsSecond⟩ := right last
      refine ⟨ends, plain, fun outer rest => ?_⟩
      rw [List.append_assoc, readsFirst, List.cons_append, atOperator, readsSecond]

/-! ## Decision -/

mutual
/-- Whether tokens are read to their end from where an operand should stand inside of some groups, so
that all of the groups are closed, and none by a parenthesis that is taken for an operand. -/
def endsFromOperand (depth : Nat) : List Token → Bool
  | [] => false
  | .name _ :: read => endsFromOperator depth read
  | .or :: read => endsFromOperator depth read
  | .and :: read => endsFromOperator depth read
  | .not :: read => endsFromOperand depth read
  | .opening :: read => endsFromOperand (depth + 1) read
  | .closing :: _ => false

/-- The same from behind an operand. -/
def endsFromOperator (depth : Nat) : List Token → Bool
  | [] => depth == 0
  | .or :: read => endsFromOperand depth read
  | .and :: read => endsFromOperand depth read
  | .closing :: read => decide (0 < depth) && endsFromOperator (depth - 1) read
  | .name _ :: _ => false
  | .not :: _ => false
  | .opening :: _ => false
end

theorem IsReadable.endsFromOperand_append {read : List Token} (readable : IsReadable read)
    (depth : Nat) (rest : List Token) :
    endsFromOperand depth (read ++ rest) = endsFromOperator depth rest := by
  induction readable generalizing depth rest with
  | name | or | and => rfl
  | not _ ih => exact ih depth rest
  | group _ ih =>
      rw [List.cons_append, List.append_assoc, endsFromOperand, ih]
      rfl
  | alternatives _ _ left right =>
      rw [List.append_assoc, left, List.cons_append, endsFromOperator, right]
  | conjuncts _ _ left right =>
      rw [List.append_assoc, left, List.cons_append, endsFromOperator, right]

/-- Tokens behind which everything readable is readable with them. -/
def IsFront (front : List Token) : Prop :=
  ∀ read, IsReadable read → IsReadable (front ++ read)

/-- Tokens inside of groups that are open, each behind the tokens in front of it. -/
def inside : List (List Token) → List Token → List Token
  | [], read => read
  | front :: fronts, read => inside fronts (front ++ .opening :: read)

/-- What has been read in front of some tokens is readable together with them, if they are read to
their end. -/
theorem isReadable_inside {read : List Token} {fronts : List (List Token)}
    (areFronts : ∀ front ∈ fronts, IsFront front) :
    (∀ front, IsFront front → endsFromOperand fronts.length read = true →
      IsReadable (inside fronts (front ++ read))) ∧
    (∀ before, IsReadable before → endsFromOperator fronts.length read = true →
      IsReadable (inside fronts (before ++ read))) := by
  induction read generalizing fronts with
  | nil =>
      refine ⟨fun front _ ends => (Bool.false_ne_true ends).elim, fun before readable ends => ?_⟩
      obtain rfl := List.length_eq_zero_iff.mp (eq_of_beq ends)
      rwa [List.append_nil]
  | cons token read ih =>
      have operand (single : IsReadable [token]) (front : List Token) (isFront : IsFront front)
          (ends : endsFromOperator fronts.length read = true) :
          IsReadable (inside fronts (front ++ token :: read)) := by
        have next := (ih areFronts).2 (front ++ [token]) (isFront _ single) ends
        rwa [List.append_assoc] at next
      have operator (before : List Token) (isFront : IsFront (before ++ [token]))
          (ends : endsFromOperand fronts.length read = true) :
          IsReadable (inside fronts (before ++ token :: read)) := by
        have next := (ih areFronts).1 (before ++ [token]) isFront ends
        rwa [List.append_assoc] at next
      cases token with
      | name s => exact ⟨operand (.name s), fun _ _ ends => (Bool.false_ne_true ends).elim⟩
      | or =>
          refine ⟨operand .or, fun before readable => operator before fun read right => ?_⟩
          rw [List.append_assoc]
          exact .alternatives readable right
      | and =>
          refine ⟨operand .and, fun before readable => operator before fun read right => ?_⟩
          rw [List.append_assoc]
          exact .conjuncts readable right
      | not =>
          refine ⟨fun front isFront => operator front fun read inner => ?_,
            fun _ _ ends => (Bool.false_ne_true ends).elim⟩
          rw [List.append_assoc]
          exact isFront _ (.not inner)
      | opening =>
          refine ⟨fun front isFront ends => ?_, fun _ _ ends => (Bool.false_ne_true ends).elim⟩
          exact (ih (List.forall_mem_cons.mpr ⟨isFront, areFronts⟩)).1 [] (fun _ => id) ends
      | closing =>
          refine ⟨fun _ _ ends => (Bool.false_ne_true ends).elim, fun before readable ends => ?_⟩
          obtain ⟨positive, ends⟩ := (Bool.and_eq_true _ _).mp ends
          obtain ⟨front, fronts, rfl⟩ :=
            List.exists_cons_of_length_pos (of_decide_eq_true positive)
          obtain ⟨isFront, areFronts⟩ := List.forall_mem_cons.mp areFronts
          have next := (ih areFronts).2 _ (isFront _ (.group readable)) ends
          simpa [inside] using next

/-- Tokens are readable if and only if they are read to their end. -/
theorem isReadable_iff {read : List Token} :
    IsReadable read ↔ endsFromOperand 0 read = true := by
  refine ⟨fun readable => ?_, fun ends => ?_⟩
  · have whole := readable.endsFromOperand_append 0 []
    rw [List.append_nil] at whole
    exact whole
  · have areFronts : ∀ front ∈ ([] : List (List Token)), IsFront front := nofun
    exact (isReadable_inside areFronts).1 [] (fun _ => id) ends

instance : DecidablePred IsReadable :=
  fun _ => decidable_of_iff _ isReadable_iff.symm

example : IsReadable (tokens "and, not (or) and a".toList) := by decide
example : ¬ IsReadable (tokens "a and".toList) ∧ ¬ IsReadable (tokens "a b".toList) := by decide

end Migration.Filter
