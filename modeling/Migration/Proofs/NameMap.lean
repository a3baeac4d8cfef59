import Migration.Text.NameMap

/-!
# What maps from names hold

What is found in a map was put there, and the order in which it was put there is forgotten.  The
order of texts does not change when the same front is put in front of all of them, and so a map
keeps its entries in order when its names gain a front.
-/

namespace Migration

theorem append_lt_append_iff (front a b : String) : front ++ a < front ++ b ↔ a < b := by
  rw [String.lt_iff, String.lt_iff, String.toList_append, String.toList_append]
  induction front.toList with
  | nil => rfl
  | cons c front ih => simpa [List.cons_lt_cons_iff] using ih

namespace NameMap

variable {α : Type} {map : NameMap α} {name : String} {value : α} {entry : String × α}

theorem mem_insertEntry {entries : List (String × α)}
    (member : entry ∈ insertEntry name value entries) :
    entry = (name, value) ∨ entry ∈ entries := by
  induction entries with
  | nil => exact .inl (List.mem_singleton.mp member)
  | cons first rest ih =>
      rw [insertEntry] at member
      split at member
      · exact (List.mem_cons.mp member).imp id (List.mem_cons_of_mem first)
      split at member
      · rcases List.mem_cons.mp member with rfl | later
        · exact .inr List.mem_cons_self
        · exact (ih later).imp id (List.mem_cons_of_mem first)
      · exact List.mem_cons.mp member

theorem mem_insert (member : entry ∈ (map.insert name value).entries) :
    entry = (name, value) ∨ entry ∈ map.entries :=
  mem_insertEntry member

theorem insertEntry_comm_of_lt {name other : String} (before : name < other) (value last : α)
    (entries : List (String × α)) :
    insertEntry other last (insertEntry name value entries) =
      insertEntry name value (insertEntry other last entries) := by
  have different : name ≠ other := String.ne_of_lt before
  have notBehind : ¬other < name := String.lt_asymm before
  induction entries with
  | nil => simp only [insertEntry, before, different, different.symm, notBehind, if_true, if_false]
  | cons first rest ih =>
      by_cases less : first.1 < name
      · have early := String.lt_trans less before
        simp only [insertEntry, less, String.ne_of_lt less, early, String.ne_of_lt early, ih,
          if_true, if_false]
      by_cases same : first.1 = name
      · simp only [insertEntry, same, before, different, if_true, if_false]
      by_cases here : first.1 = other
      · simp only [insertEntry, here, before, different, different.symm, notBehind, if_true,
          if_false]
      by_cases ahead : first.1 < other
      · simp only [insertEntry, less, same, here, ahead, before, different, if_true, if_false]
      · simp only [insertEntry, less, same, here, ahead, before, different, different.symm,
          notBehind, if_true, if_false]

/-- What is put under different names may be put there in any order. -/
theorem insert_comm (map : NameMap α) {name other : String} (different : name ≠ other)
    (value last : α) :
    (map.insert name value).insert other last = (map.insert other last).insert name value := by
  by_cases before : name < other
  · exact congrArg NameMap.mk (insertEntry_comm_of_lt before value last map.entries)
  by_cases behind : other < name
  · exact congrArg NameMap.mk (insertEntry_comm_of_lt behind last value map.entries).symm
  · exact absurd (String.le_antisymm (String.not_lt.mp behind) (String.not_lt.mp before)) different

theorem mem_erase (member : entry ∈ (map.erase name).entries) : entry ∈ map.entries :=
  (List.mem_filter.mp member).1

/-- What is found in a map is one of its entries. -/
theorem mem_of_get? (found : map.get? name = some value) : (name, value) ∈ map.entries := by
  obtain ⟨entries⟩ := map
  replace found : findEntry name entries = some value := found
  show (name, value) ∈ entries
  induction entries with
  | nil => cases found
  | cons first rest ih =>
      rw [findEntry] at found
      split at found
      · rename_i same
        cases found
        subst same
        exact List.mem_cons_self
      · exact List.mem_cons_of_mem first (ih found)

theorem mem_keys_of_get? (found : map.get? name = some value) : name ∈ map.keys :=
  List.mem_map_of_mem (mem_of_get? found)

/-- Of the values that were put under their names the last one with a name is found. -/
theorem get?_foldl_insert (nameOf : α → String) (values : List α) (map : NameMap α)
    (name : String) :
    (values.foldl (fun map value => map.insert (nameOf value) value) map).get? name =
      (values.reverse.find? fun value => nameOf value = name).or (map.get? name) := by
  induction values generalizing map with
  | nil => rfl
  | cons first values ih =>
      rw [List.foldl_cons, ih, get?_insert, List.reverse_cons, List.find?_append, Option.or_assoc]
      by_cases named : nameOf first = name <;> simp [named]

theorem mem_keys_insertEntry {entries : List (String × α)} {other : String} :
    other ∈ (insertEntry name value entries).map (·.1) ↔
      other = name ∨ other ∈ entries.map (·.1) := by
  induction entries with
  | nil => simp [insertEntry]
  | cons first rest ih =>
      rw [insertEntry]
      split
      · rename_i same
        simp [same]
      split
      · simp only [List.map_cons, List.mem_cons, ih]
        exact or_left_comm
      · simp

theorem mem_keys_ofList_iff {pairs : List (String × α)} :
    name ∈ (ofList pairs).keys ↔ name ∈ pairs.map (·.1) := by
  have from' (map : NameMap α) :
      name ∈ (pairs.foldl (fun map pair => map.insert pair.1 pair.2) map).keys ↔
        name ∈ map.keys ∨ name ∈ pairs.map (·.1) := by
    induction pairs generalizing map with
    | nil => simp
    | cons pair pairs ih =>
        rw [List.foldl_cons, ih, keys, insert, mem_keys_insertEntry, List.map_cons, List.mem_cons]
        exact (or_congr_left or_comm).trans or_assoc
  exact (from' .empty).trans (by simp [keys, empty])

theorem mem_keys_ofList {pairs : List (String × α)} (member : name ∈ (ofList pairs).keys) :
    name ∈ pairs.map (·.1) :=
  mem_keys_ofList_iff.mp member

theorem ascends_insertEntry {entries : List (String × α)}
    (ascends : (entries.map (·.1)).Pairwise (· < ·)) :
    ((insertEntry name value entries).map (·.1)).Pairwise (· < ·) := by
  induction entries with
  | nil => simp [insertEntry]
  | cons first rest ih =>
      obtain ⟨least, ascends'⟩ := List.pairwise_cons.mp ascends
      rw [insertEntry]
      split
      · rename_i same
        exact List.pairwise_cons.mpr ⟨same ▸ least, ascends'⟩
      split
      · rename_i less
        refine List.pairwise_cons.mpr ⟨fun other member => ?_, ih ascends'⟩
        rcases mem_keys_insertEntry.mp member with rfl | later
        · exact less
        · exact least other later
      · rename_i different notLess
        have less : name < first.1 := Decidable.byContradiction fun notBefore =>
          different (String.le_antisymm (String.not_lt.mp notBefore) (String.not_lt.mp notLess))
        refine List.pairwise_cons.mpr ⟨fun other member => ?_, ascends⟩
        rcases List.mem_cons.mp member with rfl | later
        · exact less
        · exact String.lt_trans less (least other later)

/-- A map has each of its names once, in ascending order. -/
theorem ascends_ofList (pairs : List (String × α)) : (ofList pairs).keys.Pairwise (· < ·) := by
  have from' (map : NameMap α) (ascends : map.keys.Pairwise (· < ·)) :
      (pairs.foldl (fun map pair => map.insert pair.1 pair.2) map).keys.Pairwise (· < ·) := by
    induction pairs generalizing map with
    | nil => exact ascends
    | cons pair pairs ih => exact ih _ (ascends_insertEntry ascends)
  exact from' .empty .nil

/-- Whether a value is that of the last of some pairs with a given name. -/
def IsLast (pairs : List (String × α)) (name : String) (value : α) : Prop :=
  ∃ before after, pairs = before ++ (name, value) :: after ∧ ∀ pair ∈ after, pair.1 ≠ name

theorem isLast_cons {pair : String × α} {pairs : List (String × α)} :
    IsLast (pair :: pairs) name value ↔
      IsLast pairs name value ∨ pair = (name, value) ∧ ∀ other ∈ pairs, other.1 ≠ name := by
  constructor
  · rintro ⟨before, after, same, noneLater⟩
    cases before with
    | nil =>
        obtain ⟨rfl, rfl⟩ := List.cons.inj same
        exact .inr ⟨rfl, noneLater⟩
    | cons first before =>
        obtain ⟨rfl, rfl⟩ := List.cons.inj same
        exact .inl ⟨before, after, rfl, noneLater⟩
  · rintro (⟨before, after, rfl, noneLater⟩ | ⟨rfl, noneLater⟩)
    · exact ⟨pair :: before, after, rfl, noneLater⟩
    · exact ⟨[], pairs, rfl, noneLater⟩

theorem exists_isLast {pairs : List (String × α)} (member : name ∈ pairs.map (·.1)) :
    ∃ value, IsLast pairs name value := by
  induction pairs with
  | nil => cases member
  | cons pair pairs ih =>
      by_cases later : name ∈ pairs.map (·.1)
      · obtain ⟨value, isLast⟩ := ih later
        exact ⟨value, isLast_cons.mpr (.inl isLast)⟩
      · obtain rfl : name = pair.1 := (List.mem_cons.mp member).resolve_right later
        exact ⟨pair.2, isLast_cons.mpr (.inr ⟨rfl, fun other isOther same =>
          later (List.mem_map.mpr ⟨other, isOther, same⟩)⟩)⟩

/-- Of the pairs with one name the last one counts. -/
theorem get?_ofList {pairs : List (String × α)} :
    (ofList pairs).get? name = some value ↔ IsLast pairs name value := by
  have from' (map : NameMap α) :
      (pairs.foldl (fun map pair => map.insert pair.1 pair.2) map).get? name = some value ↔
        IsLast pairs name value ∨
          (∀ pair ∈ pairs, pair.1 ≠ name) ∧ map.get? name = some value := by
    induction pairs generalizing map with
    | nil => simp [IsLast]
    | cons pair pairs ih =>
        rw [List.foldl_cons, ih, isLast_cons, get?_insert, List.forall_mem_cons, or_assoc]
        refine or_congr_right ?_
        obtain ⟨other, last⟩ := pair
        by_cases same : other = name
        · simp [same, and_comm]
        · simp [same]
  exact (from' .empty).trans (by simp)

/-! ## Names with a front -/

/-- A map with a directory in front of each name. -/
def moved (directory : String) (map : NameMap α) : NameMap α :=
  ⟨map.entries.map fun entry => (directory ++ entry.1, entry.2)⟩

theorem insert_moved (directory : String) (map : NameMap α) (name : String) (value : α) :
    (map.moved directory).insert (directory ++ name) value =
      (map.insert name value).moved directory := by
  obtain ⟨entries⟩ := map
  simp only [insert, moved, mk.injEq]
  induction entries with
  | nil => rfl
  | cons entry entries ih =>
      simp only [List.map_cons, insertEntry, String.append_right_inj, append_lt_append_iff, ih]
      split
      · rfl
      · split <;> rfl

theorem get?_moved (directory : String) (map : NameMap α) (name : String) :
    (map.moved directory).get? (directory ++ name) = map.get? name := by
  obtain ⟨entries⟩ := map
  simp only [get?, moved]
  induction entries with
  | nil => rfl
  | cons entry entries ih => simp [findEntry, ih]

theorem keys_moved (directory : String) (map : NameMap α) :
    (map.moved directory).keys = map.keys.map (directory ++ ·) := by
  simp [keys, moved]

theorem ofList_moved (directory : String) (pairs : List (String × α)) :
    ofList (pairs.map fun pair => (directory ++ pair.1, pair.2)) =
      (ofList pairs).moved directory := by
  have from' (map : NameMap α) :
      (pairs.map fun pair => (directory ++ pair.1, pair.2)).foldl
          (fun map pair => map.insert pair.1 pair.2) (map.moved directory) =
        (pairs.foldl (fun map pair => map.insert pair.1 pair.2) map).moved directory := by
    induction pairs generalizing map with
    | nil => rfl
    | cons pair pairs ih =>
        rw [List.map_cons, List.foldl_cons, List.foldl_cons, insert_moved, ih]
  exact from' .empty

end NameMap

end Migration
