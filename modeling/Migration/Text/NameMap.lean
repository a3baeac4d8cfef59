/-!
# Maps from names

A map keeps its entries in the order of their names, so equal maps list equal entries. The main
statements say what `get?` finds after `insert` and after `erase`.
-/

namespace Migration

structure NameMap (α : Type) where
  entries : List (String × α)

namespace NameMap

variable {α : Type}

def empty : NameMap α := ⟨[]⟩

instance : Inhabited (NameMap α) := ⟨empty⟩

def insertEntry (name : String) (value : α) : List (String × α) → List (String × α)
  | [] => [(name, value)]
  | entry :: rest =>
      if entry.1 = name then (name, value) :: rest
      else if entry.1 < name then entry :: insertEntry name value rest
      else (name, value) :: entry :: rest

/-- Puts a value under a name, in place of the one it had. -/
def insert (map : NameMap α) (name : String) (value : α) : NameMap α :=
  ⟨insertEntry name value map.entries⟩

def findEntry (name : String) : List (String × α) → Option α
  | [] => none
  | entry :: rest => if entry.1 = name then some entry.2 else findEntry name rest

def get? (map : NameMap α) (name : String) : Option α :=
  findEntry name map.entries

def erase (map : NameMap α) (name : String) : NameMap α :=
  ⟨map.entries.filter fun entry => entry.1 ≠ name⟩

def contains (map : NameMap α) (name : String) : Bool :=
  (map.get? name).isSome

def keys (map : NameMap α) : List String :=
  map.entries.map (·.1)

def size (map : NameMap α) : Nat :=
  map.entries.length

/-- The map of a list of pairs. Of two pairs with one name the later one counts. -/
def ofList (pairs : List (String × α)) : NameMap α :=
  pairs.foldl (fun map pair => map.insert pair.1 pair.2) empty

theorem findEntry_insertEntry (name other : String) (value : α) (entries : List (String × α)) :
    findEntry other (insertEntry name value entries) =
      if name = other then some value else findEntry other entries := by
  induction entries with
  | nil => rfl
  | cons entry rest ih =>
      obtain ⟨key, old⟩ := entry
      by_cases same : key = name
      · subst same
        by_cases here : key = other <;> simp [insertEntry, findEntry, here]
      · by_cases before : key < name
        · by_cases here : name = other
          · subst here
            simp [insertEntry, findEntry, same, before, ih]
          · simp [insertEntry, findEntry, same, before, ih, here]
        · simp [insertEntry, findEntry, same, before]

@[simp]
theorem get?_insert (map : NameMap α) (name other : String) (value : α) :
    (map.insert name value).get? other = if name = other then some value else map.get? other :=
  findEntry_insertEntry name other value map.entries

@[simp]
theorem get?_empty (name : String) : (empty : NameMap α).get? name = none := rfl

end NameMap

end Migration
