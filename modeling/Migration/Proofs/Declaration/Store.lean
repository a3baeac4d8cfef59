import Migration.Declaration.Changeset

/-!
# Declarations and files

What an element declares has nothing to do with the files of a host: preconditions and changesets
are the same when the host has another store.
-/

namespace Migration

namespace Precondition

mutual
theorem ofElement_withStore (host : Host) (store : Store) (site : Site) : (e : Element) →
    ofElement { host with store } site e = ofElement host site e
  | ⟨name, arguments, block, line⟩ => by
      rw [ofElement, ofElement]
      cases combination? name with
      | none => rfl
      | some combine =>
          cases arguments with
          | cons argument arguments => rfl
          | nil =>
              cases block with
              | none => rfl
              | some items =>
                  dsimp only
                  rw [ofItems_withStore host store site name line items]

theorem ofItems_withStore (host : Host) (store : Store) (site : Site) (name : String)
    (line : Nat) : (items : List (Item Element)) →
    ofItems { host with store } site name line items = ofItems host site name line items
  | [] => by rw [ofItems, ofItems]
  | .text _ :: _ => by rw [ofItems, ofItems]
  | .element e :: items => by
      rw [ofItems, ofItems, ofElement_withStore host store site e,
        ofItems_withStore host store site name line items]
end

end Precondition

theorem PreconditionContainer.ofElement_withStore (host : Host) (store : Store) (site : Site)
    (e : Element) : ofElement { host with store } site e = ofElement host site e := by
  simp only [ofElement, Precondition.ofItems_withStore]

namespace Changeset

theorem takeRollbackItems_withStore (host : Host) (store : Store) (site : Site)
    (changeset : Changeset) (items : List (Item Element)) :
    takeRollbackItems { host with store } site changeset items =
      takeRollbackItems host site changeset items := by
  induction items generalizing changeset with
  | nil => rfl
  | cons item items ih =>
      cases item with
      | text s => cases items <;> rfl
      | element e =>
          have undone : undoneBy { host with store } site changeset e =
              undoneBy host site changeset e := rfl
          simp only [takeRollbackItems, undone, ih]

theorem takeRollback_withStore (host : Host) (store : Store) (site : Site) (log : Changelog)
    (changeset : Changeset) (e : Element) :
    takeRollback { host with store } site log changeset e =
      takeRollback host site log changeset e := by
  unfold takeRollback
  simp only [takeRollbackItems_withStore]
  rfl

theorem takeElement_withStore (host : Host) (store : Store) (site : Site) (log : Changelog)
    (changeset : Changeset) (e : Element) :
    takeElement { host with store } site log changeset e =
      takeElement host site log changeset e := by
  unfold takeElement
  rw [PreconditionContainer.ofElement_withStore, takeRollback_withStore]
  rfl

theorem takeItems_withStore (host : Host) (store : Store) (site : Site) (log : Changelog)
    (changeset : Changeset) (items : List (Item Element)) :
    takeItems { host with store } site log changeset items =
      takeItems host site log changeset items := by
  induction items generalizing changeset with
  | nil => rfl
  | cons item items ih =>
      cases item with
      | text s => rfl
      | element e => simp only [takeItems, takeElement_withStore, ih]

theorem ofElement_withStore (host : Host) (store : Store) (properties : PropertyTable)
    (log : Changelog) (e : Element) :
    ofElement { host with store } properties log e = ofElement host properties log e := by
  simp only [ofElement, takeItems_withStore]

end Changeset

end Migration
