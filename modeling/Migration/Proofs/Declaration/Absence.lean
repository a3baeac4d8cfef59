import Migration.Proofs.Declaration.Changeset
import Migration.Proofs.Declaration.Null

/-!
# Declarations with further attributes that are null

The elements of a script that have a schema may be given further attributes of it as null, at any
depth.  Which schema it is depends on the block in which an element stands; there is one relation for
each kind of block.  What is declared stays the same, and so does the cause for which a declaration is
refused, up to whole changesets.
-/

namespace Migration

/-! ## Items and elements -/

/-- Whether items are the same text, or elements that are related. -/
inductive Item.Related (rel : Element → Element → Prop) : Item Element → Item Element → Prop
  | text (s : String) : Related rel (.text s) (.text s)
  | element {e f : Element} (related : rel e f) : Related rel (.element e) (.element f)

/-- Whether an element is another one to which attributes of a schema have been added as null, on the
same line and with related elements in its block. -/
structure Element.AddsNulls (schema : Schema) (inside : Element → Element → Prop)
    (e f : Element) : Prop where
  name : e.name = f.name
  line : e.line = f.line
  arguments : Argument.AddsNulls schema e.arguments f.arguments
  block : Option.Rel (List.Forall₂ (Item.Related inside)) e.block f.block

/-- Without a schema there is nothing to be added. -/
theorem Argument.AddsNulls.eq_of_nil {first second : List Argument}
    (adds : Argument.AddsNulls [] first second) : first = second := by
  induction adds with
  | refl => rfl
  | tail _ step => cases step with | null _ _ declared => cases declared

namespace Element.AddsNulls

variable {schema : Schema} {inside : Element → Element → Prop} {e f : Element}

theorem refl (related : ∀ e, inside e e) (e : Element) : e.AddsNulls schema inside e where
  name := rfl
  line := rfl
  arguments := .refl
  block := by
    have items (x : Item Element) : Item.Related inside x x := by
      cases x with
      | text s => exact .text s
      | element e => exact .element (related e)
    cases e.block with
    | none => exact .none
    | some xs => exact .some (List.forall₂_same.mpr fun x _ => items x)

theorem isSome_block (adds : e.AddsNulls schema inside f) : e.block.isSome = f.block.isSome := by
  have related := adds.block
  generalize e.block = first at related ⊢
  generalize f.block = second at related ⊢
  cases related <;> rfl

theorem items (adds : e.AddsNulls schema inside f) :
    List.Forall₂ (Item.Related inside) e.items f.items := by
  have related := adds.block
  unfold Element.items
  generalize e.block = first at related ⊢
  generalize f.block = second at related ⊢
  cases related with
  | none => exact .nil
  | some related => exact related

theorem items_eq (adds : e.AddsNulls schema Eq f) : e.items = f.items := by
  rw [← List.forall₂_eq_eq_eq]
  refine adds.items.imp fun x y related => ?_
  cases related with
  | text s => rfl
  | element same => rw [same]

/-- An element without a schema is called in the same way. -/
theorem call_eq (adds : e.AddsNulls [] inside f) (site : Site) : site.call e = site.call f := by
  obtain ⟨_, arguments, block, _⟩ := f
  obtain ⟨name, line, sameArguments, -⟩ := adds
  cases name
  cases line
  cases sameArguments.eq_of_nil
  exact (site.call_withBlock e block).symm

theorem attributes (adds : e.AddsNulls schema inside f) (site : Site) (textParam : Option String) :
    Parallels Attributes.Agree (site.attributes schema textParam e)
      (site.attributes schema textParam f) :=
  (Site.reads_addsNulls adds.name adds.line adds.arguments).2

theorem namedArguments (adds : e.AddsNulls schema inside f) (site : Site) :
    Parallels schema.SeesAlike (site.namedArguments e) (site.namedArguments f) :=
  (@Site.reads_addsNulls site schema none e f adds.name adds.line adds.arguments).1

end Element.AddsNulls

/-- Blocks with related elements are taken in the same way if this holds of each of their items. -/
theorem foldlM_related {Cause α : Type} {rel : Element → Element → Prop}
    {step other : α → Item Element → Except Cause α}
    (each : ∀ before x y, Item.Related rel x y → step before x = other before y)
    {xs ys : List (Item Element)} (related : List.Forall₂ (Item.Related rel) xs ys) (start : α) :
    xs.foldlM step start = ys.foldlM other start := by
  induction related generalizing start with
  | nil => rfl
  | cons first _ ih =>
      rw [List.foldlM_cons, List.foldlM_cons, each start _ _ first]
      exact bind_congr fun middle => ih middle

/-! ## Blocks -/

namespace Nulls

/-- In the block of a column. -/
inductive InColumn : Element → Element → Prop
  | same (e : Element) : InColumn e e
  | constraints {e f : Element} (named : e.name = "constraints")
      (adds : e.AddsNulls Constraints.schema Eq f) : InColumn e f

inductive InWhereParams : Element → Element → Prop
  | same (e : Element) : InWhereParams e e
  | param {e f : Element} (named : e.name = "param")
      (adds : e.AddsNulls Column.standardSchema InColumn f) : InWhereParams e f

/-- In the block of a change of a kind. -/
inductive InChange (kind : ChangeKind) : Element → Element → Prop
  | same (e : Element) : InChange kind e e
  | column {e f : Element} {form : ColumnForm} (named : e.name = "column")
      (takes : kind.columns = some form) (adds : e.AddsNulls form.schema InColumn f) :
      InChange kind e f
  | whereParams {e f : Element} (named : e.name = "whereParams")
      (adds : e.AddsNulls [] InWhereParams f) : InChange kind e f

/-- In a block of changes, such as that of a rollback. -/
inductive InChanges (host : Host) : Element → Element → Prop
  | same (e : Element) : InChanges host e e
  | change {e f : Element} {kind : ChangeKind}
      (known : host.catalog.changes.get? e.name = some kind)
      (adds : e.AddsNulls [] (InChange kind) f) : InChanges host e f

/-- In the block of `modifySql`. -/
inductive InSqlEdits : Element → Element → Prop
  | same (e : Element) : InSqlEdits e e
  | text {e f : Element} (named : e.name = "append" ∨ e.name = "prepend")
      (adds : e.AddsNulls SqlEdit.textSchema Eq f) : InSqlEdits e f
  | replacement {e f : Element} (named : e.name = "replace" ∨ e.name = "regExpReplace")
      (adds : e.AddsNulls SqlEdit.replacementSchema Eq f) : InSqlEdits e f

inductive InChangeset (host : Host) : Element → Element → Prop
  | same (e : Element) : InChangeset host e e
  | preconditions {e f : Element} (named : e.name = "preConditions")
      (adds : e.AddsNulls PreconditionPolicy.schema Eq f) : InChangeset host e f
  | rollback {e f : Element} (named : e.name = "rollback")
      (adds : e.AddsNulls [] (InChanges host) f) : InChangeset host e f
  | modifySql {e f : Element} (named : e.name = "modifySql")
      (adds : e.AddsNulls ScopedSqlEdit.schema InSqlEdits f) : InChangeset host e f
  | change {e f : Element} (unnamed : e.name ∉ Changeset.partNames) (related : InChanges host e f) :
      InChangeset host e f

theorem InChanges.name_eq {host : Host} {e f : Element} (related : InChanges host e f) :
    e.name = f.name := by
  cases related with
  | same => rfl
  | change _ adds => exact adds.name

end Nulls

open Nulls

variable {host : Host} {site : Site} {e f : Element} {given other : Attributes}

/-! ## Columns -/

theorem Constraints.ofAttributes_agree (agree : given.Agree other) :
    ofAttributes given = ofAttributes other := by
  simp only [ofAttributes, agree.text?, agree.flag?]

namespace Column

theorem ofAttributes_agree (agree : given.Agree other) :
    ofAttributes given = ofAttributes other := by
  simp only [ofAttributes, lastValue, agree.text?, agree.flag?, agree.int?]

theorem takeItem_related (name : e.name = f.name) (column : Column) (x y : Item Element)
    (related : Item.Related InColumn x y) : takeItem site e column x = takeItem site f column y := by
  cases related with
  | text s => rw [takeItem, takeItem, name]
  | element related =>
      cases related with
      | same => rw [takeItem, takeItem, name]
      | constraints named adds =>
          rw [takeItem, takeItem, if_pos named, if_pos (adds.name ▸ named)]
          refine (adds.attributes site none).bind_eq fun given other agree => ?_
          rw [Constraints.ofAttributes_agree agree]

theorem ofElement_addsNulls {form : ColumnForm} (adds : e.AddsNulls form.schema InColumn f) :
    ofElement site form e = ofElement site form f := by
  refine (adds.attributes site (some "name")).bind_eq fun given other agree => ?_
  rw [ofAttributes_agree agree]
  exact foldlM_related (takeItem_related adds.name) adds.items _

end Column

/-! ## Changes -/

namespace Change

variable {kind : ChangeKind}

theorem takeWhereParam_related (change : Change) (x y : Item Element)
    (related : Item.Related InWhereParams x y) :
    takeWhereParam site change x = takeWhereParam site change y := by
  cases related with
  | text s => rfl
  | element related =>
      cases related with
      | same => rfl
      | param named adds =>
          have column : Column.ofElement site .standard _ = Column.ofElement site .standard _ :=
            Column.ofElement_addsNulls adds
          rw [takeWhereParam, takeWhereParam, if_pos named, if_pos (adds.name ▸ named), column]

theorem takeItem_related (change : Change) (x y : Item Element)
    (related : Item.Related (InChange kind) x y) :
    takeItem site kind change x = takeItem site kind change y := by
  cases related with
  | text s => rfl
  | element related =>
      rw [takeItem, takeItem]
      cases related with
      | same => rfl
      | column named takes adds =>
          rw [takeElement, takeElement, if_pos named, if_pos (adds.name ▸ named), takes]
          dsimp only
          rw [Column.ofElement_addsNulls adds]
      | whereParams named adds =>
          have params := foldlM_related (@takeWhereParam_related site) adds.items change
          simp [takeElement, named, ← adds.name, params]

theorem ofElement_related (id : String) (related : InChanges host e f) :
    ofElement host site id e = ofElement host site id f := by
  cases related with
  | same => rfl
  | @change _ kind known adds =>
      have sameCall (site : Site) : ofCall site kind e = ofCall site kind f := by
        rw [ofCall, ofCall, adds.call_eq site]
      simp only [ofElement, ← adds.name, known, ofKind, sameCall,
        foldlM_related takeItem_related adds.items]

end Change

/-! ## Edits of SQL -/

namespace SqlEdit

theorem addedText_addsNulls (adds : e.AddsNulls textSchema Eq f) :
    addedText site e = addedText site f := by
  refine (adds.attributes site (some "value")).bind_eq fun given other agree => ?_
  rw [Schema.checkRequired_agree _ _ _ agree, agree.text?, adds.name]

theorem replacement_addsNulls (adds : e.AddsNulls replacementSchema Eq f) :
    replacement site e = replacement site f := by
  refine (adds.attributes site none).bind_eq fun given other agree => ?_
  rw [Schema.checkRequired_agree _ _ _ agree, agree.text?, adds.name]

theorem ofElement_related (isPattern : String → Bool) (related : InSqlEdits e f) :
    ofElement isPattern site e = ofElement isPattern site f := by
  cases related with
  | same => rfl
  | text named adds =>
      rcases named with named | named <;>
        simp [ofElement, named, ← adds.name, addedText_addsNulls adds]
  | replacement named adds =>
      rcases named with named | named <;>
        simp [ofElement, named, ← adds.name, replacement_addsNulls adds]

theorem ofItems_related (isPattern : String → Bool) {xs ys : List (Item Element)}
    (related : List.Forall₂ (Item.Related InSqlEdits) xs ys) :
    ofItems isPattern site xs = ofItems isPattern site ys := by
  induction related with
  | nil => rfl
  | cons first _ ih =>
      cases first with
      | text s => rfl
      | element related => rw [ofItems, ofItems, ofElement_related isPattern related, ih]

end SqlEdit

theorem ScopedSqlEdit.ofElement_addsNulls (isPattern : String → Bool)
    (adds : e.AddsNulls schema InSqlEdits f) :
    ofElement isPattern site e = ofElement isPattern site f := by
  refine (adds.attributes site none).bind_eq fun given other agree => ?_
  have scopes : ofAttributes given = ofAttributes other := by
    funext edit
    simp only [ofAttributes, agree.text?, agree.flag?]
  rw [SqlEdit.ofItems_related isPattern adds.items, scopes]

/-! ## Preconditions -/

theorem PreconditionPolicy.ofAttributes_agree (agree : given.Agree other) :
    ofAttributes given = ofAttributes other := by
  simp only [ofAttributes, choice, agree.text?]

theorem PreconditionContainer.ofElement_addsNulls
    (adds : e.AddsNulls PreconditionPolicy.schema Eq f) :
    ofElement host site e = ofElement host site f := by
  refine (adds.attributes site none).bind_eq fun given other agree => ?_
  rw [PreconditionPolicy.ofAttributes_agree agree, adds.name, adds.line, adds.items_eq]

/-! ## Changesets -/

namespace Changeset

variable {log : Changelog} {changeset : Changeset} {xs ys : List (Item Element)}

theorem takeRollbackItems_related (related : List.Forall₂ (Item.Related (InChanges host)) xs ys) :
    takeRollbackItems host site changeset xs = takeRollbackItems host site changeset ys := by
  induction related generalizing changeset with
  | nil => rfl
  | cons first rest ih =>
      cases first with
      | text s => cases rest <;> rfl
      | @element e f related =>
          have undone : undoneBy host site changeset e = undoneBy host site changeset f := by
            rw [undoneBy, undoneBy, Change.ofElement_related changeset.id related]
          rw [takeRollbackItems, takeRollbackItems, related.name_eq, undone]
          split
          · rfl
          · simp only [ih]

theorem takeRollback_addsNulls (adds : e.AddsNulls [] (InChanges host) f) :
    takeRollback host site log changeset e = takeRollback host site log changeset f := by
  rw [takeRollback, takeRollback, adds.call_eq site]
  refine bind_congr fun call => ?_
  cases call with
  | empty => exact takeRollbackItems_related adds.items
  | positional values =>
      -- Whether there is a block is all that is seen of it beside a bare value.
      have related := adds.block
      dsimp only
      generalize e.block = first at related ⊢
      generalize f.block = second at related ⊢
      cases related with
      | none => rfl
      | some => match values with | [] | [_] | _ :: _ :: _ => rfl
  | named arguments =>
      dsimp only
      rw [adds.isSome_block]

theorem takeElement_related (related : InChangeset host e f) :
    takeElement host site log changeset e = takeElement host site log changeset f := by
  cases related with
  | same => rfl
  | preconditions named adds =>
      have container := @PreconditionContainer.ofElement_addsNulls host site _ _ adds
      simp [takeElement, named, ← adds.name, container]
  | rollback named adds =>
      simp [takeElement, named, ← adds.name, takeRollback_addsNulls adds]
  | modifySql named adds =>
      simp [takeElement, named, ← adds.name, ScopedSqlEdit.ofElement_addsNulls host.isPattern adds]
  | change unnamed related =>
      simp only [partNames, List.mem_cons, List.not_mem_nil, or_false, not_or] at unnamed
      have change := @Change.ofElement_related host site _ _ changeset.id related
      simp [takeElement, unnamed, ← related.name_eq, change]

theorem takeItems_related (related : List.Forall₂ (Item.Related (InChangeset host)) xs ys) :
    takeItems host site log changeset xs = takeItems host site log changeset ys := by
  induction related generalizing changeset with
  | nil => rfl
  | cons first _ ih =>
      cases first with
      | text s => rfl
      | element related => simp only [takeItems, takeElement_related related, ih]

theorem ofAttributes_agree (log : Changelog) (agree : given.Agree other) :
    ofAttributes log given = ofAttributes log other := by
  simp only [ofAttributes, agree.text?, agree.flag?]

theorem ofArguments_seesAlike (log : Changelog) {first second : List (String × Value)}
    (sees : schema.SeesAlike first second) :
    ofArguments log first = ofArguments log second := by
  unfold ofArguments
  rw [sees.undeclared "alwaysRun" (by decide +kernel)]
  split
  · rfl
  · refine (sees.check _ _).bind_eq fun given other agree => ?_
    rw [Schema.checkRequired_agree _ _ _ agree, ofAttributes_agree log agree]

/-- A changeset is the same without the attributes that are null. -/
theorem ofElement_addsNulls (properties : PropertyTable)
    (adds : e.AddsNulls schema (InChangeset host) f) :
    ofElement host properties log e = ofElement host properties log f := by
  refine (adds.namedArguments _).bind_eq fun first second sees => ?_
  rw [ofArguments_seesAlike log sees]
  exact bind_congr fun changeset => takeItems_related adds.items

end Changeset

end Migration
