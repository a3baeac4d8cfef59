import Migration.Proofs.Declaration.BareValue
import Migration.Proofs.Declaration.Given

/-!
# Bodies of changes

The bare texts in the block of a change are lines of its body, after what the call gives to the
parameter that is the body.  The main statement, `Change.params_ofKind`, says that no line is lost
whatever stands between the texts, and that nothing else is seen of them.
-/

namespace Migration

/-! ## Blocks -/

def Item.text? {α : Type} : Item α → Option String
  | .text s => some s
  | .element _ => none

def Item.element? {α : Type} : Item α → Option α
  | .text _ => none
  | .element e => some e

/-- What the bare texts of a block stand for, in order. -/
def Site.texts (site : Site) (items : List (Item Element)) : List String :=
  (items.filterMap Item.text?).map site.expand

/-- An element without the bare texts of its block. -/
def Element.withoutTexts (e : Element) : Element :=
  { e with block := e.block.map fun items => (items.filterMap Item.element?).map .element }

theorem Element.items_withoutTexts (e : Element) :
    e.withoutTexts.items = (e.items.filterMap Item.element?).map .element := by
  unfold withoutTexts items
  cases e.block <;> rfl

/-! ## Lines of a text -/

namespace Attributes

/-- One more line of the text of an attribute. -/
def addLine (name : String) (given : Attributes) (line : String) : Attributes :=
  given.insert name (.text ("\n".intercalate ((given.text? name).toList ++ [line])))

theorem text?_addLine (name : String) (given : Attributes) (line : String) :
    (given.addLine name line).text? name =
      some ("\n".intercalate ((given.text? name).toList ++ [line])) := by
  simp [addLine, text?, NameMap.get?_insert, Value.text?]

/-- An attribute that is declared as a text is one if it is not null. -/
theorem text?_of_types {schema : Schema} {given : Attributes} {name : String} {param : Param}
    (types : schema.Types given) (declared : schema.find? name = some param)
    (isText : param.type = .text) : given.text? name = (given.get? name).bind Value.plain? := by
  unfold text?
  cases found : given.get? name with
  | none => rfl
  | some value =>
      obtain ⟨known, isKnown, admitted⟩ := types.admits found
      obtain rfl := Option.some.inj (declared.symm.trans isKnown)
      rw [isText] at admitted
      cases value with
      | null | text s => rfl
      | bool b | int n | float x | list items => cases admitted

/-- Lines are joined to the text of their attribute and touch no other one. -/
theorem get?_addLines (given : Attributes) (name : String) (lines : List String) (other : String) :
    (lines.foldl (addLine name) given).get? other =
      if other = name ∧ lines ≠ [] then
        some (.text ("\n".intercalate ((given.text? name).toList ++ lines)))
      else given.get? other := by
  induction lines generalizing given with
  | nil => simp
  | cons line lines ih =>
      rw [List.foldl_cons, ih, text?_addLine]
      by_cases same : other = name
      · subst same
        cases lines with
        | nil => simp [addLine, NameMap.get?_insert]
        | cons next lines =>
            have joined := String.intercalate_append_of_ne_nil (s := "\n")
              (l := (given.text? other).toList ++ [line]) (m := next :: lines) (by simp) (by simp)
            simp [← joined]
      · simp [same, addLine, NameMap.get?_insert, Ne.symm same]

end Attributes

/-! ## Changes -/

namespace Change

variable {host : Host} {site : Site} {kind : ChangeKind} {change : Change} {e : Element}
  {body : String}

def withParams (change : Change) (params : Attributes) : Change :=
  { change with params }

theorem addText_eq (change : Change) (body text : String) :
    change.addText body text = change.withParams (change.params.addLine body text) := by
  unfold addText Attributes.addLine
  cases change.params.text? body <;> rfl

/-- The parameters of a block are taken whatever the parameters of the call are. -/
theorem foldlM_takeWhereParam_withParams (items : List (Item Element)) (change : Change)
    (params : Attributes) :
    items.foldlM (takeWhereParam site) (change.withParams params) =
      (items.foldlM (takeWhereParam site) change).map (·.withParams params) := by
  have step (change : Change) (item : Item Element) :
      takeWhereParam site (change.withParams params) item =
        (takeWhereParam site change item).map (·.withParams params) := by
    cases item with
    | text s => rfl
    | element e =>
        simp only [takeWhereParam]
        split
        · cases Column.ofElement site .standard e <;> rfl
        · rfl
  induction items generalizing change with
  | nil => rfl
  | cons item items ih =>
      rw [List.foldlM_cons, List.foldlM_cons, step]
      cases takeWhereParam site change item with
      | error cause => rfl
      | ok taken => exact ih taken

/-- An element of the block is taken whatever the parameters are, and leaves them as they are. -/
theorem takeElement_withParams (change : Change) (e : Element) (params : Attributes) :
    takeElement site kind (change.withParams params) e =
      (takeElement site kind change e).map (·.withParams params) := by
  unfold takeElement
  split
  · split
    · rfl
    · rename_i form _
      cases Column.ofElement site form e <;> rfl
  split
  · split
    · rfl
    split
    · cases site.textContent e <;> rfl
    · exact foldlM_takeWhereParam_withParams e.items change params
  split
  · cases site.commandArgument e <;> rfl
  split
  · cases site.customParam e <;> rfl
  split
  · cases site.textContent e <;> rfl
  · rfl

theorem foldlM_takeElement_withParams (elements : List Element) (change : Change)
    (params : Attributes) :
    elements.foldlM (takeElement site kind) (change.withParams params) =
      (elements.foldlM (takeElement site kind) change).map (·.withParams params) := by
  induction elements generalizing change with
  | nil => rfl
  | cons e elements ih =>
      rw [List.foldlM_cons, List.foldlM_cons, takeElement_withParams]
      cases takeElement site kind change e with
      | error cause => rfl
      | ok taken => exact ih taken

theorem params_takeElement {taken : Change} (isTaken : takeElement site kind change e = .ok taken) :
    taken.params = change.params := by
  have same := @takeElement_withParams site kind change e change.params
  rw [show change.withParams change.params = change from rfl, isTaken] at same
  have kept : taken = taken.withParams change.params := Except.ok.inj same
  calc taken.params
      = (taken.withParams change.params).params := congrArg Change.params kept
    _ = change.params := rfl

/-- The texts and the elements of a block are taken apart from each other: the texts as lines of
the body, and the elements as if no text stood between them. -/
theorem foldlM_takeItem (hasBody : kind.body = some body) (items : List (Item Element))
    (change : Change) :
    items.foldlM (takeItem site kind) change =
      ((items.filterMap Item.element?).foldlM (takeElement site kind) change).map
        (·.withParams ((site.texts items).foldl (Attributes.addLine body) change.params)) := by
  -- A text is moved behind all elements: they do not look at the parameters that it changes.
  induction items generalizing change with
  | nil => rfl
  | cons item items ih =>
      cases item with
      | text s =>
          have first : takeItem site kind change (.text s) =
              .ok (change.withParams (change.params.addLine body (site.expand s))) := by
            rw [takeItem, hasBody, ← addText_eq]
          rw [List.foldlM_cons, first]
          refine (ih _).trans ?_
          rw [foldlM_takeElement_withParams, List.filterMap_cons_none rfl]
          cases (items.filterMap Item.element?).foldlM (takeElement site kind) change <;> rfl
      | element e =>
          rw [List.foldlM_cons, List.filterMap_cons_some (f := Item.element?) rfl, List.foldlM_cons]
          show takeElement site kind change e >>= _ = _
          cases isTaken : takeElement site kind change e with
          | error cause => rfl
          | ok taken =>
              rw [← params_takeElement isTaken]
              exact ih taken

theorem ofKind_of_lax (lax : host.configuration.strictParameters = false) :
    ofKind host site kind e =
      ofCall site kind e >>= fun called => e.items.foldlM (takeItem site kind) called := by
  unfold ofKind
  cases ofCall site kind e with
  | error cause => rfl
  | ok called =>
      show e.items.foldlM (takeItem site kind) called >>= _ = e.items.foldlM (takeItem site kind) called
      cases e.items.foldlM (takeItem site kind) called with
      | error cause => rfl
      | ok change => simp [lax, bind, Except.bind, pure, Except.pure]

/-- A change of a kind with a text for its body has, before the kind finishes it, the lines of its
body in order: what the call gives, if it is not null, and then the bare texts of the block, whatever
stands between them.  All else that it has is what it would have without these texts, and in a build
that does not ask for required parameters they are no cause for it to fail. -/
theorem params_ofKind {param : Param} (hasBody : kind.body = some body)
    (declared : kind.params.find? body = some param) (isText : param.type = .text) :
    (∀ change, ofKind host site kind e = .ok change → ∀ name, change.params.get? name =
      if name = body ∧ site.texts e.items ≠ [] then
        some (.text ("\n".intercalate
          (((site.given? kind.params kind.textParam e body).bind Value.plain?).toList ++
            site.texts e.items)))
      else site.given? kind.params kind.textParam e name) ∧
    (host.configuration.strictParameters = false →
      (ofKind host site kind e).map (·.withParams .empty) =
        (ofKind host site kind e.withoutTexts).map (·.withParams .empty)) := by
  constructor
  · intro change read name
    obtain ⟨⟨called, isCalled, isTaken⟩, -⟩ := ofKind_eq_ok.mp read
    rw [foldlM_takeItem hasBody] at isTaken
    obtain ⟨taken, -, rfl⟩ := map_eq_ok.mp isTaken
    have text := Attributes.text?_of_types (isOf_ofCall isCalled).2.params declared isText
    rw [get?_ofCall isCalled] at text
    rw [withParams, Attributes.get?_addLines, text, get?_ofCall isCalled]
  · intro lax
    rw [ofKind_of_lax lax, ofKind_of_lax lax]
    have sameCall : ofCall site kind e.withoutTexts = ofCall site kind e := by
      rw [ofCall, ofCall, Element.withoutTexts, site.call_withBlock]
    rw [sameCall, Element.items_withoutTexts]
    cases ofCall site kind e with
    | error cause => rfl
    | ok called =>
        have elements : ((e.items.filterMap Item.element?).map Item.element).filterMap
            Item.element? = e.items.filterMap Item.element? := by
          simp [List.filterMap_map, Function.comp_def, Item.element?]
        show Except.map _ (List.foldlM _ _ _) = Except.map _ (List.foldlM _ _ _)
        rw [foldlM_takeItem hasBody, foldlM_takeItem hasBody, elements]
        cases (e.items.filterMap Item.element?).foldlM (takeElement site kind) called <;> rfl

/-- A piece of SQL that is given in part as an attribute and in part as two texts with a comment
between them. -/
def scatteredSql : Element where
  name := "sql"
  arguments := [⟨some "sql", .str "begin"⟩]
  block := some [.text "drop table ${table}",
    .element ⟨"comment", [⟨none, .str "old"⟩], none, 2⟩, .text "end"]
  line := 1

theorem params_ofKind_scatteredSql :
    let host : Host := { store := MemoryStore.toStore {} }
    ∃ kind change, host.catalog.changes.get? "sql" = some kind ∧ kind.body = some "sql" ∧
      kind.params.find? "sql" = some ⟨"sql", .text, true⟩ ∧
      ofKind host tableSite kind scatteredSql = .ok change ∧
      change.params.get? "sql" = some (.text "begin\ndrop table person\nend") := by
  intro host
  have builtin : (host.catalog.changes.get? "sql").map (fun kind =>
      (kind.body, kind.params.find? "sql",
        (ofKind host tableSite kind scatteredSql).toOption.isSome,
        ((tableSite.given? kind.params kind.textParam scatteredSql "sql").bind Value.plain?),
        tableSite.texts scatteredSql.items)) =
      some (some "sql", some ⟨"sql", .text, true⟩, true, some "begin",
        ["drop table person", "end"]) := by
    rw [show host.catalog.changes.get? _ = _ from Catalog.get?_changes_builtin _]
    decide +kernel
  obtain ⟨kind, known, facts⟩ := Option.map_eq_some_iff.mp builtin
  simp only [Prod.mk.injEq] at facts
  obtain ⟨hasBody, declared, reads, given, texts⟩ := facts
  obtain ⟨change, found⟩ := Option.isSome_iff_exists.mp reads
  have read := eq_ok_of_toOption found
  refine ⟨kind, change, known, hasBody, declared, read, ?_⟩
  rw [(params_ofKind hasBody declared rfl).1 change read "sql", given, texts]
  rfl

end Change

end Migration
