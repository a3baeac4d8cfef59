import Migration.Declaration.Change
import Migration.Proofs.Catalog
import Migration.Proofs.Schema

/-!
# Declared changes and their kinds

A declared change has no more than its kind allows: its parameters are declared, with values of the
declared types, and each other part is there only if the kind takes it.  This holds after the texts
of the block have been added and after the kind has finished the change.
-/

namespace Migration

/-! ## Columns -/

/-- Whether a column has only attributes of its form: a place among the others if it is added, and
a place in a file if it is loaded. -/
structure ColumnForm.Admits (form : ColumnForm) (column : Column) : Prop where
  place : column.beforeColumn.isSome ∨ column.afterColumn.isSome ∨ column.position.isSome →
    form = .added
  source : column.header.isSome ∨ column.index.isSome → form = .loaded

theorem Site.types_attributes {site : Site} {schema : Schema} {textParam : Option String}
    {e : Element} {given : Attributes}
    (read : site.attributes schema textParam e = .ok given) : schema.Types given := by
  unfold Site.attributes at read
  obtain ⟨call, -, read⟩ := bind_eq_ok.mp read
  split at read
  · cases read
    exact Schema.types_empty
  · exact Schema.types_check read
  · exact Schema.types_check read
  · cases read

namespace Attributes

variable {schema : Schema} {given : Attributes} {name : String}

theorem get?_eq_none (types : schema.Types given) (undeclared : schema.find? name = none) :
    given.get? name = none := by
  cases found : given.get? name with
  | none => rfl
  | some value =>
      obtain ⟨param, declared, -⟩ := types.admits found
      rw [undeclared] at declared
      cases declared

theorem text?_eq_none (types : schema.Types given) (undeclared : schema.find? name = none) :
    given.text? name = none := by
  rw [text?, get?_eq_none types undeclared]
  rfl

theorem int?_eq_none (types : schema.Types given) (undeclared : schema.find? name = none) :
    given.int? name = none := by
  rw [int?, get?_eq_none types undeclared]
  rfl

end Attributes

namespace Column

/-- Attributes that a form does not declare leave a column without them. -/
theorem admits_ofAttributes {form : ColumnForm} {given : Attributes}
    (types : form.schema.Types given) : form.Admits (ofAttributes given) := by
  refine ⟨?_, ?_⟩
  · intro hasPlace
    cases form with
    | added => rfl
    | standard | loaded =>
        simp only [ofAttributes] at hasPlace
        rw [Attributes.text?_eq_none types (by decide +kernel),
          Attributes.text?_eq_none types (by decide +kernel),
          Attributes.int?_eq_none types (by decide +kernel)] at hasPlace
        simp at hasPlace
  · intro hasSource
    cases form with
    | loaded => rfl
    | standard | added =>
        simp only [ofAttributes] at hasSource
        rw [Attributes.text?_eq_none types (by decide +kernel),
          Attributes.int?_eq_none types (by decide +kernel)] at hasSource
        simp at hasSource

theorem admits_ofElement {site : Site} {form : ColumnForm} {e : Element} {column : Column}
    (read : ofElement site form e = .ok column) : form.Admits column := by
  obtain ⟨given, called, read⟩ := bind_eq_ok.mp read
  refine of_foldlM_eq_ok ?_ read (admits_ofAttributes (Site.types_attributes called))
  intro before item after taken admits
  cases item with
  | text s => cases taken
  | element child =>
      simp only [takeItem] at taken
      split at taken
      · obtain ⟨given, -, taken⟩ := bind_eq_ok.mp taken
        cases taken
        exact ⟨admits.place, admits.source⟩
      · cases taken

end Column

/-! ## Changes -/

/-- Whether a change has no more than a kind allows. -/
structure ChangeKind.Admits (kind : ChangeKind) (change : Change) : Prop where
  params : kind.params.Types change.params
  columns : ∀ column ∈ change.columns, ∃ form, kind.columns = some form ∧ form.Admits column
  whereClause : change.whereClause.isSome → kind.takesWhere
  whereParams : ∀ column ∈ change.whereParams,
    kind.takesWhere ∧ ColumnForm.standard.Admits column
  arguments : change.arguments ≠ [] → kind.takesArguments
  customParams : change.customParams ≠ [] → kind.takesCustomParams
  comment : change.comment.isSome → kind.takesComment

namespace ChangeKind.Admits

variable {kind : ChangeKind} {change : Change}

/-- A change with parameters alone. -/
theorem ofParams {params : Attributes} (types : kind.params.Types params) :
    kind.Admits { kind := kind.name, params } where
  params := types
  columns _ member := by cases member
  whereClause isSome := by cases isSome
  whereParams _ member := by cases member
  arguments notEmpty := absurd rfl notEmpty
  customParams notEmpty := absurd rfl notEmpty
  comment isSome := by cases isSome

theorem set (admits : kind.Admits change) {name : String} {value : Value} {param : Param}
    (declared : kind.params.find? name = some param) (admitted : param.type.admits value) :
    kind.Admits (change.set name value) :=
  { admits with params := admits.params.insert declared admitted }

end ChangeKind.Admits

namespace Change

variable {kind : ChangeKind} {site : Site}

theorem kind_addText (change : Change) (body text : String) :
    (change.addText body text).kind = change.kind := by
  unfold addText
  split <;> rfl

theorem admits_addText {change : Change} (admits : kind.Admits change) {body : String}
    {param : Param} (declared : kind.params.find? body = some param) (isText : param.type = .text)
    (text : String) : kind.Admits (change.addText body text) := by
  have admitted (s : String) : param.type.admits (.text s) := by
    rw [isText]
    rfl
  unfold addText
  split
  · exact admits.set declared (admitted _)
  · exact admits.set declared (admitted _)

/-- What the items of the block of a change keep: its kind, and that the kind admits it. -/
def IsOf (kind : ChangeKind) (change : Change) : Prop :=
  change.kind = kind.name ∧ kind.Admits change

theorem isOf_takeWhereParam {before after : Change} {item : Item Element}
    (takesWhere : kind.takesWhere) (taken : takeWhereParam site before item = .ok after)
    (isOf : before.IsOf kind) : after.IsOf kind := by
  obtain ⟨same, admits⟩ := isOf
  cases item with
  | text s => cases taken
  | element e =>
      simp only [takeWhereParam] at taken
      split at taken
      · obtain ⟨column, read, taken⟩ := bind_eq_ok.mp taken
        cases taken
        refine ⟨same, { admits with whereParams := ?_ }⟩
        intro other member
        rcases List.mem_append.mp member with before | last
        · exact admits.whereParams other before
        · obtain rfl := List.mem_singleton.mp last
          exact ⟨takesWhere, Column.admits_ofElement read⟩
      · cases taken

theorem isOf_takeElement {before after : Change} {e : Element}
    (taken : takeElement site kind before e = .ok after) (isOf : before.IsOf kind) :
    after.IsOf kind := by
  obtain ⟨same, admits⟩ := isOf
  unfold takeElement at taken
  split at taken
  · split at taken
    · cases taken
    · rename_i form takesColumns
      obtain ⟨column, read, taken⟩ := bind_eq_ok.mp taken
      cases taken
      refine ⟨same, { admits with columns := ?_ }⟩
      intro other member
      rcases List.mem_append.mp member with before | last
      · exact admits.columns other before
      · obtain rfl := List.mem_singleton.mp last
        exact ⟨form, takesColumns, Column.admits_ofElement read⟩
  split at taken
  · split at taken
    · cases taken
    rename_i takesWhere
    replace takesWhere : kind.takesWhere := by simpa using takesWhere
    split at taken
    · obtain ⟨text, -, taken⟩ := bind_eq_ok.mp taken
      cases taken
      exact ⟨same, { admits with whereClause := fun _ => takesWhere }⟩
    · exact of_foldlM_eq_ok (isOf_takeWhereParam takesWhere) taken ⟨same, admits⟩
  split at taken
  · rename_i takes
    obtain ⟨argument, -, taken⟩ := bind_eq_ok.mp taken
    cases taken
    exact ⟨same, { admits with arguments := fun _ => takes.2 }⟩
  split at taken
  · rename_i takes
    obtain ⟨param, -, taken⟩ := bind_eq_ok.mp taken
    cases taken
    exact ⟨same, { admits with customParams := fun _ => takes.2 }⟩
  split at taken
  · rename_i takes
    obtain ⟨text, -, taken⟩ := bind_eq_ok.mp taken
    cases taken
    exact ⟨same, { admits with comment := fun _ => takes.2 }⟩
  · cases taken

theorem isOf_takeItem
    (bodyIsText : ∀ body ∈ kind.body, ∃ param, kind.params.find? body = some param ∧
      param.type = .text)
    {before after : Change} {item : Item Element}
    (taken : takeItem site kind before item = .ok after) (isOf : before.IsOf kind) :
    after.IsOf kind := by
  cases item with
  | element e => exact isOf_takeElement taken isOf
  | text s =>
      unfold takeItem at taken
      dsimp only at taken
      split at taken
      · cases taken
      · rename_i body isBody
        cases taken
        obtain ⟨param, declared, isText⟩ := bodyIsText body isBody
        exact ⟨(kind_addText ..).trans isOf.1, admits_addText isOf.2 declared isText _⟩

theorem isOf_ofCall {e : Element} {change : Change} (read : ofCall site kind e = .ok change) :
    change.IsOf kind := by
  obtain ⟨call, -, read⟩ := bind_eq_ok.mp read
  split at read
  · cases read
    exact ⟨rfl, .ofParams Schema.types_empty⟩
  · obtain ⟨params, checked, read⟩ := bind_eq_ok.mp read
    cases read
    exact ⟨rfl, .ofParams (Schema.types_check checked)⟩
  · split at read
    · rename_i param value found
      obtain ⟨converted, accepted, read⟩ := bind_eq_ok.mp read
      cases read
      obtain ⟨name, -, declared⟩ := Option.bind_eq_some_iff.mp found
      have types : kind.params.Types (.ofList [(param.name, converted)]) := by
        refine Schema.types_empty.insert ?_ (Param.admits_of_convert accepted)
        rw [Schema.find?_name declared]
        exact declared
      exact ⟨rfl, .ofParams types⟩
    · cases read

/-- A change of a kind is a call with its block, checked for required parameters in a strict
build. -/
theorem ofKind_eq_ok {host : Host} {e : Element} {change : Change} :
    ofKind host site kind e = .ok change ↔
      (∃ called, ofCall site kind e = .ok called ∧
        e.items.foldlM (takeItem site kind) called = .ok change) ∧
      (host.configuration.strictParameters →
        kind.params.checkRequired kind.name site.changeset change.params = .ok ()) := by
  unfold ofKind
  constructor
  · intro read
    obtain ⟨called, isCalled, read⟩ := bind_eq_ok.mp read
    obtain ⟨taken, isTaken, read⟩ := bind_eq_ok.mp read
    dsimp only at read
    split at read
    · obtain ⟨_, checked, read⟩ := bind_eq_ok.mp read
      cases read
      exact ⟨⟨called, isCalled, isTaken⟩, fun _ => checked⟩
    · rename_i lax
      cases read
      exact ⟨⟨called, isCalled, isTaken⟩, fun strict => absurd strict lax⟩
  · rintro ⟨⟨called, isCalled, isTaken⟩, checked⟩
    refine bind_eq_ok.mpr ⟨called, isCalled, bind_eq_ok.mpr ⟨change, isTaken, ?_⟩⟩
    dsimp only
    split
    · rename_i strict
      exact bind_eq_ok.mpr ⟨(), checked strict, rfl⟩
    · rfl

/-- How a kind finishes a change of the changeset with an id. -/
def IsFinished (kind : ChangeKind) (id : String) (taken finished : Change)
    (warnings : List Warning) : Prop :=
  match kind.finish with
  | none => finished = taken ∧ warnings = []
  | some finish => ∃ messages, finish id taken = .ok (finished, messages) ∧
      warnings = messages.map fun message => ⟨some id, message⟩

/-- A declared change is one of the kind of its name that the kind has finished. -/
theorem ofElement_eq_ok {host : Host} {id : String} {e : Element} {change : Change}
    {warnings : List Warning} :
    ofElement host site id e = .ok (change, warnings) ↔
      ∃ kind taken, host.catalog.changes.get? e.name = some kind ∧
        ofKind host { site with changeset := some id } kind e = .ok taken ∧
        IsFinished kind id taken change warnings := by
  unfold ofElement
  dsimp only
  constructor
  · intro read
    split at read
    · cases read
    · rename_i kind found
      obtain ⟨taken, isTaken, read⟩ := bind_eq_ok.mp read
      refine ⟨kind, taken, found, isTaken, ?_⟩
      cases finishes : kind.finish with
      | none =>
          simp only [finishes] at read
          cases read
          simp [IsFinished, finishes]
      | some finish =>
          simp only [finishes] at read
          obtain ⟨⟨finished, messages⟩, done, read⟩ := bind_eq_ok.mp read
          cases read
          simp only [IsFinished, finishes]
          exact ⟨messages, done, rfl⟩
  · rintro ⟨kind, taken, found, isTaken, isFinished⟩
    rw [found]
    refine bind_eq_ok.mpr ⟨taken, isTaken, ?_⟩
    cases finishes : kind.finish with
    | none =>
        simp only [IsFinished, finishes] at isFinished
        obtain ⟨rfl, rfl⟩ := isFinished
        rfl
    | some finish =>
        simp only [IsFinished, finishes] at isFinished
        obtain ⟨messages, done, rfl⟩ := isFinished
        exact bind_eq_ok.mpr ⟨_, done, rfl⟩

/-- A kind that is always there finishes a change by setting an optional text at most. -/
theorem IsFinished.cases {id : String} {taken finished : Change} {warnings : List Warning}
    (isFinished : IsFinished kind id taken finished warnings) (member : kind ∈ ChangeKind.builtin) :
    finished = taken ∨ ∃ name text, kind.params.find? name = some { name, type := .text } ∧
      finished = taken.set name (.text text) := by
  unfold IsFinished at isFinished
  split at isFinished
  · exact .inl isFinished.1
  · rename_i finish finishes
    obtain ⟨messages, done, -⟩ := isFinished
    exact ChangeKind.finish_onlySetsText kind member finish finishes _ _ _ _ done

theorem isOf_ofKind {host : Host} (member : kind ∈ ChangeKind.builtin) {e : Element}
    {change : Change} (read : ofKind host site kind e = .ok change) : change.IsOf kind := by
  obtain ⟨⟨called, isCalled, isTaken⟩, -⟩ := ofKind_eq_ok.mp read
  exact of_foldlM_eq_ok (isOf_takeItem (ChangeKind.find?_body kind member)) isTaken
    (isOf_ofCall isCalled)

/-- A declared change of one of the kinds that are always there has no more than its kind
allows. -/
theorem admits_ofElement {host : Host} (changes : host.catalog.changes = Catalog.builtin.changes)
    {id : String} {e : Element} {change : Change} {warnings : List Warning}
    (read : ofElement host site id e = .ok (change, warnings)) :
    ∃ kind, Catalog.builtin.changes.get? change.kind = some kind ∧ kind.Admits change := by
  obtain ⟨kind, taken, found, isTaken, isFinished⟩ := ofElement_eq_ok.mp read
  rw [changes] at found
  obtain ⟨member, named⟩ := Catalog.mem_changeKinds found
  obtain ⟨same, admits⟩ := isOf_ofKind member isTaken
  have registered : Catalog.builtin.changes.get? taken.kind = some kind := by
    rw [same, named, found]
  rcases isFinished.cases member with rfl | ⟨name, text, declared, rfl⟩
  · exact ⟨kind, registered, admits⟩
  · exact ⟨kind, registered, admits.set declared rfl⟩

/-- A change that runs a piece of SQL is one of the kind for that. -/
theorem admits_rawSql (sql : String) : ∃ kind,
    Catalog.builtin.changes.get? (rawSql sql).kind = some kind ∧ kind.Admits (rawSql sql) := by
  obtain ⟨kind, registered⟩ : ∃ kind, Catalog.builtin.changes.get? "sql" = some kind := by
    rw [Catalog.get?_changes_builtin]
    exact Option.isSome_iff_exists.mp (by decide +kernel)
  obtain ⟨member, named⟩ := Catalog.mem_changeKinds registered
  obtain ⟨param, declared, isText⟩ := ChangeKind.find?_sql kind member named
  have types : kind.params.Types (rawSql sql).params := by
    refine Schema.types_empty.insert declared ?_
    rw [isText]
    rfl
  have admits := ChangeKind.Admits.ofParams types
  rw [named] at admits
  exact ⟨kind, registered, admits⟩

end Change

end Migration
