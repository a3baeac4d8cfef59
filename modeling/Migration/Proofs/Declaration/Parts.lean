import Migration.Proofs.Declaration.LastBlock
import Migration.Proofs.Declaration.Rollback

/-!
# What a changeset collects from its children

The children of a `changeSet` element stand in any order, and each adds to one part of the changeset
alone: a rollback to the changes that undo it, a checksum to those that are valid, a `modifySql` to
the edits of its SQL, and a child without a name of its own to the changes.  The main statement,
`collects_ofElement`, says that each part has what the children of its kind declare, in document
order, and nothing else.
-/

namespace Migration

/-! ## Edits of SQL -/

/-- Whether a `modifySql` element declares some edits: one for each element of its block, in order,
and each where the arguments of that `modifySql` say. -/
def ScopedSqlEdit.AreDeclared (isPattern : String → Bool) (site : Site) (e : Element)
    (edits : List ScopedSqlEdit) : Prop :=
  ∃ given children, site.attributes schema none e = .ok given ∧
    e.items = children.map .element ∧
    List.Forall₂ (fun child edit =>
      SqlEdit.ofElement isPattern site child = .ok edit.edit ∧
      edit.dbms = Text.names ((given.text? "dbms").getD "") ∧
      edit.contexts = (given.text? "context").map .ofText ∧
      edit.labels = (given.text? "labels").map .ofText ∧
      edit.applyToRollback = (given.flag? "applyToRollback").getD false) children edits

theorem SqlEdit.areRead_ofItems {isPattern : String → Bool} {site : Site}
    {items : List (Item Element)} {edits : List SqlEdit}
    (read : ofItems isPattern site items = .ok edits) :
    ∃ children, items = children.map .element ∧
      List.Forall₂ (fun child edit => ofElement isPattern site child = .ok edit) children edits := by
  induction items generalizing edits with
  | nil =>
      cases read
      exact ⟨[], rfl, .nil⟩
  | cons item items ih =>
      cases item with
      | text s => cases read
      | element e =>
          obtain ⟨edit, first, read⟩ := bind_eq_ok.mp read
          obtain ⟨others, rest, read⟩ := bind_eq_ok.mp read
          cases read
          obtain ⟨children, rfl, areRead⟩ := ih rest
          exact ⟨e :: children, rfl, .cons first areRead⟩

theorem ScopedSqlEdit.areDeclared_ofElement {isPattern : String → Bool} {site : Site} {e : Element}
    {edits : List ScopedSqlEdit} (read : ofElement isPattern site e = .ok edits) :
    AreDeclared isPattern site e edits := by
  obtain ⟨given, called, read⟩ := bind_eq_ok.mp read
  obtain ⟨bare, areRead, read⟩ := bind_eq_ok.mp read
  cases read
  obtain ⟨children, onlyElements, declared⟩ := SqlEdit.areRead_ofItems areRead
  refine ⟨given, children, called, onlyElements, List.forall₂_map_right_iff.mpr ?_⟩
  exact declared.imp fun child edit isRead => ⟨isRead, rfl, rfl, rfl, rfl⟩

/-! ## Calls with a single bare value -/

theorem Site.call_eq_empty {site : Site} {e : Element} (called : site.call e = .ok .empty) :
    e.arguments = [] := by
  unfold call at called
  split at called
  · rename_i bare
    exact List.isEmpty_iff.mp bare
  split at called
  · cases called
  split at called
  · obtain ⟨_, -, impossible⟩ := map_eq_ok.mp called
    cases impossible
  · obtain ⟨_, -, impossible⟩ := map_eq_ok.mp called
    cases impossible

theorem Site.call_eq_single {site : Site} {e : Element} {value : Value}
    (called : site.call e = .ok (.positional [value])) :
    ∃ literal, e.arguments = [⟨none, literal⟩] ∧ site.resolve literal = .ok value := by
  unfold call at called
  split at called
  · cases called
  split at called
  · cases called
  split at called
  · obtain ⟨_, -, impossible⟩ := map_eq_ok.mp called
    cases impossible
  rename_i unnamed
  obtain ⟨values, resolved, same⟩ := map_eq_ok.mp called
  cases same
  match given : e.arguments, resolved with
  | [⟨key, literal⟩], resolved =>
      obtain ⟨first, isFirst, resolved⟩ := bind_eq_ok.mp resolved
      obtain ⟨rest, -, resolved⟩ := bind_eq_ok.mp resolved
      cases resolved
      have bare : key = none := by simpa [Element.hasNamed, given] using unnamed
      exact ⟨literal, by rw [bare], isFirst⟩
  | _ :: _ :: _, resolved =>
      obtain ⟨first, -, resolved⟩ := bind_eq_ok.mp resolved
      obtain ⟨rest, more, resolved⟩ := bind_eq_ok.mp resolved
      cases resolved
      obtain ⟨_, -, more⟩ := bind_eq_ok.mp more
      obtain ⟨_, -, more⟩ := bind_eq_ok.mp more
      cases more

namespace Changeset

/-! ## Rollbacks -/

/-- Whether a `rollback` element in a changeset declares some changes that undo it. -/
inductive Undoes (host : Host) (site : Site) (log : Changelog) (changeset : Changeset)
    (e : Element) : List Change → Prop
  | nothing (bare : e.arguments = []) (noBlock : e.block = none) :
      Undoes host site log changeset e []
  | text {sql : String} (alone : e.arguments = [⟨none, .str sql⟩]) (noBlock : e.block = none) :
      Undoes host site log changeset e [.rawSql (site.expand sql)]
  /-- What is no text is written as one, apart from null. -/
  | value {literal : Literal} {value : Value} (alone : e.arguments = [⟨none, literal⟩])
      (noBlock : e.block = none) (noText : ∀ sql, literal ≠ .str sql)
      (resolved : site.resolve literal = .ok value) :
      Undoes host site log changeset e (value.plain?.map .rawSql).toList
  | block {children : List Element} {sql? : Option String} {changes : List Change}
      (bare : e.arguments = [])
      (isBlock : e.block = some (children.map .element ++ (sql?.map .text).toList))
      (flat : ∀ child ∈ children, child.name ≠ "rollback")
      (declared : List.Forall₂ (Change.IsDeclared host site changeset.id) children changes) :
      Undoes host site log changeset e
        (changes ++ (sql?.map fun sql => .rawSql (site.expand sql)).toList)
  | reference {path author id : String} {target : Changeset}
      (refers : RefersTo host site log changeset e path author id)
      (found : log.find? path author id = some target) :
      Undoes host site log changeset e target.changes

variable {host : Host} {site : Site} {log : Changelog} {changeset start after own : Changeset}
  {warnings : List Warning} {e : Element} {items : List (Item Element)} {changes : List Change}

/-- Of a changeset, its rollbacks see the id and the author. -/
theorem Undoes.of_sameHead (same : SameHead start own)
    (undoes : Undoes host site log start e changes) : Undoes host site log own e changes := by
  obtain ⟨_, _, _, _, _, _, rfl⟩ := same
  cases undoes with
  | nothing bare noBlock => exact .nothing bare noBlock
  | text alone noBlock => exact .text alone noBlock
  | value alone noBlock noText resolved => exact .value alone noBlock noText resolved
  | block bare isBlock flat declared => exact .block bare isBlock flat declared
  | reference refers found =>
      exact .reference ⟨refers.named, refers.noBlock, refers.reference⟩ found

/-- A text of a rollback is the last item of its block. -/
theorem Undoes.text_last (undoes : Undoes host site log changeset e changes)
    (front : List (Item Element)) (sql : String) (item : Item Element)
    (back : List (Item Element)) :
    e.block ≠ some (front ++ .text sql :: item :: back) := by
  intro isBlock
  cases undoes with
  | nothing _ noBlock => simp [noBlock] at isBlock
  | text _ noBlock => simp [noBlock] at isBlock
  | value _ noBlock => simp [noBlock] at isBlock
  | reference refers _ => simp [refers.noBlock] at isBlock
  | @block children sql? _ _ isItems _ _ =>
      have same := Option.some.inj (isItems.symm.trans isBlock)
      have elements :
          .text sql ∉ (children.map Item.element ++ (sql?.map Item.text).toList).dropLast := by
        cases sql? with
        | none =>
            intro member
            simpa using List.dropLast_subset _ member
        | some last => simp
      rw [same] at elements
      simp at elements

/-- A reference that is answered has an identity to which it refers. -/
theorem refersTo_of_referredBy {arguments : List (String × Value)} {target : Changeset}
    (named : e.name = "rollback") (noBlock : e.block = none)
    (called : site.call e = .ok (.named arguments))
    (referred : referredBy host site log changeset arguments = .ok target) :
    ∃ path author id, RefersTo host site log changeset e path author id := by
  unfold referredBy at referred
  dsimp only at referred
  split at referred
  · cases referred
  rename_i current
  obtain ⟨given, checked, referred⟩ := bind_eq_ok.mp referred
  split at referred
  · cases referred
  rename_i id isId
  have refersTo {author : String} (isAuthor : given.text? "changeSetAuthor" = some author ∨
      given.text? "changeSetAuthor" = none ∧ author = changeset.author ∧
        host.configuration.strictRollbackReferences = false) :
      ∃ path author id, RefersTo host site log changeset e path author id :=
    ⟨_, author, id, named, noBlock, arguments, given, called, current, checked, isId, isAuthor, rfl⟩
  split at referred
  · rename_i isAuthor
    exact refersTo (.inl isAuthor)
  rename_i notGiven
  split at referred
  · cases referred
  · rename_i lax
    exact refersTo (.inr ⟨notGiven, rfl, by simpa using lax⟩)

/-- A rollback adds the changes that it declares, and nothing else. -/
theorem takeRollback_eq_ok (named : e.name = "rollback")
    (taken : takeRollback host site log start e = .ok (after, warnings)) :
    ∃ changes, Undoes host site log start e changes ∧
      after = { start with rollback := start.rollback ++ changes } := by
  rcases takeRollback_cases taken with ⟨called, taken⟩ | ⟨value, called, noBlock, rfl⟩ |
    ⟨arguments, target, called, noBlock, referred, -⟩
  · have bare := Site.call_eq_empty called
    cases isBlock : e.block with
    | none =>
        rw [Element.items, isBlock, Option.getD_none] at taken
        cases taken
        exact ⟨[], .nothing bare isBlock, by simp⟩
    | some items =>
        rw [Element.items, isBlock, Option.getD_some] at taken
        obtain ⟨children, sql?, changes, rfl, flat, declared, rfl⟩ := takeRollbackItems_eq_ok taken
        exact ⟨_, .block bare isBlock flat declared, rfl⟩
  · obtain ⟨literal, alone, resolved⟩ := Site.call_eq_single called
    refine ⟨_, ?_, rfl⟩
    cases literal with
    | str sql =>
        cases resolved
        exact .text alone noBlock
    | _ => exact .value alone noBlock nofun resolved
  · obtain ⟨path, author, id, refers⟩ := refersTo_of_referredBy named noBlock called referred
    rw [refers.takeRollback_eq] at taken
    cases found : log.find? path author id with
    | none =>
        rw [found] at taken
        cases taken
    | some target =>
        rw [found] at taken
        cases taken
        exact ⟨target.changes, .reference refers found, rfl⟩

/-! ## Blocks -/

/-- What a child adds to the parts of a changeset that are collected. -/
structure Gain where
  changes : List Change := []
  rollback : List Change := []
  validChecksums : List String := []
  sqlEdits : List ScopedSqlEdit := []

/-- Whether a child of a changeset declares some gain. -/
inductive Declares (host : Host) (site : Site) (log : Changelog) (changeset : Changeset)
    (e : Element) : Gain → Prop
  | comment (named : e.name = "comment") : Declares host site log changeset e {}
  | preconditions (named : e.name = "preConditions") : Declares host site log changeset e {}
  | checksum {text : String} (named : e.name = "validCheckSum")
      (read : site.textContent e = .ok text) :
      Declares host site log changeset e { validChecksums := [text] }
  | rollback {changes : List Change} (named : e.name = "rollback")
      (undoes : Undoes host site log changeset e changes) :
      Declares host site log changeset e { rollback := changes }
  | edits {edits : List ScopedSqlEdit} (named : e.name = "modifySql")
      (declared : ScopedSqlEdit.AreDeclared host.isPattern site e edits) :
      Declares host site log changeset e { sqlEdits := edits }
  | change {change : Change} (unnamed : e.name ∉ partNames)
      (declared : Change.IsDeclared host site changeset.id e change) :
      Declares host site log changeset e { changes := [change] }

/-- Whether a changeset has, behind what it had before, some gains in order. -/
structure GrowsBy (start : Changeset) (gains : List Gain) (after : Changeset) : Prop where
  changes : after.changes = start.changes ++ gains.flatMap (·.changes)
  rollback : after.rollback = start.rollback ++ gains.flatMap (·.rollback)
  validChecksums : after.validChecksums = start.validChecksums ++ gains.flatMap (·.validChecksums)
  sqlEdits : after.sqlEdits = start.sqlEdits ++ gains.flatMap (·.sqlEdits)

namespace GrowsBy

variable {middle last : Changeset} {gains others : List Gain}

theorem refl (changeset : Changeset) : GrowsBy changeset [] changeset := by
  constructor <;> exact (List.append_nil _).symm

theorem append (front : GrowsBy start gains middle) (back : GrowsBy middle others last) :
    GrowsBy start (gains ++ others) last where
  changes := by rw [back.changes, front.changes, List.append_assoc, List.flatMap_append]
  rollback := by rw [back.rollback, front.rollback, List.append_assoc, List.flatMap_append]
  validChecksums := by
    rw [back.validChecksums, front.validChecksums, List.append_assoc, List.flatMap_append]
  sqlEdits := by rw [back.sqlEdits, front.sqlEdits, List.append_assoc, List.flatMap_append]

end GrowsBy

theorem Declares.of_sameHead {gain : Gain} (same : SameHead start own)
    (declares : Declares host site log start e gain) : Declares host site log own e gain := by
  cases declares with
  | comment named => exact .comment named
  | preconditions named => exact .preconditions named
  | checksum named read => exact .checksum named read
  | rollback named undoes => exact .rollback named (undoes.of_sameHead same)
  | edits named declared => exact .edits named declared
  | change unnamed declared =>
      obtain ⟨_, _, _, _, _, _, rfl⟩ := same
      exact .change unnamed declared

/-- Whether an element declares a single value. -/
def IsSingle {α γ : Type} (declares : α → γ → Prop) (item : α) (values : List γ) : Prop :=
  ∃ value, declares item value ∧ values = [value]

namespace Declares

variable {gain : Gain}

/-- A child declares a change exactly if it has none of the names of other parts. -/
theorem changes_eq (declares : Declares host site log changeset e gain) :
    if decide (e.name ∉ partNames) then
      IsSingle (Change.IsDeclared host site changeset.id) e gain.changes
    else gain.changes = [] := by
  cases declares with
  | change unnamed declared => simpa [unnamed, IsSingle] using declared
  | _ => simp_all [partNames]

theorem rollback_eq (declares : Declares host site log changeset e gain) :
    if decide (e.name = "rollback") then Undoes host site log changeset e gain.rollback
    else gain.rollback = [] := by
  cases declares with
  | rollback named undoes => simpa [named] using undoes
  | _ => simp_all [partNames]

theorem validChecksums_eq (declares : Declares host site log changeset e gain) :
    if decide (e.name = "validCheckSum") then
      IsSingle (fun child text => site.textContent child = .ok text) e gain.validChecksums
    else gain.validChecksums = [] := by
  cases declares with
  | checksum named read => simpa [named, IsSingle] using read
  | _ => simp_all [partNames]

theorem sqlEdits_eq (declares : Declares host site log changeset e gain) :
    if decide (e.name = "modifySql") then
      ScopedSqlEdit.AreDeclared host.isPattern site e gain.sqlEdits
    else gain.sqlEdits = [] := by
  cases declares with
  | edits named declared => simpa [named] using declared
  | _ => simp_all [partNames]

end Declares

/-- A child adds what it declares. -/
theorem takeElement_eq_ok (taken : takeElement host site log start e = .ok (after, warnings)) :
    ∃ gain, Declares host site log start e gain ∧ GrowsBy start [gain] after := by
  cases takes_of_takeElement taken with
  | comment named _ => exact ⟨{}, .comment named, by constructor <;> simp⟩
  | checksum named read => exact ⟨_, .checksum named read, by constructor <;> simp⟩
  | preconditions named _ => exact ⟨{}, .preconditions named, by constructor <;> simp⟩
  | rollback named taken =>
      obtain ⟨changes, undoes, rfl⟩ := takeRollback_eq_ok named taken
      exact ⟨_, .rollback named undoes, by constructor <;> simp⟩
  | edits named read =>
      exact ⟨_, .edits named (ScopedSqlEdit.areDeclared_ofElement read), by constructor <;> simp⟩
  | change unnamed declared => exact ⟨_, .change unnamed declared, by constructor <;> simp⟩

/-- A block holds children alone, and adds what they declare, in document order. -/
theorem takeItems_eq_ok (taken : takeItems host site log start items = .ok (after, warnings)) :
    ∃ children gains, items = children.map .element ∧
      List.Forall₂ (Declares host site log after) children gains ∧ GrowsBy start gains after := by
  induction items generalizing start warnings with
  | nil =>
      cases taken
      exact ⟨[], [], rfl, .nil, .refl _⟩
  | cons item items ih =>
      have same := sameHead_takeItems taken
      cases item with
      | text s => cases taken
      | element e =>
          obtain ⟨⟨middle, first⟩, front, taken⟩ := bind_eq_ok.mp taken
          obtain ⟨⟨last, second⟩, rest, taken⟩ := bind_eq_ok.mp taken
          cases taken
          obtain ⟨gain, here, grows⟩ := takeElement_eq_ok front
          obtain ⟨children, gains, rfl, there, grow⟩ := ih rest
          exact ⟨e :: children, gain :: gains, rfl, .cons (here.of_sameHead same) there,
            grows.append grow⟩

/-! ## Parts -/

/-- Where the elements that pass a test add what they declare to a part, and the others nothing, the
part has what those elements declare. -/
theorem forall₂_filter_part {α β γ : Type} {gives : α → β → Prop} {declares : α → List γ → Prop}
    {isOf : α → Bool} {part : β → List γ} {items : List α} {gains : List β}
    (all : List.Forall₂ gives items gains)
    (each : ∀ item gain, gives item gain →
      if isOf item then declares item (part gain) else part gain = []) :
    ∃ parts, List.Forall₂ declares (items.filter isOf) parts ∧
      gains.flatMap part = parts.flatten := by
  induction all with
  | nil => exact ⟨[], .nil, rfl⟩
  | @cons item gain _ _ first _ ih =>
      obtain ⟨parts, declared, same⟩ := ih
      have added := each _ _ first
      rw [List.flatMap_cons, same]
      split at added
      · rename_i passes
        rw [List.filter_cons_of_pos passes]
        exact ⟨part gain :: parts, .cons added declared, rfl⟩
      · rename_i fails
        rw [List.filter_cons_of_neg fails, added]
        exact ⟨parts, declared, rfl⟩

/-- Where each element declares a single value, the values correspond to the elements. -/
theorem forall₂_flatten_of_single {α γ : Type} {declares : α → γ → Prop} {items : List α}
    {parts : List (List γ)}
    (all : List.Forall₂ (IsSingle declares) items parts) :
    List.Forall₂ declares items parts.flatten := by
  induction all with
  | nil => exact .nil
  | cons first _ ih =>
      obtain ⟨value, declared, rfl⟩ := first
      exact .cons declared ih

/-- Whether a changeset has what its children declare: each part what the children of its kind do,
in document order. -/
structure Collects (host : Host) (site : Site) (log : Changelog) (changeset : Changeset)
    (children : List Element) : Prop where
  changes : List.Forall₂ (Change.IsDeclared host site changeset.id)
    (children.filter fun child => child.name ∉ partNames) changeset.changes
  rollback : ∃ parts,
    List.Forall₂ (Undoes host site log changeset)
      (children.filter fun child => child.name = "rollback") parts ∧
    changeset.rollback = parts.flatten
  validChecksums : List.Forall₂ (fun child text => site.textContent child = .ok text)
    (children.filter fun child => child.name = "validCheckSum") changeset.validChecksums
  sqlEdits : ∃ parts,
    List.Forall₂ (ScopedSqlEdit.AreDeclared host.isPattern site)
      (children.filter fun child => child.name = "modifySql") parts ∧
    changeset.sqlEdits = parts.flatten

/-- What the children of a changeset declare makes up its parts. -/
theorem collects_of_declares {children : List Element} {gains : List Gain}
    (declare : List.Forall₂ (Declares host site log own) children gains)
    (grows : GrowsBy start gains own)
    (nothing : start.changes = [] ∧ start.rollback = [] ∧ start.validChecksums = [] ∧
      start.sqlEdits = []) :
    Collects host site log own children := by
  obtain ⟨noChanges, noRollback, noChecksums, noEdits⟩ := nothing
  -- What a child declares goes to one part, which its name decides.
  constructor
  case changes =>
    obtain ⟨parts, declared, same⟩ := forall₂_filter_part declare fun _ _ => Declares.changes_eq
    rw [grows.changes, noChanges, List.nil_append, same]
    exact forall₂_flatten_of_single declared
  case rollback =>
    rw [grows.rollback, noRollback, List.nil_append]
    exact forall₂_filter_part declare fun _ _ => Declares.rollback_eq
  case validChecksums =>
    obtain ⟨parts, declared, same⟩ :=
      forall₂_filter_part declare fun _ _ => Declares.validChecksums_eq
    rw [grows.validChecksums, noChecksums, List.nil_append, same]
    exact forall₂_flatten_of_single declared
  case sqlEdits =>
    rw [grows.sqlEdits, noEdits, List.nil_append]
    exact forall₂_filter_part declare fun _ _ => Declares.sqlEdits_eq

/-- A changeset that is built from an element has, in each of its parts, what the children of that
element declare.  No rollback among them has a text before the end of its block. -/
theorem collects_ofElement {properties : PropertyTable}
    (built : ofElement host properties log e = .ok (own, warnings)) :
    let site : Site := { properties, path := log.physicalPath, changeset := some own.id }
    ∃ children, e.items = children.map .element ∧
      Collects host site log own children ∧
      ∀ child ∈ children, child.name = "rollback" →
        ∀ front sql item back, child.block ≠ some (front ++ .text sql :: item :: back) := by
  intro site
  obtain ⟨arguments, -, built⟩ := bind_eq_ok.mp built
  obtain ⟨start, begun, taken⟩ := bind_eq_ok.mp built
  have sameId : own.id = start.id := by
    obtain ⟨_, _, _, _, _, _, rfl⟩ := sameHead_takeItems taken
    rfl
  rw [← sameId] at taken
  obtain ⟨children, gains, onlyElements, declare, grows⟩ := takeItems_eq_ok taken
  have nothing : start.changes = [] ∧ start.rollback = [] ∧ start.validChecksums = [] ∧
      start.sqlEdits = [] := by
    rw [bare_ofArguments begun]
    exact ⟨rfl, rfl, rfl, rfl⟩
  have collects := collects_of_declares declare grows nothing
  refine ⟨children, onlyElements, collects, fun child member named front sql item back => ?_⟩
  obtain ⟨parts, undo, -⟩ := collects.rollback
  have textsLast := ((List.forall₂_and_left _ _).mp (undo.imp fun r _ undoes =>
    ⟨undoes.text_last front sql item back, undoes⟩)).1
  exact textsLast child (by simpa using ⟨member, named⟩)

/-! ## A changeset with children of all kinds -/

/-- An element that is called with a single bare text. -/
def textCall (name text : String) : Element :=
  ⟨name, [⟨none, .str text⟩], none, 1⟩

/-- Children whose kinds take turns. -/
def mixedChildren : List Element :=
  [textCall "tagDatabase" "first",
    textCall "rollback" "undo",
    textCall "validCheckSum" "sum",
    ⟨"modifySql", [⟨some "dbms", .str "h2"⟩], some [.element (textCall "append" "a")], 1⟩,
    ⟨"rollback", [], some [.element (textCall "tagDatabase" "back"), .text "last"], 1⟩,
    textCall "tagDatabase" "second",
    ⟨"rollback", [], none, 1⟩,
    ⟨"modifySql", [],
      some [.element (textCall "prepend" "b"), .element (textCall "append" "c")], 1⟩,
    ⟨"rollback", [⟨some "changeSetId", .str "0"⟩], none, 1⟩,
    textCall "validCheckSum" "other"]

def mixed : Element where
  name := "changeSet"
  arguments := [⟨some "id", .str "1"⟩, ⟨some "author", .str "m"⟩]
  block := some (mixedChildren.map .element)
  line := 1

/-- A changelog with a changeset to which a rollback may refer. -/
def earlierLog : Changelog where
  physicalPath := "m.qcl"
  changesets := [{
    id := "0", author := "m", filePath := "m.qcl", changelogPath := "m.qcl"
    changes := [.rawSql "earlier"] }]

/-- Each part has what the children of its kind declare, though their kinds take turns. -/
theorem collects_mixed : ∃ own warnings children,
    ofElement bareHost {} earlierLog mixed = .ok (own, warnings) ∧
    mixed.items = children.map .element ∧
    Collects bareHost { properties := {}, path := "m.qcl", changeset := some own.id } earlierLog
      own children ∧
    own.changes.map (·.params.text? "tag") = [some "first", some "second"] ∧
    own.rollback.map (·.kind) = ["sql", "tagDatabase", "sql", "sql"] ∧
    own.rollbackSql = ["undo", "last", "earlier"] ∧
    own.validChecksums = ["sum", "other"] ∧
    own.sqlEdits.map (fun edit => (edit.edit, edit.dbms)) =
      [(.append "a", ["h2"]), (.prepend "b", []), (.append "c", [])] := by
  have builds : (ofElement bareHost {} earlierLog mixed).toOption.isSome = true := by
    decide +kernel
  have parts : ∀ read, ofElement bareHost {} earlierLog mixed = .ok read →
      read.1.changes.map (·.params.text? "tag") = [some "first", some "second"] ∧
      read.1.rollback.map (·.kind) = ["sql", "tagDatabase", "sql", "sql"] ∧
      read.1.rollbackSql = ["undo", "last", "earlier"] ∧
      read.1.validChecksums = ["sum", "other"] ∧
      read.1.sqlEdits.map (fun edit => (edit.edit, edit.dbms)) =
        [(.append "a", ["h2"]), (.prepend "b", []), (.append "c", [])] := by
    decide +kernel
  obtain ⟨⟨own, warnings⟩, found⟩ := Option.isSome_iff_exists.mp builds
  have built := eq_ok_of_toOption found
  obtain ⟨children, onlyElements, collects, -⟩ := collects_ofElement built
  exact ⟨own, warnings, children, built, onlyElements, collects, parts _ built⟩

end Changeset

end Migration
