import Migration.Declaration.Changeset
import Migration.Proofs.Declaration.Call

/-!
# Declarations at places that agree

A declaration is read where it stands, and looks at no more than the values of properties and the
expansions of texts there.  Where two places agree on these, everything that is declared at the one
is declared at the other, whatever the paths of their changelogs are, and in whatever order the
named arguments stand.
-/

namespace Migration

/-- Whether two places give the same values and expansions, and are in the same changeset. -/
structure Site.Agrees (site other : Site) : Prop where
  changeset : site.changeset = other.changeset
  value : ∀ name,
    site.properties.resolve name site.path = other.properties.resolve name other.path
  passes : site.properties.passes = other.properties.passes

namespace Site.Agrees

variable {site other : Site} {e f : Element}

theorem refl (site : Site) : Agrees site site :=
  ⟨rfl, fun _ => rfl, rfl⟩

/-- Places agree in a changeset if they do outside of it. -/
theorem within (agrees : site.Agrees other) (changeset : Option String) :
    Agrees { site with changeset } { other with changeset } :=
  ⟨rfl, agrees.value, agrees.passes⟩

theorem expand (agrees : site.Agrees other) (text : String) :
    site.expand text = other.expand text := by
  simp only [Site.expand, PropertyTable.expand, agrees.value, agrees.passes]

theorem violation {α : Type} (agrees : site.Agrees other) (rule : Violation) :
    (site.violation rule : Except BuildError α) = other.violation rule := by
  simp only [Site.violation, agrees.changeset]

/-! ## Calls -/

mutual
theorem resolve (agrees : site.Agrees other) :
    ∀ literal, Alike (site.resolve literal) (other.resolve literal)
  | .str s => by
      simp only [Site.resolve, agrees.expand]
      exact .refl _
  | .int _ | .float _ | .bool _ | .null => .refl _
  | .reference name => by
      simp only [Site.resolve, agrees.value, agrees.expand]
      split
      · exact .refl _
      · exact .error _ _
  | .list items => (agrees.resolveAll items).map

theorem resolveAll (agrees : site.Agrees other) :
    ∀ literals, Alike (site.resolveAll literals) (other.resolveAll literals)
  | [] => .refl _
  | literal :: literals =>
      (agrees.resolve literal).bind fun _ => (agrees.resolveAll literals).bind fun _ => .refl _
end

theorem resolveNamed (agrees : site.Agrees other) (e : Element) (before : List String)
    (arguments : List Argument) :
    Alike (site.resolveNamed e before arguments) (other.resolveNamed e before arguments) := by
  induction arguments generalizing before with
  | nil => exact .refl _
  | cons argument arguments ih =>
      obtain ⟨_ | key, literal⟩ := argument
      · exact ih before
      · unfold Site.resolveNamed
        split
        · exact .refl _
        · exact (agrees.resolve literal).bind fun _ => (ih _).bind fun _ => .refl _

theorem call (agrees : site.Agrees other) (e : Element) : Alike (site.call e) (other.call e) := by
  unfold Site.call
  split
  · exact .refl _
  split
  · exact .refl _
  split
  · exact (agrees.resolveNamed e [] _).map
  · exact (agrees.resolveAll _).map

theorem namedArguments (agrees : site.Agrees other) (e : Element) :
    Alike (site.namedArguments e) (other.namedArguments e) :=
  (agrees.call e).bind fun _ => .refl _

/-- Reordered elements are called at places that agree with the same values, in some order. -/
theorem calls (agrees : site.Agrees other) (reorders : e.Reorders f) :
    Corresponds Call.Reorders (site.call e) (other.call f) :=
  (site.call_reorders reorders).trans_alike (agrees.call f)

theorem attributes (agrees : site.Agrees other) (schema : Schema) (textParam : Option String)
    (reorders : e.Reorders f) :
    Alike (site.attributes schema textParam e) (other.attributes schema textParam f) := by
  refine (agrees.calls reorders).bind_alike fun first second called => ?_
  simp only [reorders.name_eq, agrees.changeset, agrees.violation]
  cases called with
  | empty | positional => exact .refl _
  | named permutes => exact Schema.check_perm permutes.perm permutes.distinct

theorem blockTexts (agrees : site.Agrees other) (e f : Element) {xs ys : List (Item Element)}
    (reorders : List.Forall₂ Item.Reorders xs ys) :
    Alike (site.blockTexts e xs) (other.blockTexts f ys) := by
  induction reorders with
  | nil => exact .refl _
  | cons first _ ih =>
      cases first with
      | text s =>
          unfold Site.blockTexts
          rw [agrees.expand]
          exact ih.map
      | element => exact .error _ _

theorem textContent (agrees : site.Agrees other) (reorders : e.Reorders f) :
    Alike (site.textContent e) (other.textContent f) := by
  have fromBlock {next after : List String → Except BuildError String}
      (same : ∀ texts, next texts = after texts) :
      Alike (site.blockTexts e e.items >>= next) (other.blockTexts f f.items >>= after) :=
    (agrees.blockTexts e f reorders.items).bind fun texts => same texts ▸ .refl _
  have missing : (site.violation (.missingText e.name) : Except BuildError String) =
      other.violation (.missingText f.name) := by
    rw [agrees.violation, reorders.name_eq]
  refine (agrees.calls reorders).bind_alike fun first second called => ?_
  cases called with
  | empty => exact fromBlock fun _ => by rw [missing]
  | positional values =>
      match values with
      | [value] =>
          dsimp only
          split
          · exact .refl _
          · exact fromBlock fun _ => by rw [missing]
      | [] | _ :: _ :: _ => exact .error _ _
  | @named first second permutes =>
      match first, second, permutes.perm with
      | [], [], _ => exact fromBlock fun _ => by rw [missing]
      | _ :: _, _ :: _, _ => exact .error _ _
      | [], _ :: _, perm => cases perm.nil_eq
      | _ :: _, [], perm => cases perm.eq_nil

theorem onlyNamed (agrees : site.Agrees other) (e f : Element) (allowed : List String)
    {first second : List (String × Value)} (permutes : Call.Permutes first second) :
    Alike (site.onlyNamed e allowed first) (other.onlyNamed f allowed second) := by
  have same : site.onlyNamed e allowed first = other.onlyNamed e allowed first := by
    simp only [Site.onlyNamed, agrees.changeset]
  rw [same]
  exact other.onlyNamed_reorders e f allowed permutes

theorem demand (agrees : site.Agrees other) (reorders : e.Reorders f) (key : String)
    (text : Option String) : site.demand e key text = other.demand f key text := by
  simp only [Site.demand, agrees.changeset, reorders.name_eq]

theorem customParam (agrees : site.Agrees other) (reorders : e.Reorders f) :
    Alike (site.customParam e) (other.customParam f) := by
  refine (agrees.calls reorders).bind_alike fun first second called => ?_
  simp only [agrees.demand reorders]
  cases called with
  | empty => exact .refl _
  | positional values =>
      match values with
      | [_, _] | [] | [_] | _ :: _ :: _ :: _ => exact .refl _
  | named permutes => exact (agrees.onlyNamed e f _ permutes).bind fun _ => .refl _

theorem commandArgument (agrees : site.Agrees other) (reorders : e.Reorders f) :
    Alike (site.commandArgument e) (other.commandArgument f) := by
  refine (agrees.calls reorders).bind_alike fun first second called => ?_
  simp only [agrees.demand reorders]
  cases called with
  | empty => exact .refl _
  | positional values =>
      match values with
      | [_] | [] | _ :: _ :: _ => exact .refl _
  | named permutes => exact (agrees.onlyNamed e f _ permutes).map.bind fun _ => .refl _

/-! ## Changes -/

theorem column (agrees : site.Agrees other) (form : ColumnForm) (reorders : e.Reorders f) :
    Alike (Column.ofElement site form e) (Column.ofElement other form f) := by
  refine (agrees.attributes _ _ reorders).bind fun given =>
    .foldlM (fun column _ _ item => ?_) reorders.items _
  cases item with
  | text s =>
      rw [Column.takeItem, Column.takeItem, agrees.violation, reorders.name_eq]
      exact .refl _
  | element child =>
      unfold Column.takeItem
      dsimp only
      rw [child.name_eq]
      split
      · exact (agrees.attributes _ _ child).bind fun _ => .refl _
      · exact .error _ _

theorem takeWhereParam (agrees : site.Agrees other) (change : Change) {x y : Item Element}
    (item : x.Reorders y) :
    Alike (Change.takeWhereParam site change x) (Change.takeWhereParam other change y) := by
  cases item with
  | text s =>
      rw [Change.takeWhereParam, Change.takeWhereParam, agrees.violation]
      exact .refl _
  | element reorders =>
      unfold Change.takeWhereParam
      dsimp only
      rw [reorders.name_eq]
      split
      · exact (agrees.column _ reorders).bind fun _ => .refl _
      · exact .refl _

theorem takeChangeElement (agrees : site.Agrees other) (kind : ChangeKind) (change : Change)
    (reorders : e.Reorders f) :
    Alike (Change.takeElement site kind change e) (Change.takeElement other kind change f) := by
  unfold Change.takeElement
  rw [reorders.name_eq]
  split
  · split
    · rw [agrees.violation]
      exact .refl _
    · exact (agrees.column _ reorders).bind fun _ => .refl _
  split
  · split
    · rw [agrees.violation]
      exact .refl _
    split
    · exact (agrees.textContent reorders).bind fun _ => .refl _
    · exact .foldlM agrees.takeWhereParam reorders.items _
  split
  · exact (agrees.commandArgument reorders).bind fun _ => .refl _
  split
  · exact (agrees.customParam reorders).bind fun _ => .refl _
  split
  · exact (agrees.textContent reorders).bind fun _ => .refl _
  · exact .refl _

theorem takeChangeItem (agrees : site.Agrees other) (kind : ChangeKind) (change : Change)
    {x y : Item Element} (item : x.Reorders y) :
    Alike (Change.takeItem site kind change x) (Change.takeItem other kind change y) := by
  cases item with
  | text s =>
      simp only [Change.takeItem, agrees.violation, agrees.expand]
      exact .refl _
  | element reorders => exact agrees.takeChangeElement kind change reorders

theorem changeCall (agrees : site.Agrees other) (kind : ChangeKind) (reorders : e.Reorders f) :
    Alike (Change.ofCall site kind e) (Change.ofCall other kind f) := by
  refine (agrees.calls reorders).bind_alike fun first second called => ?_
  simp only [agrees.changeset, agrees.violation]
  cases called with
  | empty | positional => exact .refl _
  | named permutes =>
      exact (Schema.check_perm permutes.perm permutes.distinct).bind fun _ => .refl _

/-- The same change is declared at places that agree, wherever the host keeps its files. -/
theorem change (agrees : site.Agrees other) (host : Host) (store : Store) (changeset : String)
    (reorders : e.Reorders f) :
    Alike (Change.ofElement host site changeset e)
      (Change.ofElement { host with store } other changeset f) := by
  unfold Change.ofElement
  dsimp only
  rw [reorders.name_eq]
  split
  · exact .refl _
  · rename_i kind _
    have inside := agrees.within (some changeset)
    have read : Alike (Change.ofKind host { site with changeset := some changeset } kind e)
        (Change.ofKind { host with store } { other with changeset := some changeset } kind f) := by
      refine (inside.changeCall kind reorders).bind fun called => ?_
      exact (Alike.foldlM (inside.takeChangeItem kind) reorders.items _).bind fun change => .refl _
    exact read.bind fun _ => .refl _

/-! ## Preconditions -/

theorem check (agrees : site.Agrees other) (host : Host) (store : Store)
    (reorders : e.Reorders f) :
    Alike (Check.ofElement host site e) (Check.ofElement { host with store } other f) := by
  unfold Check.ofElement
  dsimp only
  rw [reorders.name_eq]
  split
  · exact .refl _
  · rename_i kind _
    refine (agrees.attributes _ _ reorders).bind fun given => ?_
    refine Alike.bind (.foldlM (fun check _ _ item => ?_) reorders.items _) fun check => ?_
    · cases item with
      | text s =>
          simp only [Check.takeItem, agrees.expand]
          exact .refl _
      | element child =>
          unfold Check.takeItem
          dsimp only
          rw [child.name_eq]
          split
          · exact (agrees.customParam child).bind fun _ => .refl _
          · exact .refl _
    · simp only [Check.checkRequired, agrees.changeset]
      exact .refl _

mutual
theorem precondition (agrees : site.Agrees other) (host : Host) (store : Store) :
    ∀ {e f : Element}, e.Reorders f → Alike (Precondition.ofElement host site e)
      (Precondition.ofElement { host with store } other f)
  | ⟨name, first, _, _⟩, ⟨_, second, _, _⟩, reorders => by
      obtain rfl : name = _ := reorders.name_eq
      unfold Precondition.ofElement
      split
      · exact (agrees.check host store reorders).map
      match first, second, reorders.arguments.perm with
      | _ :: _, _ :: _, _ => exact .error _ _
      | [], _ :: _, perm => cases perm.nil_eq
      | _ :: _, [], perm => cases perm.eq_nil
      | [], [], _ =>
          cases reorders with
          | bare => exact .refl _
          | block _ items => exact (agrees.preconditions host store _ _ _ items).map

theorem preconditions (agrees : site.Agrees other) (host : Host) (store : Store) (name : String)
    (line later : Nat) : ∀ {xs ys : List (Item Element)}, List.Forall₂ Item.Reorders xs ys →
      Alike (Precondition.ofItems host site name line xs)
        (Precondition.ofItems { host with store } other name later ys)
  | [], [], _ => .refl _
  | .text _ :: _, .text _ :: _, _ => .error _ _
  | .element _ :: _, .element _ :: _, .cons (.element first) rest =>
      (agrees.precondition host store first).bind fun _ =>
        (agrees.preconditions host store name line later rest).bind fun _ => .refl _
end

/-- The same preconditions are declared at places that agree. -/
theorem container (agrees : site.Agrees other) (host : Host) (store : Store)
    (reorders : e.Reorders f) :
    Alike (PreconditionContainer.ofElement host site e)
      (PreconditionContainer.ofElement { host with store } other f) := by
  unfold PreconditionContainer.ofElement
  rw [reorders.name_eq]
  exact (agrees.attributes _ _ reorders).bind fun _ => Alike.bind (.refl _) fun _ =>
    (agrees.preconditions host store _ _ _ reorders.items).bind fun _ => .refl _

/-! ## Edits of SQL -/

theorem sqlEdit (agrees : site.Agrees other) (isPattern : String → Bool)
    (reorders : e.Reorders f) :
    Alike (SqlEdit.ofElement isPattern site e) (SqlEdit.ofElement isPattern other f) := by
  have added : Alike (SqlEdit.addedText site e) (SqlEdit.addedText other f) := by
    refine (agrees.attributes _ _ reorders).bind fun given => ?_
    rw [agrees.changeset, reorders.name_eq]
    exact .refl _
  have replacement : Alike (SqlEdit.replacement site e) (SqlEdit.replacement other f) := by
    refine (agrees.attributes _ _ reorders).bind fun given => ?_
    rw [agrees.changeset, reorders.name_eq]
    exact .refl _
  unfold SqlEdit.ofElement
  rw [reorders.name_eq]
  split
  · exact added.map
  split
  · exact added.map
  split
  · exact replacement.bind fun _ => .refl _
  split
  · exact replacement.bind fun _ => .refl _
  · exact .refl _

theorem sqlEdits (agrees : site.Agrees other) (isPattern : String → Bool)
    {xs ys : List (Item Element)} (reorders : List.Forall₂ Item.Reorders xs ys) :
    Alike (SqlEdit.ofItems isPattern site xs) (SqlEdit.ofItems isPattern other ys) := by
  induction reorders with
  | nil => exact .refl _
  | cons first _ ih =>
      cases first with
      | text s => exact .error _ _
      | element reorders =>
          exact (agrees.sqlEdit isPattern reorders).bind fun _ => ih.bind fun _ => .refl _

/-- The same edits are declared at places that agree. -/
theorem scopedSqlEdits (agrees : site.Agrees other) (isPattern : String → Bool)
    (reorders : e.Reorders f) :
    Alike (ScopedSqlEdit.ofElement isPattern site e)
      (ScopedSqlEdit.ofElement isPattern other f) :=
  (agrees.attributes _ _ reorders).bind fun _ =>
    (agrees.sqlEdits isPattern reorders.items).bind fun _ => .refl _

end Site.Agrees

end Migration
