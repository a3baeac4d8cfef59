import Migration.Proofs.Declaration.Agreement
import Migration.Proofs.Listing

/-!
# Declarations in another directory

Where a changelog is moved into a directory, the paths of the changelogs that declare properties
gain the directory in front, and so the same properties are seen.  A changeset is declared as
before, with the path of its changelog moved, and its own path only if that is the one of its
changelog's file.
-/

namespace Migration

/-! ## Properties -/

def Property.moved (directory : String) (property : Property) : Property :=
  { property with changelog := directory ++ property.changelog }

/-- A table with a directory in front of each declaring changelog. -/
def PropertyTable.moved (directory : String) (table : PropertyTable) : PropertyTable :=
  { table with entries := table.entries.map (Property.moved directory) }

theorem PropertyTable.resolve_moved (directory : String) (table : PropertyTable)
    (name path : String) :
    (table.moved directory).resolve name (directory ++ path) = table.resolve name path := by
  have candidates : (table.moved directory).candidates name =
      (table.candidates name).map (Property.moved directory) := by
    simp only [PropertyTable.candidates, moved, ← List.map_reverse, List.filter_map]
    rfl
  simp only [resolve, candidates, List.find?_map, Function.comp_def, Property.moved,
    Path.same_append, ← Option.map_or, Option.map_map]

/-- The place of a changelog and the place of the moved one agree. -/
theorem Site.agrees_moved (directory : String) (table : PropertyTable) (path : String)
    (changeset : Option String) :
    Site.Agrees { properties := table, path, changeset }
      { properties := table.moved directory, path := directory ++ path, changeset } :=
  ⟨rfl, fun name => (table.resolve_moved directory name path).symm, rfl⟩

/-! ## Changesets -/

namespace Changeset

/-- The path that a `changeSet` element gives itself. -/
def givenPath? (site : Site) (e : Element) : Option String :=
  match site.namedArguments e >>= schema.check "changeSet" none with
  | .ok given => (given.text? "filePath").or (given.text? "logicalFilePath")
  | .error _ => none

/-- Whether the path of a declared changeset is that of the file of its changelog, because neither
the changeset nor the changelog gives another one. -/
def takesPhysicalPath (properties : PropertyTable) (log : Changelog) (e : Element) : Bool :=
  log.logicalPath.isNone &&
    (givenPath? { properties, path := log.physicalPath } e).isNone

/-- A changeset of a moved changelog, whose own path moves as well if it is that of a file. -/
def moved (directory : String) (takesPath : Bool) (changeset : Changeset) : Changeset :=
  { changeset with
    changelogPath := directory ++ changeset.changelogPath
    filePath := if takesPath then directory ++ changeset.filePath else changeset.filePath }

/-- Whether an item is not a rollback that refers to a changeset by named arguments. -/
def RefersToNone : Item Element → Prop
  | .text _ => True
  | .element e => e.name = "rollback" → e.hasNamed = false

instance : DecidablePred RefersToNone
  | .text _ => inferInstanceAs (Decidable True)
  | .element e => inferInstanceAs (Decidable (e.name = "rollback" → e.hasNamed = false))

section

variable {host : Host} {store : Store} {site other : Site} {log log' : Changelog}
  {directory : String} {takesPath : Bool} {changeset after : Changeset} {warnings : List Warning}
  {e : Element} {items : List (Item Element)}

theorem undoneBy_moved (agrees : site.Agrees other)
    (taken : undoneBy host site changeset e = .ok (after, warnings)) :
    undoneBy { host with store } other (changeset.moved directory takesPath) e =
      .ok (after.moved directory takesPath, warnings) := by
  obtain ⟨read, isRead, taken⟩ := bind_eq_ok.mp taken
  cases taken
  exact bind_eq_ok.mpr ⟨read, (agrees.change host store changeset.id (.refl e) _).mp isRead, rfl⟩

theorem takeRollbackItems_moved (agrees : site.Agrees other)
    (taken : takeRollbackItems host site changeset items = .ok (after, warnings)) :
    takeRollbackItems { host with store } other (changeset.moved directory takesPath) items =
      .ok (after.moved directory takesPath, warnings) := by
  induction items generalizing changeset warnings with
  | nil =>
      cases taken
      rfl
  | cons item items ih =>
      cases item with
      | text sql =>
          cases items with
          | nil =>
              cases taken
              rw [takeRollbackItems, ← agrees.expand]
              rfl
          | cons => cases taken
      | element e =>
          unfold takeRollbackItems at taken ⊢
          split at taken
          · cases taken
          · rename_i noRollback
            obtain ⟨⟨middle, first⟩, undone, taken⟩ := bind_eq_ok.mp taken
            obtain ⟨⟨last, second⟩, rest, taken⟩ := bind_eq_ok.mp taken
            cases taken
            rw [if_neg noRollback]
            exact bind_eq_ok.mpr ⟨_, undoneBy_moved agrees undone,
              bind_eq_ok.mpr ⟨_, ih rest, rfl⟩⟩

/-- A call without names is not one with named arguments. -/
theorem call_ne_named {call : Call} (unnamed : e.hasNamed = false)
    (called : site.call e = .ok call) : ∀ arguments, call ≠ .named arguments := by
  rintro arguments rfl
  unfold Site.call at called
  rw [unnamed] at called
  split at called
  · cases called
  · simp only [Bool.and_false, Bool.false_eq_true, if_false] at called
    obtain ⟨values, -, same⟩ := map_eq_ok.mp called
    cases same

theorem takeRollback_moved (agrees : site.Agrees other) (unnamed : e.hasNamed = false)
    (taken : takeRollback host site log changeset e = .ok (after, warnings)) :
    takeRollback { host with store } other log' (changeset.moved directory takesPath) e =
      .ok (after.moved directory takesPath, warnings) := by
  obtain ⟨call, called, taken⟩ := bind_eq_ok.mp taken
  refine bind_eq_ok.mpr ⟨call, (agrees.call e _).mp called, ?_⟩
  match call with
  | .empty => exact takeRollbackItems_moved agrees taken
  | .positional values =>
      dsimp only at taken ⊢
      split at taken
      · split at taken <;> cases taken <;> rfl
      · cases taken
  | .named arguments => exact absurd rfl (call_ne_named unnamed called arguments)

theorem takeElement_moved (agrees : site.Agrees other)
    (unnamed : e.name = "rollback" → e.hasNamed = false)
    (taken : takeElement host site log changeset e = .ok (after, warnings)) :
    takeElement { host with store } other log' (changeset.moved directory takesPath) e =
      .ok (after.moved directory takesPath, warnings) := by
  unfold takeElement at taken ⊢
  split at taken
  · rw [if_pos (by assumption)]
    obtain ⟨text, read, taken⟩ := bind_eq_ok.mp taken
    cases taken
    exact bind_eq_ok.mpr ⟨text, (agrees.textContent (.refl e) _).mp read, rfl⟩
  rw [if_neg (by assumption)]
  split at taken
  · rw [if_pos (by assumption)]
    obtain ⟨text, read, taken⟩ := bind_eq_ok.mp taken
    cases taken
    exact bind_eq_ok.mpr ⟨text, (agrees.textContent (.refl e) _).mp read, rfl⟩
  rw [if_neg (by assumption)]
  split at taken
  · rw [if_pos (by assumption)]
    obtain ⟨container, read, taken⟩ := bind_eq_ok.mp taken
    cases taken
    exact bind_eq_ok.mpr ⟨container, (agrees.container host store (.refl e) _).mp read, rfl⟩
  rw [if_neg (by assumption)]
  split at taken
  · rename_i isRollback
    rw [if_pos isRollback]
    exact takeRollback_moved agrees (unnamed isRollback) taken
  rw [if_neg (by assumption)]
  split at taken
  · rw [if_pos (by assumption)]
    obtain ⟨edits, read, taken⟩ := bind_eq_ok.mp taken
    cases taken
    exact bind_eq_ok.mpr ⟨edits, (agrees.scopedSqlEdits host.isPattern (.refl e) _).mp read, rfl⟩
  · rw [if_neg (by assumption)]
    obtain ⟨read, isRead, taken⟩ := bind_eq_ok.mp taken
    cases taken
    exact bind_eq_ok.mpr ⟨read, (agrees.change host store changeset.id (.refl e) _).mp isRead, rfl⟩

theorem takeItems_moved (agrees : site.Agrees other) (refers : ∀ item ∈ items, RefersToNone item)
    (taken : takeItems host site log changeset items = .ok (after, warnings)) :
    takeItems { host with store } other log' (changeset.moved directory takesPath) items =
      .ok (after.moved directory takesPath, warnings) := by
  induction items generalizing changeset warnings with
  | nil =>
      cases taken
      rfl
  | cons item items ih =>
      cases item with
      | text s => cases taken
      | element e =>
          obtain ⟨⟨middle, first⟩, front, taken⟩ := bind_eq_ok.mp taken
          obtain ⟨⟨last, second⟩, rest, taken⟩ := bind_eq_ok.mp taken
          cases taken
          have unnamed : e.name = "rollback" → e.hasNamed = false :=
            refers (.element e) List.mem_cons_self
          exact bind_eq_ok.mpr ⟨_, takeElement_moved agrees unnamed front, bind_eq_ok.mpr
            ⟨_, ih (fun other member => refers other (List.mem_cons_of_mem _ member)) rest, rfl⟩⟩

/-- A path that is not given is that of the changelog, which moves unless it is a logical one. -/
theorem getD_filePath_moved (path : log'.physicalPath = directory ++ log.physicalPath)
    (logical : log'.logicalPath = log.logicalPath) (given : Option String) :
    given.getD log'.filePath =
      if log.logicalPath.isNone && given.isNone then directory ++ given.getD log.filePath
      else given.getD log.filePath := by
  simp only [Changelog.filePath, path, logical]
  cases given <;> cases log.logicalPath <;> rfl

theorem ofAttributes_moved (given : Attributes)
    (path : log'.physicalPath = directory ++ log.physicalPath)
    (logical : log'.logicalPath = log.logicalPath) (quoting : log'.quoting = log.quoting) :
    ofAttributes log' given = (ofAttributes log given).map (moved directory
      (log.logicalPath.isNone &&
        ((given.text? "filePath").or (given.text? "logicalFilePath")).isNone)) := by
  have continued {first : Except BuildError QuotingStrategy}
      {second : Except BuildError ValidationFailOption}
      {build build' : QuotingStrategy → ValidationFailOption → Changeset} {move}
      (same : ∀ strategy option, build' strategy option = move (build strategy option)) :
      (first >>= fun strategy => second >>= fun option => pure (build' strategy option)) =
        (first >>= fun strategy => second >>= fun option => pure (build strategy option)).map
          move := by
    cases first with
    | error => rfl
    | ok strategy =>
        cases second with
        | error => rfl
        | ok option => exact congrArg Except.ok (same strategy option)
  unfold ofAttributes
  rw [quoting, path]
  simp only [getD_filePath_moved path logical]
  cases given.text? "objectQuotingStrategy" <;> cases given.text? "onValidationFail" <;>
    exact continued fun _ _ => rfl

theorem ofArguments_moved {arguments : List (String × Value)}
    (path : log'.physicalPath = directory ++ log.physicalPath)
    (logical : log'.logicalPath = log.logicalPath) (quoting : log'.quoting = log.quoting)
    (built : ofArguments log arguments = .ok changeset) :
    ∃ given, schema.check "changeSet" none arguments = .ok given ∧
      ofArguments log' arguments = .ok (changeset.moved directory (log.logicalPath.isNone &&
        ((given.text? "filePath").or (given.text? "logicalFilePath")).isNone)) := by
  unfold ofArguments at built ⊢
  split at built
  · cases built
  rename_i noAlways
  obtain ⟨given, checked, built⟩ := bind_eq_ok.mp built
  obtain ⟨done, required, built⟩ := bind_eq_ok.mp built
  rw [if_neg noAlways]
  refine ⟨given, checked, bind_eq_ok.mpr ⟨given, checked, bind_eq_ok.mpr ⟨done, required, ?_⟩⟩⟩
  rw [ofAttributes_moved given path logical quoting, built]
  rfl

end

/-- A changeset is declared in a moved changelog as before. -/
theorem ofElement_moved {host : Host} {table : PropertyTable} {log log' : Changelog} {e : Element}
    {own : Changeset} {warnings : List Warning} (store : Store) (directory : String)
    (path : log'.physicalPath = directory ++ log.physicalPath)
    (logical : log'.logicalPath = log.logicalPath) (quoting : log'.quoting = log.quoting)
    (refers : ∀ item ∈ e.items, RefersToNone item)
    (built : ofElement host table log e = .ok (own, warnings)) :
    ofElement { host with store } (table.moved directory) log' e =
      .ok (own.moved directory (takesPhysicalPath table log e), warnings) := by
  have agrees := Site.agrees_moved directory table log.physicalPath none
  obtain ⟨arguments, called, built⟩ := bind_eq_ok.mp built
  obtain ⟨start, begun, built⟩ := bind_eq_ok.mp built
  obtain ⟨given, checked, begunMoved⟩ := ofArguments_moved path logical quoting begun
  have mark : takesPhysicalPath table log e = (log.logicalPath.isNone &&
      ((given.text? "filePath").or (given.text? "logicalFilePath")).isNone) := by
    simp only [takesPhysicalPath, givenPath?, bind_eq_ok.mpr ⟨arguments, called, checked⟩]
  rw [← mark] at begunMoved
  rw [ofElement, path]
  refine bind_eq_ok.mpr ⟨arguments, (agrees.namedArguments e _).mp called,
    bind_eq_ok.mpr ⟨_, begunMoved, ?_⟩⟩
  exact takeItems_moved (agrees.within (some start.id)) refers built

end Changeset

end Migration
