import Mathlib.Data.List.Forall2
import Migration.Declaration.Changeset
import Migration.Proofs.Failure

/-!
# What the block of a changeset does

The block of a `changeSet` element fills the comment, checksums, preconditions, changes, rollback
and edits of its changeset; each of its elements fills one of these.  All else is settled by the
arguments, and nothing is inherited yet.
-/

namespace Migration

/-- Whether an element in a changeset declares a change. -/
def Change.IsDeclared (host : Host) (site : Site) (changeset : String) (e : Element)
    (change : Change) : Prop :=
  ∃ warnings, Change.ofElement host site changeset e = .ok (change, warnings)

namespace Changeset

variable {host : Host} {site : Site} {log : Changelog} {changeset after : Changeset}
  {warnings : List Warning} {e : Element} {items : List (Item Element)}

/-! ## Rollbacks -/

/-- The block of a rollback holds elements that declare changes, and perhaps a text at its end. -/
theorem takeRollbackItems_eq_ok
    (taken : takeRollbackItems host site changeset items = .ok (after, warnings)) :
    ∃ children sql? changes, items = children.map .element ++ (Option.map .text sql?).toList ∧
      (∀ child ∈ children, child.name ≠ "rollback") ∧
      List.Forall₂ (Change.IsDeclared host site changeset.id) children changes ∧
      after = { changeset with rollback := changeset.rollback ++
        (changes ++ (sql?.map fun sql => .rawSql (site.expand sql)).toList) } := by
  induction items generalizing changeset warnings with
  | nil =>
      cases taken
      exact ⟨[], none, [], rfl, by simp, .nil, by simp⟩
  | cons item items ih =>
      cases item with
      | text sql =>
          cases items with
          | nil =>
              cases taken
              exact ⟨[], some sql, [], rfl, by simp, .nil, rfl⟩
          | cons => cases taken
      | element e =>
          unfold takeRollbackItems at taken
          split at taken
          · cases taken
          rename_i other
          obtain ⟨⟨middle, first⟩, undone, taken⟩ := bind_eq_ok.mp taken
          obtain ⟨⟨last, second⟩, rest, taken⟩ := bind_eq_ok.mp taken
          cases taken
          obtain ⟨⟨change, third⟩, read, undone⟩ := bind_eq_ok.mp undone
          cases undone
          obtain ⟨children, sql?, changes, rfl, flat, declared, rfl⟩ := ih rest
          refine ⟨e :: children, sql?, change :: changes, rfl, ?_, .cons ⟨first, read⟩ declared, ?_⟩
          · exact List.forall_mem_cons.mpr ⟨other, flat⟩
          · simp

/-- A rollback is a block or nothing, a bare value, or a reference to another changeset. -/
theorem takeRollback_cases
    (taken : takeRollback host site log changeset e = .ok (after, warnings)) :
    (site.call e = .ok .empty ∧
      takeRollbackItems host site changeset e.items = .ok (after, warnings)) ∨
    (∃ value, site.call e = .ok (.positional [value]) ∧ e.block = none ∧
      after = { changeset with
        rollback := changeset.rollback ++ (value.plain?.map .rawSql).toList }) ∨
    ∃ arguments target, site.call e = .ok (.named arguments) ∧ e.block = none ∧
      referredBy host site log changeset arguments = .ok target ∧
      after = { changeset with rollback := changeset.rollback ++ target.changes } := by
  obtain ⟨call, called, taken⟩ := bind_eq_ok.mp taken
  match call with
  | .empty => exact .inl ⟨called, taken⟩
  | .positional values =>
      dsimp only at taken
      split at taken
      · rename_i value noBlock
        refine .inr (.inl ⟨value, called, noBlock, ?_⟩)
        split at taken
        · rename_i isPlain
          cases taken
          rw [isPlain]
          rfl
        · rename_i isNull
          cases taken
          simp [isNull]
      · cases taken
  | .named arguments =>
      dsimp only at taken
      split at taken
      · cases taken
      rename_i noBlock
      obtain ⟨target, referred, taken⟩ := bind_eq_ok.mp taken
      cases taken
      exact .inr (.inr ⟨arguments, target, called, by simpa using noBlock, referred, rfl⟩)

/-- A rollback adds to what undoes the changeset, and does nothing else. -/
theorem takeRollback_grows
    (taken : takeRollback host site log changeset e = .ok (after, warnings)) :
    ∃ more, after = { changeset with rollback := changeset.rollback ++ more } := by
  rcases takeRollback_cases taken with ⟨-, taken⟩ | ⟨_, -, -, rfl⟩ | ⟨_, _, -, -, -, rfl⟩
  · obtain ⟨_, _, _, -, -, -, rfl⟩ := takeRollbackItems_eq_ok taken
    exact ⟨_, rfl⟩
  · exact ⟨_, rfl⟩
  · exact ⟨_, rfl⟩

/-! ## Elements of the block -/

/-- The names of the children of a changeset that are no changes. -/
def partNames : List String :=
  ["comment", "validCheckSum", "preConditions", "rollback", "modifySql"]

/-- What an element of the block of a changeset makes of it. -/
inductive Takes (host : Host) (site : Site) (log : Changelog) (changeset : Changeset)
    (e : Element) : Changeset → Prop
  | comment {text : String} (named : e.name = "comment") (read : site.textContent e = .ok text) :
      Takes host site log changeset e { changeset with comments := some text }
  | checksum {text : String} (named : e.name = "validCheckSum")
      (read : site.textContent e = .ok text) :
      Takes host site log changeset e
        { changeset with validChecksums := changeset.validChecksums ++ [text] }
  | preconditions {container : PreconditionContainer} (named : e.name = "preConditions")
      (read : PreconditionContainer.ofElement host site e = .ok container) :
      Takes host site log changeset e { changeset with preconditions := some container }
  | rollback {after : Changeset} {warnings : List Warning} (named : e.name = "rollback")
      (taken : takeRollback host site log changeset e = .ok (after, warnings)) :
      Takes host site log changeset e after
  | edits {edits : List ScopedSqlEdit} (named : e.name = "modifySql")
      (read : ScopedSqlEdit.ofElement host.isPattern site e = .ok edits) :
      Takes host site log changeset e { changeset with sqlEdits := changeset.sqlEdits ++ edits }
  | change {change : Change} (unnamed : e.name ∉ partNames)
      (declared : Change.IsDeclared host site changeset.id e change) :
      Takes host site log changeset e { changeset with changes := changeset.changes ++ [change] }

theorem takes_of_takeElement
    (taken : takeElement host site log changeset e = .ok (after, warnings)) :
    Takes host site log changeset e after := by
  unfold takeElement at taken
  split at taken
  · rename_i named
    obtain ⟨text, read, taken⟩ := bind_eq_ok.mp taken
    cases taken
    exact .comment named read
  split at taken
  · rename_i named
    obtain ⟨text, read, taken⟩ := bind_eq_ok.mp taken
    cases taken
    exact .checksum named read
  split at taken
  · rename_i named
    obtain ⟨container, read, taken⟩ := bind_eq_ok.mp taken
    cases taken
    exact .preconditions named read
  split at taken
  · rename_i named
    exact .rollback named taken
  split at taken
  · rename_i named
    obtain ⟨edits, read, taken⟩ := bind_eq_ok.mp taken
    cases taken
    exact .edits named read
  · rename_i noComment noChecksum noPreconditions noRollback noEdits
    obtain ⟨⟨change, messages⟩, read, taken⟩ := bind_eq_ok.mp taken
    cases taken
    refine .change ?_ ⟨_, read⟩
    simp [partNames, noComment, noChecksum, noPreconditions, noRollback, noEdits]

/-! ## What is left alone -/

/-- A changeset with another block. -/
def SameHead (before after : Changeset) : Prop :=
  ∃ comments changes rollback preconditions validChecksums sqlEdits,
    after = { before with comments, changes, rollback, preconditions, validChecksums, sqlEdits }

namespace SameHead

theorem refl (changeset : Changeset) : SameHead changeset changeset :=
  ⟨_, _, _, _, _, _, rfl⟩

theorem trans {first second third : Changeset} (front : SameHead first second)
    (back : SameHead second third) : SameHead first third := by
  obtain ⟨_, _, _, _, _, _, rfl⟩ := front
  obtain ⟨_, _, _, _, _, _, rfl⟩ := back
  exact ⟨_, _, _, _, _, _, rfl⟩

end SameHead

theorem sameHead_takeElement
    (taken : takeElement host site log changeset e = .ok (after, warnings)) :
    SameHead changeset after := by
  cases takes_of_takeElement taken with
  | rollback _ taken =>
      obtain ⟨_, rfl⟩ := takeRollback_grows taken
      exact ⟨_, _, _, _, _, _, rfl⟩
  | _ => exact ⟨_, _, _, _, _, _, rfl⟩

theorem sameHead_takeItems
    (taken : takeItems host site log changeset items = .ok (after, warnings)) :
    SameHead changeset after := by
  induction items generalizing changeset warnings with
  | nil =>
      cases taken
      exact .refl _
  | cons item items ih =>
      cases item with
      | text s => cases taken
      | element e =>
          obtain ⟨⟨middle, first⟩, front, taken⟩ := bind_eq_ok.mp taken
          obtain ⟨⟨last, second⟩, rest, taken⟩ := bind_eq_ok.mp taken
          cases taken
          exact (sameHead_takeElement front).trans (ih rest)

/-- Before the block is read there is nothing of it, and nothing is inherited. -/
theorem bare_ofArguments {arguments : List (String × Value)}
    (built : ofArguments log arguments = .ok changeset) :
    changeset = { changeset with
      comments := none, changes := [], rollback := [], preconditions := none
      validChecksums := [], sqlEdits := [], inheritedContexts := [], inheritedLabels := [] } := by
  unfold ofArguments at built
  split at built
  · cases built
  obtain ⟨given, -, built⟩ := bind_eq_ok.mp built
  obtain ⟨-, -, built⟩ := bind_eq_ok.mp built
  unfold ofAttributes at built
  split at built <;> split at built <;>
    · obtain ⟨_, -, built⟩ := bind_eq_ok.mp built
      obtain ⟨_, -, built⟩ := bind_eq_ok.mp built
      cases built
      rfl

theorem inherits_nothing_ofArguments {arguments : List (String × Value)}
    (built : ofArguments log arguments = .ok changeset) :
    changeset.inheritedContexts = [] ∧ changeset.inheritedLabels = [] := by
  rw [bare_ofArguments built]
  exact ⟨rfl, rfl⟩

/-- A declared changeset inherits nothing until its changelog is included. -/
theorem inherits_nothing_ofElement {properties : PropertyTable}
    (built : ofElement host properties log e = .ok (changeset, warnings)) :
    changeset.inheritedContexts = [] ∧ changeset.inheritedLabels = [] := by
  obtain ⟨arguments, -, built⟩ := bind_eq_ok.mp built
  obtain ⟨start, given, built⟩ := bind_eq_ok.mp built
  have nothing := inherits_nothing_ofArguments given
  obtain ⟨_, _, _, _, _, _, rfl⟩ := sameHead_takeItems built
  exact nothing

end Changeset

end Migration
