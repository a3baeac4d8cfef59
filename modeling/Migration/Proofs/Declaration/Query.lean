import Migration.Proofs.Declaration.Body
import Migration.Proofs.Declaration.Precondition

/-!
# The SQL of a check

A check has one piece of SQL, the last that its element supplies: that of its attribute comes first,
and then come the bare texts of its block.  The main statement, `Check.sql_ofElement`, says this, and
that no SQL is lost exactly where the last piece contains all others.  `Check.not_runs_supplied` is a
check that loses some.
-/

namespace Migration

/-- All the SQL that an element supplies to a check of a kind, in order: that of its attribute, unless
it is null, and the bare texts of its block. -/
def Site.suppliedSql (site : Site) (kind : PreconditionKind) (e : Element) : List String :=
  ((site.given? kind.params none e "sql").bind Value.plain?).toList ++ site.texts e.items

namespace Check

variable {host : Host} {site : Site} {kind : PreconditionKind} {e : Element} {check : Check}

/-- Whether some text is a part of the SQL of a check. -/
def Runs (check : Check) (text : String) : Prop :=
  ∃ sql, check.sql = some sql ∧ text.toList <:+: sql.toList

/-- Of the texts in the block of a check the last one is its SQL. -/
theorem sql_foldlM_takeItem (takesSql : kind.takesSql) {items : List (Item Element)} {start : Check}
    (taken : items.foldlM (takeItem site kind) start = .ok check) :
    check.sql = (site.texts items).getLast?.or start.sql := by
  induction items generalizing start with
  | nil =>
      cases taken
      rfl
  | cons item items ih =>
      rw [List.foldlM_cons] at taken
      obtain ⟨next, first, rest⟩ := bind_eq_ok.mp taken
      rw [ih rest]
      cases item with
      | text s =>
          rw [takeItem, if_pos takesSql] at first
          cases first
          have texts : site.texts (.text s :: items) = site.expand s :: site.texts items := rfl
          rw [texts, List.getLast?_cons]
          cases (site.texts items).getLast? <;> rfl
      | element e =>
          rw [takeItem] at first
          split at first
          · obtain ⟨param, -, first⟩ := bind_eq_ok.mp first
            cases first
            rfl
          · cases first

theorem sql_of_ofElement (known : host.catalog.preconditions.get? e.name = some kind)
    (takesSql : kind.takesSql) (read : ofElement host site e = .ok check) :
    check.sql = (site.suppliedSql kind e).getLast? := by
  obtain ⟨found, given, isFound, called, taken, -⟩ := ofElement_eq_ok.mp read
  obtain rfl := Option.some.inj (known.symm.trans isFound)
  have start : (ofAttributes kind given).sql = (given.get? "sql").bind Value.plain? := by
    rw [ofAttributes, if_pos takesSql]
  rw [sql_foldlM_takeItem takesSql taken, start, Site.get?_attributes called, Site.suppliedSql,
    List.getLast?_append]
  cases (site.given? kind.params none e "sql").bind Value.plain? <;> rfl

/-- A check of a kind with SQL has the last piece of SQL that its element supplies.  What is supplied
is lost, unless it is a part of that piece. -/
theorem sql_ofElement (known : host.catalog.preconditions.get? e.name = some kind)
    (takesSql : kind.takesSql) (read : ofElement host site e = .ok check) :
    check.sql = (site.suppliedSql kind e).getLast? ∧
      ((∀ text ∈ site.suppliedSql kind e, check.Runs text) ↔
        ∀ text ∈ site.suppliedSql kind e, ∀ last ∈ (site.suppliedSql kind e).getLast?,
          text.toList <:+: last.toList) := by
  have sql := sql_of_ofElement known takesSql read
  refine ⟨sql, forall₂_congr fun text member => ?_⟩
  obtain ⟨last, isLast⟩ := Option.isSome_iff_exists.mp
    (List.getLast?_isSome.mpr (List.ne_nil_of_mem member))
  simp [Runs, sql, isLast]

/-- A check with two pieces of SQL, one as an attribute and one as a text. -/
def twiceAsked : Element where
  name := "sqlCheck"
  arguments := [⟨some "expectedResult", .str "0"⟩, ⟨some "sql", .str "select 1"⟩]
  block := some [.text "select 2"]
  line := 1

theorem ofElement_twiceAsked :
    let host : Host := { store := MemoryStore.toStore {} }
    ∃ kind check, host.catalog.preconditions.get? twiceAsked.name = some kind ∧ kind.takesSql ∧
      ofElement host tableSite twiceAsked = .ok check ∧
      tableSite.suppliedSql kind twiceAsked = ["select 1", "select 2"] := by
  intro host
  have builtin : (host.catalog.preconditions.get? twiceAsked.name).map (fun kind =>
      (kind.takesSql, (ofElement host tableSite twiceAsked).toOption.isSome,
        tableSite.suppliedSql kind twiceAsked)) =
      some (true, true, ["select 1", "select 2"]) := by
    decide +kernel
  obtain ⟨kind, known, facts⟩ := Option.map_eq_some_iff.mp builtin
  simp only [Prod.mk.injEq] at facts
  obtain ⟨takesSql, reads, supplied⟩ := facts
  obtain ⟨check, found⟩ := Option.isSome_iff_exists.mp reads
  exact ⟨kind, check, known, takesSql, eq_ok_of_toOption found, supplied⟩

/-- The text of the block takes the place of the attribute. -/
theorem sql_ofElement_twiceAsked :
    let host : Host := { store := MemoryStore.toStore {} }
    ∃ check, ofElement host tableSite twiceAsked = .ok check ∧ check.sql = some "select 2" := by
  obtain ⟨kind, check, known, takesSql, read, supplied⟩ := ofElement_twiceAsked
  obtain ⟨sql, -⟩ := sql_ofElement known takesSql read
  rw [supplied] at sql
  exact ⟨check, read, sql⟩

/-- Not every check runs all the SQL that is supplied to it. -/
theorem not_runs_supplied :
    ¬ ∀ (host : Host) (site : Site) (e : Element) (kind : PreconditionKind) (check : Check),
      host.catalog.preconditions.get? e.name = some kind → kind.takesSql →
      ofElement host site e = .ok check → ∀ text ∈ site.suppliedSql kind e, check.Runs text := by
  intro claimed
  obtain ⟨kind, check, known, takesSql, read, supplied⟩ := ofElement_twiceAsked
  have taken := sql_of_ofElement known takesSql read
  have all := claimed _ _ _ kind check known takesSql read
  rw [supplied] at taken all
  obtain ⟨query, isQuery, part⟩ := all "select 1" List.mem_cons_self
  have same : some "select 2" = some query := taken.symm.trans isQuery
  rw [← Option.some.inj same] at part
  exact absurd part (by decide +kernel)

end Check

end Migration
