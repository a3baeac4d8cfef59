import Migration.Proofs.Failure

/-!
# Strict steps that filter lax ones

A strict step filters a lax one if it lets only good results pass and changes none of them.  Steps
that filter one another follow one another, so that a property which is looked at in the middle of a
build is seen at its end.
-/

namespace Migration

variable {Cause α β : Type}

/-- Whether a strict step lets pass what a lax one gives, as far as it is good.  If `exact` holds
all that is good passes, and then it was good before as well. -/
structure Filters (exact before : Prop) (strict lax : Except Cause α) (good : α → Prop) : Prop where
  passes : ∀ {value}, before → strict = .ok value → lax = .ok value ∧ good value
  reflects : exact → ∀ {value}, lax = .ok value → good value → before ∧ strict = .ok value

namespace Filters

variable {exact before : Prop} {strict lax step : Except Cause α} {good : α → Prop}

/-- A step without strictness. -/
theorem same (keeps : ∀ {value}, step = .ok value → before → good value)
    (reflects : exact → ∀ {value}, step = .ok value → good value → before) :
    Filters exact before step step good where
  passes holds ran := ⟨ran, keeps ran holds⟩
  reflects isExact _ ran isGood := ⟨reflects isExact ran isGood, ran⟩

/-- A step without strictness that has nothing to do with what holds before it. -/
theorem aside (step : Except Cause α) : Filters exact before step step fun _ => before :=
  same (fun _ holds => holds) fun _ _ _ holds => holds

theorem error (cause : Cause) : Filters exact before (.error cause) (.error cause) good :=
  same (fun ran => by cases ran) fun _ _ ran => by cases ran

/-- A strict step that refuses whatever the lax one gives. -/
theorem refused {cause : Cause} (inexact : ¬exact) :
    Filters exact before (.error cause) lax good where
  passes _ ran := by cases ran
  reflects isExact := (inexact isExact).elim

theorem ok (value : α) (keeps : before → good value) (reflects : exact → good value → before) :
    Filters exact before (.ok value : Except Cause α) (.ok value) good := by
  refine same ?_ ?_
  · intro other ran holds
    cases ran
    exact keeps holds
  · intro isExact other ran isGood
    cases ran
    exact reflects isExact isGood

/-- A result that is good exactly if all was before. -/
theorem okOf (value : α) (same : good value ↔ before) :
    Filters exact before (.ok value : Except Cause α) (.ok value) good :=
  ok value same.mpr fun _ => same.mp

theorem bind {next other : α → Except Cause β} {last : β → Prop}
    (first : Filters exact before strict lax good)
    (rest : ∀ value, lax = .ok value → Filters exact (good value) (next value) (other value) last) :
    Filters exact before (strict >>= next) (lax >>= other) last where
  passes holds ran := by
    obtain ⟨value, ranFirst, ran⟩ := bind_eq_ok.mp ran
    obtain ⟨ranLax, isGood⟩ := first.passes holds ranFirst
    obtain ⟨ranOther, isLast⟩ := (rest value ranLax).passes isGood ran
    exact ⟨bind_eq_ok.mpr ⟨value, ranLax, ranOther⟩, isLast⟩
  reflects isExact _ ran isLast := by
    obtain ⟨value, ranLax, ran⟩ := bind_eq_ok.mp ran
    obtain ⟨isGood, ranNext⟩ := (rest value ranLax).reflects isExact ran isLast
    obtain ⟨holds, ranFirst⟩ := first.reflects isExact ranLax isGood
    exact ⟨holds, bind_eq_ok.mpr ⟨value, ranFirst, ranNext⟩⟩

theorem map {f : α → β} {last : β → Prop} (first : Filters exact before strict lax good)
    (same : ∀ value, last (f value) ↔ good value) :
    Filters exact before (strict.map f) (lax.map f) last where
  passes holds ran := by
    obtain ⟨value, ranFirst, rfl⟩ := map_eq_ok.mp ran
    obtain ⟨ranLax, isGood⟩ := first.passes holds ranFirst
    exact ⟨map_eq_ok.mpr ⟨value, ranLax, rfl⟩, (same value).mpr isGood⟩
  reflects isExact _ ran isLast := by
    obtain ⟨value, ranLax, rfl⟩ := map_eq_ok.mp ran
    obtain ⟨holds, ranFirst⟩ := first.reflects isExact ranLax ((same value).mp isLast)
    exact ⟨holds, map_eq_ok.mpr ⟨value, ranFirst, rfl⟩⟩

theorem congr {before' : Prop} {good' : α → Prop} (first : Filters exact before strict lax good)
    (sameBefore : before' ↔ before) (sameAfter : ∀ value, good' value ↔ good value) :
    Filters exact before' strict lax good' where
  passes holds ran := by
    obtain ⟨ranLax, isGood⟩ := first.passes (sameBefore.mp holds) ran
    exact ⟨ranLax, (sameAfter _).mpr isGood⟩
  reflects isExact _ ran isGood := by
    obtain ⟨holds, ranFirst⟩ := first.reflects isExact ran ((sameAfter _).mp isGood)
    exact ⟨sameBefore.mpr holds, ranFirst⟩

/-- A step whose strictness is known if something holds before it. -/
theorem given (first : before → Filters exact True strict lax good) :
    Filters exact before strict lax fun value => before ∧ good value where
  passes holds ran := by
    obtain ⟨ranLax, isGood⟩ := (first holds).passes trivial ran
    exact ⟨ranLax, holds, isGood⟩
  reflects isExact _ ran isGood :=
    ⟨isGood.1, ((first isGood.1).reflects isExact ran isGood.2).2⟩

end Filters

end Migration
