/-!
# Steps that can fail

A step after another one succeeds exactly if both do.  Two steps succeed alike if they have the same
results; the causes for which they fail may differ.  They correspond if their results are related,
and they are parallel if the causes are the same as well.  A step after another one fails for some
causes only if both do.
-/

namespace Migration

variable {Cause α β : Type}

theorem bind_eq_ok {first : Except Cause α} {next : α → Except Cause β} {result : β} :
    first >>= next = .ok result ↔ ∃ value, first = .ok value ∧ next value = .ok result := by
  cases first with
  | error cause => simp [bind, Except.bind]
  | ok value => simp [bind, Except.bind]

theorem map_eq_ok {first : Except Cause α} {f : α → β} {result : β} :
    first.map f = .ok result ↔ ∃ value, first = .ok value ∧ f value = result := by
  cases first with
  | error cause => simp [Except.map]
  | ok value => simp [Except.map]

theorem map_eq_error {first : Except Cause α} {f : α → β} {cause : Cause} :
    first.map f = .error cause ↔ first = .error cause := by
  cases first <;> simp [Except.map]

theorem mapError_eq_ok {Other : Type} {first : Except Cause α} {f : Cause → Other} {value : α} :
    first.mapError f = .ok value ↔ first = .ok value := by
  cases first with
  | error cause => exact ⟨nofun, nofun⟩
  | ok other =>
      constructor
      · intro same
        cases same
        rfl
      · intro same
        cases same
        rfl

theorem eq_ok_of_toOption {first : Except Cause α} {value : α}
    (found : first.toOption = some value) : first = .ok value := by
  cases first with
  | error cause => cases found
  | ok other =>
      cases found
      rfl

theorem exists_ok_of_toOption {first : Except Cause α} {f : α → β} {result : β}
    (found : first.toOption.map f = some result) : ∃ value, first = .ok value ∧ f value = result := by
  obtain ⟨value, given, same⟩ := Option.map_eq_some_iff.mp found
  exact ⟨value, eq_ok_of_toOption given, same⟩

/-- What holds of a result, if there is one, can be decided. -/
instance decidableForallEqOk {holds : α → Prop} [DecidablePred holds] :
    (result : Except Cause α) → Decidable (∀ value, result = .ok value → holds value)
  | .ok value => decidable_of_iff (holds value) ⟨fun good other same => by cases same; exact good,
      fun good => good value rfl⟩
  | .error _ => .isTrue nofun

/-- What each step keeps is kept by all of them. -/
theorem of_foldlM_eq_ok {holds : α → Prop} {step : α → β → Except Cause α}
    (keeps : ∀ {before item after}, step before item = .ok after → holds before → holds after)
    {items : List β} {start last : α} (ran : items.foldlM step start = .ok last)
    (begins : holds start) : holds last := by
  induction items generalizing start with
  | nil =>
      cases ran
      exact begins
  | cons item items ih =>
      rw [List.foldlM_cons] at ran
      obtain ⟨middle, first, rest⟩ := bind_eq_ok.mp ran
      exact ih rest (keeps first begins)

/-- Whether two steps have the same results, apart from the causes for which they fail. -/
def Alike (first second : Except Cause α) : Prop :=
  ∀ value, first = .ok value ↔ second = .ok value

namespace Alike

variable {first second : Except Cause α}

theorem refl (step : Except Cause α) : Alike step step :=
  fun _ => Iff.rfl

theorem error (cause other : Cause) : Alike (.error cause : Except Cause α) (.error other) :=
  fun _ => ⟨nofun, nofun⟩

theorem bind_of_ok {next other : α → Except Cause β} (front : Alike first second)
    (rest : ∀ value, first = .ok value → Alike (next value) (other value)) :
    Alike (first >>= next) (second >>= other) := by
  cases first with
  | ok value =>
      rw [(front value).mp rfl]
      exact rest value rfl
  | error cause =>
      cases second with
      | ok value => cases (front value).mpr rfl
      | error other => exact .error cause other

theorem bind {next other : α → Except Cause β} (front : Alike first second)
    (rest : ∀ value, Alike (next value) (other value)) :
    Alike (first >>= next) (second >>= other) :=
  front.bind_of_ok fun value _ => rest value

theorem map {f : α → β} (front : Alike first second) : Alike (first.map f) (second.map f) := by
  intro result
  simp only [map_eq_ok, front _]

instance decidableAlike [DecidableEq α] :
    (first second : Except Cause α) → Decidable (Alike first second)
  | .ok value, .ok other => decidable_of_iff (value = other)
      ⟨fun same => same ▸ .refl _, fun alike => (Except.ok.inj ((alike value).mp rfl)).symm⟩
  | .error cause, .error other => .isTrue (.error cause other)
  | .ok value, .error _ => .isFalse fun alike => nomatch (alike value).mp rfl
  | .error _, .ok value => .isFalse fun alike => nomatch (alike value).mpr rfl

end Alike

/-- Whether two steps both succeed, with related results, or both fail. -/
inductive Corresponds (rel : α → β → Prop) : Except Cause α → Except Cause β → Prop
  | ok {value : α} {other : β} (related : rel value other) : Corresponds rel (.ok value) (.ok other)
  | error (cause other : Cause) : Corresponds rel (.error cause) (.error other)

/-- Steps that succeed alike correspond by every relation that relates each result to itself. -/
theorem Alike.corresponds {first second : Except Cause α} {rel : α → α → Prop}
    (alike : Alike first second) (refl : ∀ value, rel value value) :
    Corresponds rel first second := by
  cases first with
  | ok value =>
      rw [(alike value).mp rfl]
      exact .ok (refl value)
  | error cause =>
      cases second with
      | ok value => cases (alike value).mpr rfl
      | error other => exact .error cause other

namespace Corresponds

variable {γ δ : Type} {rel : α → β → Prop} {first : Except Cause α} {second : Except Cause β}

theorem bind {last : γ → δ → Prop} {next : α → Except Cause γ} {other : β → Except Cause δ}
    (front : Corresponds rel first second)
    (rest : ∀ a b, rel a b → Corresponds last (next a) (other b)) :
    Corresponds last (first >>= next) (second >>= other) := by
  cases front with
  | ok related => exact rest _ _ related
  | error cause cause' => exact .error cause cause'

theorem map {last : γ → δ → Prop} {f : α → γ} {g : β → δ} (front : Corresponds rel first second)
    (same : ∀ a b, rel a b → last (f a) (g b)) :
    Corresponds last (first.map f) (second.map g) := by
  cases front with
  | ok related => exact .ok (same _ _ related)
  | error cause other => exact .error cause other

theorem mapError {Other : Type} (front : Corresponds rel first second) (f : Cause → Other) :
    Corresponds rel (first.mapError f) (second.mapError f) := by
  cases front with
  | ok related => exact .ok related
  | error cause other => exact .error (f cause) (f other)

theorem bind_alike {next : α → Except Cause γ} {other : β → Except Cause γ}
    (front : Corresponds rel first second)
    (rest : ∀ a b, rel a b → Alike (next a) (other b)) :
    Alike (first >>= next) (second >>= other) := by
  cases front with
  | ok related => exact rest _ _ related
  | error cause cause' => exact .error cause cause'

theorem trans_alike {third : Except Cause β} (front : Corresponds rel first second)
    (alike : Alike second third) : Corresponds rel first third := by
  cases front with
  | ok related =>
      rw [(alike _).mp rfl]
      exact .ok related
  | error cause other =>
      cases third with
      | ok value => cases (alike value).mpr rfl
      | error last => exact .error cause last

end Corresponds

/-- Whether two steps both succeed, with related results, or fail for the same cause. -/
inductive Parallels (rel : α → β → Prop) : Except Cause α → Except Cause β → Prop
  | ok {value : α} {other : β} (related : rel value other) : Parallels rel (.ok value) (.ok other)
  | error (cause : Cause) : Parallels rel (.error cause) (.error cause)

namespace Parallels

variable {γ δ : Type} {rel : α → β → Prop} {first : Except Cause α} {second : Except Cause β}

theorem refl {rel : α → α → Prop} (related : ∀ value, rel value value) (step : Except Cause α) :
    Parallels rel step step := by
  cases step with
  | ok value => exact .ok (related value)
  | error cause => exact .error cause

theorem same (step : Except Cause α) : Parallels Eq step step :=
  refl (fun _ => rfl) step

theorem trans {rel : α → α → Prop} {first second third : Except Cause α}
    (related : ∀ {a b c}, rel a b → rel b c → rel a c) (front : Parallels rel first second)
    (back : Parallels rel second third) : Parallels rel first third := by
  cases front with
  | error cause => exact back
  | ok middle =>
      cases back with
      | ok last => exact .ok (related middle last)

theorem mono {others : α → β → Prop} (parallel : Parallels rel first second)
    (more : ∀ a b, rel a b → others a b) : Parallels others first second := by
  cases parallel with
  | ok related => exact .ok (more _ _ related)
  | error cause => exact .error cause

theorem bind {last : γ → δ → Prop} {next : α → Except Cause γ} {other : β → Except Cause δ}
    (front : Parallels rel first second)
    (rest : ∀ a b, rel a b → Parallels last (next a) (other b)) :
    Parallels last (first >>= next) (second >>= other) := by
  cases front with
  | ok related => exact rest _ _ related
  | error cause => exact .error cause

theorem bind_eq_of_ok {next : α → Except Cause γ} {other : β → Except Cause γ}
    (front : Parallels rel first second)
    (rest : ∀ a b, first = .ok a → rel a b → next a = other b) :
    first >>= next = second >>= other := by
  cases front with
  | ok related => exact rest _ _ rfl related
  | error cause => rfl

/-- Of parallel steps nothing is seen where related results are treated in the same way. -/
theorem bind_eq {next : α → Except Cause γ} {other : β → Except Cause γ}
    (front : Parallels rel first second) (rest : ∀ a b, rel a b → next a = other b) :
    first >>= next = second >>= other :=
  front.bind_eq_of_ok fun a b _ => rest a b

theorem eq_of_alike {rel : α → α → Prop} {first second : Except Cause α}
    (parallel : Parallels rel first second) (alike : Alike first second) : first = second := by
  cases parallel with
  | ok => exact ((alike _).mp rfl).symm
  | error cause => rfl

/-- Parallel steps are the same if what is made of their results is alike. -/
theorem map_eq_of_alike {f : α → γ} {g : β → γ} (parallel : Parallels rel first second)
    (alike : Alike (first.map f) (second.map g)) : first.map f = second.map g := by
  cases parallel with
  | ok => exact ((alike _).mp rfl).symm
  | error cause => rfl

theorem corresponds (parallel : Parallels rel first second) : Corresponds rel first second := by
  cases parallel with
  | ok related => exact .ok related
  | error cause => exact .error cause cause

theorem mapError {Other : Type} (front : Parallels rel first second) (f : Cause → Other) :
    Parallels rel (first.mapError f) (second.mapError f) := by
  cases front with
  | ok related => exact .ok related
  | error cause => exact .error (f cause)

end Parallels

/-- Whether a step fails, if it does, for some causes only. -/
def FailsFor (causes : Cause → Prop) (step : Except Cause α) : Prop :=
  ∀ cause, step = .error cause → causes cause

namespace FailsFor

variable {causes : Cause → Prop}

@[simp]
theorem ok (value : α) : FailsFor causes (.ok value) :=
  nofun

@[simp]
theorem pure (value : α) : FailsFor causes (Pure.pure value : Except Cause α) :=
  nofun

@[simp]
theorem error_iff {cause : Cause} :
    FailsFor causes (.error cause : Except Cause α) ↔ causes cause := by
  simp [FailsFor]

theorem error {cause : Cause} (allowed : causes cause) :
    FailsFor causes (.error cause : Except Cause α) :=
  error_iff.mpr allowed

@[simp]
theorem map_iff {f : α → β} {step : Except Cause α} :
    FailsFor causes (step.map f) ↔ FailsFor causes step := by
  cases step <;> simp [Except.map]

/-- A step whose causes are changed fails for what they are changed to. -/
theorem mapError {Other : Type} {f : Other → Cause} (allowed : ∀ cause, causes (f cause))
    (step : Except Other α) : FailsFor causes (step.mapError f) := by
  cases step with
  | ok value => exact .ok value
  | error cause => exact .error (allowed cause)

theorem mono {others : Cause → Prop} {step : Except Cause α} (fails : FailsFor causes step)
    (more : ∀ cause, causes cause → others cause) : FailsFor others step :=
  fun cause failed => more cause (fails cause failed)

theorem bind_of_ok {step : Except Cause α} {next : α → Except Cause β}
    (first : FailsFor causes step)
    (rest : ∀ value, step = .ok value → FailsFor causes (next value)) :
    FailsFor causes (step >>= next) := by
  cases step with
  | ok value => exact rest value rfl
  | error cause => exact error_iff.mpr (error_iff.mp first)

theorem bind {step : Except Cause α} {next : α → Except Cause β} (first : FailsFor causes step)
    (rest : ∀ value, FailsFor causes (next value)) : FailsFor causes (step >>= next) :=
  first.bind_of_ok fun value _ => rest value

theorem foldlM {step : α → β → Except Cause α}
    (each : ∀ before item, FailsFor causes (step before item)) (items : List β) (start : α) :
    FailsFor causes (items.foldlM step start) := by
  induction items generalizing start with
  | nil => exact .pure start
  | cons item items ih =>
      rw [List.foldlM_cons]
      exact (each start item).bind ih

end FailsFor

end Migration
