/-
# What a resolution comes to

A resolution takes a trace, and gives a result and a longer trace.  Everything that is proved about
resolutions is proved about these outcomes, and the monad they are written in is opened here and
nowhere else: a step has one equation, and a chain of two steps is taken apart by what the first one
came to.

Two resolutions are compared in one direction only.  `x.Within y` says that wherever `x` succeeds,
`y` succeeds alike, and `x.WithinEvents y` that it does so but for the events; where `x` fails,
nothing is said.  What it may fail with is said on its own, by `x.FailsOnly P`.
-/
import SchemaMock.Resolution.Trace

namespace SchemaMock.Resolve

variable {α β : Type}

/-! ## 1. Outcomes of steps -/

/-- What a resolution makes of a trace: its result, and the trace that it leaves behind. -/
def outcome (x : Resolve α) (trace : Trace) : Except MockFault α × Trace := x.run.run trace

/-- Resolutions with the same outcomes are the same. -/
theorem ext_outcome {x y : Resolve α} (h : ∀ trace, x.outcome trace = y.outcome trace) : x = y :=
  funext h

@[simp] theorem outcome_pure (a : α) (trace : Trace) :
    (pure a : Resolve α).outcome trace = (.ok a, trace) := rfl

@[simp] theorem outcome_throw (fault : MockFault) (trace : Trace) :
    (throw fault : Resolve α).outcome trace = (.error fault, trace) := rfl

@[simp] theorem outcome_record (event : Event) (trace : Trace) :
    (record event).outcome trace = (.ok (), { trace with events := trace.events ++ [event] }) :=
  rfl

@[simp] theorem outcome_request (new : Import) (trace : Trace) :
    (request new).outcome trace =
      (.ok (), { trace with imports := withImport trace.imports new }) := rfl

@[simp] theorem ofExcept_ok (a : α) : ofExcept (.ok a : Except MockFault α) = pure a := rfl

@[simp] theorem ofExcept_error (fault : MockFault) :
    ofExcept (.error fault : Except MockFault α) = throw fault := rfl

/-! ## 2. Outcomes of chains -/

theorem outcome_bind (x : Resolve α) (f : α → Resolve β) (trace : Trace) :
    (x >>= f).outcome trace =
      match x.outcome trace with
      | (.ok a, left) => (f a).outcome left
      | (.error fault, left) => (.error fault, left) := by
  simp only [outcome, ExceptT.run_bind, StateT.run_bind]
  rcases StateT.run (ExceptT.run x) trace with ⟨fault | a, left⟩
  · rfl
  · rfl

/-- A chain goes on where its first step succeeds. -/
theorem outcome_bind_of_ok {x : Resolve α} {f : α → Resolve β} {trace left : Trace} {a : α}
    (h : x.outcome trace = (.ok a, left)) : (x >>= f).outcome trace = (f a).outcome left := by
  rw [outcome_bind, h]

/-- A chain succeeds exactly where both of its steps do. -/
theorem bind_ok_iff {x : Resolve α} {f : α → Resolve β} {trace after : Trace} {b : β} :
    (x >>= f).outcome trace = (.ok b, after) ↔
      ∃ a left, x.outcome trace = (.ok a, left) ∧ (f a).outcome left = (.ok b, after) := by
  rw [outcome_bind]
  rcases x.outcome trace with ⟨fault | a, left⟩
  · simp
  · constructor
    · intro h
      exact ⟨a, left, rfl, h⟩
    · rintro ⟨a', left', heq, h⟩
      cases heq
      exact h

/-- A chain fails exactly where its first step does, or where its second step does after a first one
that succeeded. -/
theorem bind_error_iff {x : Resolve α} {f : α → Resolve β} {trace after : Trace}
    {fault : MockFault} :
    (x >>= f).outcome trace = (.error fault, after) ↔
      x.outcome trace = (.error fault, after) ∨
        ∃ a left, x.outcome trace = (.ok a, left) ∧ (f a).outcome left = (.error fault, after) := by
  rw [outcome_bind]
  rcases x.outcome trace with ⟨fault' | a, left⟩
  · simp
  · constructor
    · intro h
      exact Or.inr ⟨a, left, rfl, h⟩
    · rintro (h | ⟨a', left', heq, h⟩)
      · simp at h
      · cases heq
        exact h

/-! ## 3. Success carried over -/

/-- Wherever `x` succeeds, `y` succeeds alike. -/
def Within (x y : Resolve α) : Prop :=
  ∀ ⦃trace left : Trace⦄ ⦃a : α⦄, x.outcome trace = (.ok a, left) → y.outcome trace = (.ok a, left)

namespace Within

theorem refl (x : Resolve α) : Within x x := fun _ _ _ h => h

/-- What never succeeds is within everything. -/
theorem of_throw (fault : MockFault) (y : Resolve α) : Within (throw fault) y := by
  intro trace left a h
  simp at h

theorem bind {x y : Resolve α} {f g : α → Resolve β} (hx : Within x y)
    (hf : ∀ a, Within (f a) (g a)) : Within (x >>= f) (y >>= g) := by
  intro trace after b h
  obtain ⟨a, left, ha, hb⟩ := bind_ok_iff.mp h
  exact bind_ok_iff.mpr ⟨a, left, hx ha, hf a hb⟩

end Within

/-- Wherever `x` succeeds, `y` succeeds alike, from whatever other events it begins with. -/
def WithinEvents (x y : Resolve α) : Prop :=
  ∀ ⦃trace left : Trace⦄ ⦃a : α⦄, x.outcome trace = (.ok a, left) →
    ∀ trace', trace'.imports = trace.imports →
      ∃ left', y.outcome trace' = (.ok a, left') ∧ left'.imports = left.imports

namespace WithinEvents

theorem of_pure (a : α) : WithinEvents (pure a : Resolve α) (pure a) := by
  rintro trace left b h trace' himports
  cases h
  exact ⟨trace', rfl, himports⟩

theorem of_record (event : Event) : WithinEvents (record event) (record event) := by
  rintro trace left b h trace' himports
  cases h
  exact ⟨{ trace' with events := trace'.events ++ [event] }, rfl, himports⟩

theorem of_request (new : Import) : WithinEvents (request new) (request new) := by
  rintro trace left b h trace' himports
  cases h
  refine ⟨{ trace' with imports := withImport trace'.imports new }, rfl, ?_⟩
  rw [himports]

theorem of_throw (fault : MockFault) (y : Resolve α) : WithinEvents (throw fault) y := by
  intro trace left a h
  simp at h

theorem bind {x y : Resolve α} {f g : α → Resolve β} (hx : WithinEvents x y)
    (hf : ∀ a, WithinEvents (f a) (g a)) : WithinEvents (x >>= f) (y >>= g) := by
  intro trace after b h trace' himports
  obtain ⟨a, left, ha, hb⟩ := bind_ok_iff.mp h
  obtain ⟨left', ha', hleft⟩ := hx ha trace' himports
  obtain ⟨after', hb', hafter⟩ := hf a hb left' hleft
  exact ⟨after', bind_ok_iff.mpr ⟨a, left', ha', hb'⟩, hafter⟩

end WithinEvents

/-! ## 4. Failure -/

/-- Every fault of `x` is one that `P` allows. -/
def FailsOnly (P : MockFault → Prop) (x : Resolve α) : Prop :=
  ∀ ⦃trace left : Trace⦄ ⦃fault : MockFault⦄, x.outcome trace = (.error fault, left) → P fault

namespace FailsOnly

variable {P Q : MockFault → Prop}

theorem of_pure (a : α) : FailsOnly P (pure a : Resolve α) := by
  intro trace left fault h
  simp at h

theorem of_record (event : Event) : FailsOnly P (record event) := by
  intro trace left fault h
  simp at h

theorem of_request (new : Import) : FailsOnly P (request new) := by
  intro trace left fault h
  simp at h

theorem bind {x : Resolve α} {f : α → Resolve β} (hx : FailsOnly P x)
    (hf : ∀ a, FailsOnly P (f a)) : FailsOnly P (x >>= f) := by
  intro trace after fault h
  rcases bind_error_iff.mp h with h | ⟨a, left, -, h⟩
  · exact hx h
  · exact hf a h

theorem map {x : Resolve α} (f : α → β) (hx : FailsOnly P x) : FailsOnly P (f <$> x) := by
  rw [map_eq_pure_bind]
  exact hx.bind fun a => of_pure _

theorem mono {x : Resolve α} (hx : FailsOnly P x) (h : ∀ fault, P fault → Q fault) :
    FailsOnly Q x :=
  fun _ _ fault hfault => h fault (hx hfault)

end FailsOnly

end SchemaMock.Resolve
