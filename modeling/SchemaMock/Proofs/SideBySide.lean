/-
# Two resolutions side by side

Two resolutions can be compared although they leave different traces and make different mocks: one
says which results are to correspond, and asks that both resolutions fail, or that neither does and
their results correspond (`Resolve.Matches`).  This is asked whatever the traces are that they begin
with, so it includes that neither looks at its trace.

What a resolution comes to without a look at the trace is a result that may be missing
(`Resolve.Settles`), and a chain of steps comes to the chain of their results.
-/
import SchemaMock.Proofs.Reordering

namespace SchemaMock.Resolve

variable {α β γ δ : Type}

/-! ## 1. Results that do not depend on the trace -/

/-- What a resolution comes to from the beginning on; nothing, if it fails. -/
def result? (x : Resolve α) : Option α := (x.outcome .empty).1.toOption

/-- Whatever the trace is, `x` comes to this result, or fails if there is none. -/
def Settles (x : Resolve α) (result : Option α) : Prop :=
  ∀ trace, (x.outcome trace).1.toOption = result

theorem settles_pure (a : α) : (pure a : Resolve α).Settles (some a) := fun _ => rfl

theorem settles_throw (fault : MockFault) : (throw fault : Resolve α).Settles none := fun _ => rfl

theorem settles_record (event : Event) : (record event).Settles (some ()) := fun _ => rfl

theorem settles_request (new : Import) : (request new).Settles (some ()) := fun _ => rfl

namespace Settles

variable {x : Resolve α} {result : Option α}

theorem result?_eq (h : x.Settles result) : x.result? = result := h .empty

/-- A chain of steps comes to the chain of their results. -/
theorem bind {f : α → Resolve β} {g : α → Option β} (h : x.Settles result)
    (hf : ∀ a, result = some a → (f a).Settles (g a)) : (x >>= f).Settles (result.bind g) := by
  intro trace
  have hx := h trace
  rw [outcome_bind]
  rcases hout : x.outcome trace with ⟨fault | a, left⟩
  · rw [hout] at hx
    rw [← hx]
    rfl
  · rw [hout] at hx
    have hresult : result = some a := hx.symm
    rw [hresult]
    exact hf a hresult left

theorem gives {a : α} (h : x.Settles (some a)) : x.Gives a := by
  have hx := h .empty
  rcases hout : x.outcome .empty with ⟨fault | a', left⟩
  · rw [hout] at hx
    cases hx
  · rw [hout] at hx
    cases hx
    exact ⟨.empty, left, hout⟩

end Settles

/-! ## 2. Results that correspond -/

/-- Both resolutions fail, or neither does and their results are related, whatever the traces
are. -/
structure Matches (R : α → β → Prop) (x : Resolve α) (y : Resolve β) : Prop where
  left : x.Settles x.result?
  right : y.Settles y.result?
  rel : Option.Rel R x.result? y.result?

variable {R : α → β → Prop} {S : γ → δ → Prop}

theorem Settles.matches {x : Resolve α} {y : Resolve β} {result : Option α} {result' : Option β}
    (h : x.Settles result) (h' : y.Settles result') (hrel : Option.Rel R result result') :
    Matches R x y := by
  constructor
  · rw [h.result?_eq]
    exact h
  · rw [h'.result?_eq]
    exact h'
  · rw [h.result?_eq, h'.result?_eq]
    exact hrel

theorem matches_pure {a : α} {b : β} (h : R a b) : Matches R (pure a) (pure b) :=
  (settles_pure a).matches (settles_pure b) (.some h)

theorem matches_throw (fault fault' : MockFault) : Matches R (throw fault) (throw fault') :=
  (settles_throw fault).matches (settles_throw fault') .none

theorem matches_record (event event' : Event) :
    Matches (fun _ _ => True) (record event) (record event') :=
  (settles_record event).matches (settles_record event') (.some trivial)

theorem matches_request (new new' : Import) :
    Matches (fun _ _ => True) (request new) (request new') :=
  (settles_request new).matches (settles_request new') (.some trivial)

namespace Matches

variable {x : Resolve α} {y : Resolve β}

theorem bind {f : α → Resolve γ} {g : β → Resolve δ} (h : Matches R x y)
    (hf : ∀ a b, R a b → x.Gives a → Matches S (f a) (g b)) : Matches S (x >>= f) (y >>= g) := by
  obtain ⟨hx, hy, hrel⟩ := h
  rcases rel_cases hrel with ⟨hnone, hnone'⟩ | ⟨a, b, ha, hb, hR⟩
  · rw [hnone] at hx
    rw [hnone'] at hy
    exact (hx.bind (g := fun _ => none) nofun).matches (hy.bind (g := fun _ => none) nofun) .none
  · rw [ha] at hx
    rw [hb] at hy
    have hnext := hf a b hR hx.gives
    refine (hx.bind (g := fun a => (f a).result?) ?_).matches
      (hy.bind (g := fun b => (g b).result?) ?_) hnext.rel
    · rintro _ ⟨⟩
      exact hnext.left
    · rintro _ ⟨⟩
      exact hnext.right

theorem map {f : α → γ} {g : β → δ} (h : Matches R x y) (hf : ∀ a b, R a b → S (f a) (g b)) :
    Matches S (f <$> x) (g <$> y) := by
  rw [map_eq_pure_bind, map_eq_pure_bind]
  exact h.bind fun a b hR _ => matches_pure (hf a b hR)

/-- What two resolutions that correspond do with given traces. -/
theorem outcome (h : Matches R x y) (trace trace' : Trace) :
    (∃ a b after after', x.outcome trace = (.ok a, after) ∧ y.outcome trace' = (.ok b, after') ∧
      R a b) ∨
    ∃ fault fault' after after', x.outcome trace = (.error fault, after) ∧
      y.outcome trace' = (.error fault', after') := by
  have hx := h.left trace
  have hy := h.right trace'
  have hrel := h.rel
  rw [← hx, ← hy] at hrel
  rcases hout : x.outcome trace with ⟨fault | a, after⟩
  · rcases hout' : y.outcome trace' with ⟨fault' | b, after'⟩
    · exact Or.inr ⟨fault, fault', after, after', rfl, rfl⟩
    · rw [hout, hout'] at hrel
      cases hrel
  · rcases hout' : y.outcome trace' with ⟨fault' | b, after'⟩
    · rw [hout, hout'] at hrel
      cases hrel
    · rw [hout, hout'] at hrel
      cases hrel with
      | some hR => exact Or.inl ⟨a, b, after, after', rfl, rfl, hR⟩

end Matches

end SchemaMock.Resolve
