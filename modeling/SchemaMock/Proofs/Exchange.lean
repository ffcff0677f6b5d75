/-
# Exchanging the answers that a layer is given

Two layers that are given related answers are related (`makeLayer_compat`), for every relation
between resolutions that chains respect.  Equality is one such relation, and success carried over is
another.  The environments may differ in what can be reached and in what is being followed: a layer
hands both on and looks at neither.
-/
import SchemaMock.Proofs.Layer

namespace SchemaMock

/-! ## 1. Relations between resolutions -/

/-- A relation between resolutions that every step inside a layer has to itself, and that chains
respect. -/
structure Compatible (R : (α : Type) → Resolve α → Resolve α → Prop) : Prop where
  pure : ∀ {α : Type} (a : α), R α (pure a) (pure a)
  overridden : ∀ site mock, R Unit (Resolve.record (.overridden site mock))
    (Resolve.record (.overridden site mock))
  request : ∀ new, R Unit (Resolve.request new) (Resolve.request new)
  bind : ∀ {α β : Type} {x y : Resolve α} {f g : α → Resolve β},
    R α x y → (∀ a, R β (f a) (g a)) → R β (x >>= f) (y >>= g)

/-- A relation that every step but a failing one has to itself: what is seen between two layers may
be anything. -/
structure CompatibleEvents (R : (α : Type) → Resolve α → Resolve α → Prop) : Prop
    extends Compatible R where
  record : ∀ event, R Unit (Resolve.record event) (Resolve.record event)
  overridden := fun site mock => record (.overridden site mock)

theorem compatible_eq : Compatible fun _ x y => x = y where
  pure := fun _ => rfl
  overridden := fun _ _ => rfl
  request := fun _ => rfl
  bind := fun hx hf => by rw [hx, funext hf]

theorem compatible_within : CompatibleEvents fun _ x y => x.Within y where
  pure := fun _ => .refl _
  record := fun _ => .refl _
  request := fun _ => .refl _
  bind := Resolve.Within.bind

theorem compatible_withinEvents : CompatibleEvents fun _ x y => x.WithinEvents y where
  pure := .of_pure
  record := .of_record
  request := .of_request
  bind := Resolve.WithinEvents.bind

/-- What a resolution may fail with, as a relation that looks at one side only. -/
theorem compatible_failsOnly (P : MockFault → Prop) :
    Compatible fun _ x _ => x.FailsOnly P where
  pure := .of_pure
  overridden := fun _ _ => .of_record _
  request := .of_request
  bind := Resolve.FailsOnly.bind

theorem Compatible.map {R : (α : Type) → Resolve α → Resolve α → Prop} (hR : Compatible R)
    {α β : Type} {x y : Resolve α} (f : α → β) (h : R α x y) : R β (f <$> x) (f <$> y) := by
  rw [map_eq_pure_bind, map_eq_pure_bind]
  exact hR.bind h fun a => hR.pure _

/-- Environments that differ at most in what can be reached and in what is being followed. -/
structure Environment.Alike (env env' : Environment) : Prop where
  documentKey : env.documentKey = env'.documentKey
  settings : env.settings = env'.settings
  rules : env.rules = env'.rules

theorem Environment.Alike.refl (env : Environment) : Environment.Alike env env := ⟨rfl, rfl, rfl⟩

/-! ## 2. Layers -/

section Exchange

variable {R : (α : Type) → Resolve α → Resolve α → Prop} (hR : Compatible R)
  {ask ask' : Resolver} {env env' : Environment}

/-- The answers about a part are related, whatever it is a part of and wherever it stands. -/
def RelatedAnswers (R : (α : Type) → Resolve α → Resolve α → Prop) (ask ask' : Resolver)
    (env env' : Environment) (part : Schema) : Prop :=
  ∀ (membership : Option Membership) (site : Site),
    R Mock (ask env membership ⟨part, site, none⟩) (ask' env' membership ⟨part, site, none⟩)

include hR

theorem askProperties_compat (emitted : List String) (site : Site) :
    ∀ {properties : List (String × Schema)},
      (∀ e ∈ properties, R Mock (ask env none ⟨e.2, site.property e.1, none⟩)
        (ask' env' none ⟨e.2, site.property e.1, none⟩)) →
      R _ (askProperties ask env emitted site properties)
        (askProperties ask' env' emitted site properties)
  | [], _ => hR.pure _
  | (key, schema) :: rest, h => by
    have ih := askProperties_compat emitted site fun e he => h e (List.mem_cons_of_mem _ he)
    simp only [askProperties]
    split
    · exact ih
    · exact hR.bind (h (key, schema) List.mem_cons_self) fun mock =>
        hR.bind ih fun mocks => hR.pure _

theorem askMerged_compat (site : Site) : ∀ {members : List Schema} (merge : Merge),
    (∀ member ∈ members, ∀ membership : Membership,
      R Mock (ask env (some membership) ⟨member, site, none⟩)
        (ask' env' (some membership) ⟨member, site, none⟩)) →
    R _ (askMerged ask env site members merge) (askMerged ask' env' site members merge)
  | [], _, _ => hR.pure _
  | member :: rest, merge, h => by
    simp only [askMerged]
    exact hR.bind (h member List.mem_cons_self _) fun mock =>
      askMerged_compat site _ fun member hmember => h member (List.mem_cons_of_mem _ hmember)

theorem askVariants_compat (membership : Membership) (site : Site) : ∀ {members : List Schema},
    (∀ member ∈ members, ∀ membership : Membership,
      R Mock (ask env (some membership) ⟨member, site, none⟩)
        (ask' env' (some membership) ⟨member, site, none⟩)) →
    R _ (askVariants ask env membership site members)
      (askVariants ask' env' membership site members)
  | [], _ => hR.pure _
  | member :: rest, h => by
    have ih := askVariants_compat membership site fun member hmember =>
      h member (List.mem_cons_of_mem _ hmember)
    simp only [askVariants]
    exact hR.bind (h member List.mem_cons_self _) fun mock =>
      hR.bind ih fun mocks => hR.pure _

/-- Only the members of a combination are asked for once its properties are there. -/
theorem combineWith_compat (henv : env.Alike env') (membership : Option Membership)
    (placed : PlacedSchema) (combinator : Combinator) {members : List Schema}
    (mocks : List (String × Mock))
    (h : ∀ member ∈ members, ∀ membership : Membership,
      R Mock (ask env (some membership) ⟨member, placed.site, none⟩)
        (ask' env' (some membership) ⟨member, placed.site, none⟩)) :
    R _ (combineWith ask env membership placed combinator members mocks)
      (combineWith ask' env' membership placed combinator members mocks) := by
  simp only [combineWith, henv.settings]
  cases combinator with
  | allOf => exact hR.bind (askMerged_compat hR _ _ h) fun merge => hR.pure _
  | oneOf | anyOf => exact hR.bind (askVariants_compat hR _ _ h) fun variants => hR.pure _

theorem plainMock_compat (henv : env.Alike env') (placed : PlacedSchema) :
    R _ (plainMock env placed) (plainMock env' placed) := by
  simp only [plainMock, enumerationMock, henv.settings, henv.documentKey]
  split
  · split
    · exact hR.bind (hR.request _) fun _ => hR.pure _
    · exact hR.pure _
  · exact hR.pure _

theorem settledOr_compat (henv : env.Alike env') (placed : PlacedSchema) {x y : Resolve Mock}
    (h : R _ x y) : R _ (settledOr env placed x) (settledOr env' placed y) := by
  simp only [settledOr, henv.rules, henv.settings]
  split
  · exact hR.bind (hR.overridden _ _) fun _ => hR.pure _
  · split
    · exact hR.pure _
    · exact h

/-- **Related answers make related layers.** -/
theorem makeLayer_compat (henv : env.Alike env') (membership : Option Membership)
    (placed : PlacedSchema)
    (hreference : placed.schema.reference?.isSome →
      R _ (ask env membership placed) (ask' env' membership placed))
    (hparts : ∀ part ∈ placed.schema.parts, RelatedAnswers R ask ask' env env' part) :
    R _ (makeLayer ask env membership placed) (makeLayer ask' env' membership placed) := by
  obtain ⟨schema, site, definition⟩ := placed
  cases schema with
  | reference target => exact hreference rfl
  | plain keywords =>
    exact settledOr_compat hR henv _ (plainMock_compat hR henv _)
  | array keywords items =>
    simp only [makeLayer, askParts, henv.settings]
    exact settledOr_compat hR henv _
      (hR.bind (hparts items List.mem_cons_self _ _) fun item => hR.pure _)
  | object keywords properties =>
    simp only [makeLayer, askParts, henv.settings]
    refine settledOr_compat hR henv _
      (hR.bind (askProperties_compat hR _ _ fun e he => ?_) fun mocks => hR.pure _)
    exact hparts e.2 (List.mem_map_of_mem he) _ _
  | combined keywords combinator properties members =>
    simp only [makeLayer, askParts, askCombined]
    refine settledOr_compat hR henv _
      (hR.bind (askProperties_compat hR _ _ fun e he => ?_) fun mocks =>
        combineWith_compat hR henv _ _ _ mocks fun member hmember membership' => ?_)
    · exact hparts e.2 (List.mem_append_left _ (List.mem_map_of_mem he)) _ _
    · exact hparts member (List.mem_append_right _ hmember) _ _

end Exchange

end SchemaMock
