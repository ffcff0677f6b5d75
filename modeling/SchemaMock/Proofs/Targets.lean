/-
# Where references lead

A reference that stands in a document tells a target: a document, and a way inside it.  Following
the reference enters the target, under its address, and then makes what stands there; what is not
there counts as a schema that says nothing.

What following comes to is said once, for failure (`followLayer_error_iff`) and for success
(`followLayer_ok_iff`): an address that is being resolved already is the only failure of its own.
-/
import SchemaMock.Proofs.Layer

namespace SchemaMock

/-! ## 1. Targets -/

/-- What a reference leads to: a way inside a document. -/
structure Target where
  documentKey : String
  segments : List String
  deriving DecidableEq

namespace Target

/-- One text for the document and the way inside it. -/
def address (target : Target) : String :=
  target.documentKey ++ Pointer.build "#" target.segments

/-- The target of a reference that stands in the document `current`. -/
def told (reference current : String) : Target :=
  ⟨(Reference.read reference current).document current, (Reference.read reference current).segments⟩

end Target

namespace DocumentStore

/-- The node at a target; where there is none, an object without members. -/
def node (store : DocumentStore) (target : Target) : Json :=
  (store.at? target.documentKey target.segments).getD (.obj [])

/-- The schema at a target. -/
def schemaAt (store : DocumentStore) (target : Target) : Schema := .ofJson (store.node target)

/-- A target that is not there holds the schema that says nothing. -/
theorem schemaAt_of_none {store : DocumentStore} {target : Target}
    (h : store.at? target.documentKey target.segments = none) : store.schemaAt target = .empty := by
  rw [schemaAt, node, h]
  simp [Schema.ofJson, Schema.kind, Keywords.reference?, Keywords.combinator?, Keywords.members?,
    Keywords.enumeration?, Keywords.type?, Keywords.format?, Entries.get?, Schema.propertiesIn,
    Schema.empty]

theorem schemaAt_of_some {store : DocumentStore} {target : Target} {value : Json}
    (h : store.at? target.documentKey target.segments = some value) :
    store.schemaAt target = .ofJson value := by
  rw [schemaAt, node, h]
  rfl

end DocumentStore

/-! ## 2. Entering a target -/

namespace Environment

/-- The target of a reference that stands in the document at hand. -/
def target (env : Environment) (reference : String) : Target := .told reference env.documentKey

/-- The environment inside the target of a reference. -/
def inside (env : Environment) (reference : String) : Environment :=
  { env with
    documentKey := (env.target reference).documentKey
    chain := env.chain ++ [(env.target reference).address] }

/-- The trace in which the target of a reference is made: a target that is not there has been
reported. -/
def reported (env : Environment) (reference : String) (trace : Trace) : Trace :=
  match env.store.at? (env.target reference).documentKey (env.target reference).segments with
  | some _ => trace
  | none =>
    { trace with
      events := trace.events ++ [.unresolved reference (env.target reference).documentKey] }

@[simp] theorem store_inside (env : Environment) (reference : String) :
    (env.inside reference).store = env.store := rfl

@[simp] theorem imports_reported (env : Environment) (reference : String) (trace : Trace) :
    (env.reported reference trace).imports = trace.imports := by
  unfold reported
  split <;> rfl

/-- The schema that a reference leads to, at the site where the reference stands. -/
def followed (env : Environment) (reference : String) (site : Site) : PlacedSchema :=
  let name := (Reference.read reference env.documentKey).name
  ⟨env.store.schemaAt (env.target reference), site.named name, some name⟩

end Environment

theorem outcome_targetSchema (env : Environment) (reference : String) (site : Site)
    (trace : Trace) :
    (targetSchema env reference (Reference.read reference env.documentKey)
        (site.named (Reference.read reference env.documentKey).name)).outcome trace
      = (.ok (env.followed reference site), env.reported reference trace) := by
  cases hat : env.store.at? (env.target reference).documentKey (env.target reference).segments with
  | some value =>
    simp only [targetSchema, Environment.followed, Environment.reported, hat,
      DocumentStore.schemaAt_of_some hat]
    have hat' : env.store.at?
        ((Reference.read reference env.documentKey).document env.documentKey)
        (Reference.read reference env.documentKey).segments = some value := hat
    rw [hat']
    rfl
  | none =>
    simp only [targetSchema, Environment.followed, Environment.reported, hat,
      DocumentStore.schemaAt_of_none hat]
    have hat' : env.store.at?
        ((Reference.read reference env.documentKey).document env.documentKey)
        (Reference.read reference env.documentKey).segments = none := hat
    rw [hat']
    rfl

section Following

variable {ask ask' : Resolver} {env env' : Environment} {membership : Option Membership}
  {reference : String} {site : Site}

/-- What is done for a reference, whatever makes what stands at its target. -/
def followBy (make : Resolver) : Follow := followWithin (fun _ => make) 1

/-- An address that is being resolved is not entered. -/
theorem followBy_of_mem {make : Resolver} (h : (env.target reference).address ∈ env.chain) :
    followBy make env membership reference site
      = throw (env.cycle (env.target reference).address) := by
  have h' : (Reference.read reference env.documentKey).address env.documentKey ∈ env.chain := h
  simp only [followBy, followWithin, Environment.enter, if_pos h', Resolve.ofExcept_error]
  rfl

/-- A fresh address is entered, and what stands there is made and reported. -/
theorem followBy_of_notMem {make : Resolver} (h : (env.target reference).address ∉ env.chain) :
    followBy make env membership reference site = (do
      let placed ← targetSchema env reference (Reference.read reference env.documentKey)
        (site.named (Reference.read reference env.documentKey).name)
      let mock ← make (env.inside reference) membership placed
      Resolve.record (.reference (Reference.read reference env.documentKey)
        (placed.schema.typed mock))
      pure (placed.schema.typed mock)) := by
  have h' : (Reference.read reference env.documentKey).address env.documentKey ∉ env.chain := h
  simp only [followBy, followWithin, Environment.enter, if_neg h', Resolve.ofExcept_ok, pure_bind]
  rfl

/-- Following looks at what stands at the target only, and only if its address is fresh. -/
theorem followBy_congr {make make' : Resolver}
    (h : (env.target reference).address ∉ env.chain →
      make (env.inside reference) membership (env.followed reference site)
        = make' (env.inside reference) membership (env.followed reference site)) :
    followBy make env membership reference site = followBy make' env membership reference site := by
  by_cases hmem : (env.target reference).address ∈ env.chain
  · rw [followBy_of_mem hmem, followBy_of_mem hmem]
  · refine Resolve.ext_outcome fun trace => ?_
    rw [followBy_of_notMem hmem, followBy_of_notMem hmem,
      Resolve.outcome_bind_of_ok (outcome_targetSchema env reference site trace),
      Resolve.outcome_bind_of_ok (outcome_targetSchema env reference site trace), h hmem]

theorem followLayer_of_mem (h : (env.target reference).address ∈ env.chain) :
    followLayer ask env membership reference site
      = throw (env.cycle (env.target reference).address) := followBy_of_mem h

theorem followLayer_of_notMem (h : (env.target reference).address ∉ env.chain) :
    followLayer ask env membership reference site = (do
      let placed ← targetSchema env reference (Reference.read reference env.documentKey)
        (site.named (Reference.read reference env.documentKey).name)
      let mock ← makeLayer ask (env.inside reference) membership placed
      Resolve.record (.reference (Reference.read reference env.documentKey)
        (placed.schema.typed mock))
      pure (placed.schema.typed mock)) := followBy_of_notMem h

/-- Following fails where the address is being resolved, and where what stands there fails. -/
theorem followLayer_error_iff {trace after : Trace} {fault : MockFault} :
    (followLayer ask env membership reference site).outcome trace = (.error fault, after) ↔
      ((env.target reference).address ∈ env.chain ∧
          fault = env.cycle (env.target reference).address ∧ after = trace) ∨
        ((env.target reference).address ∉ env.chain ∧
          (makeLayer ask (env.inside reference) membership (env.followed reference site)).outcome
            (env.reported reference trace) = (.error fault, after)) := by
  by_cases h : (env.target reference).address ∈ env.chain
  · rw [followLayer_of_mem h, Resolve.outcome_throw]
    simp [h, eq_comm]
  · rw [followLayer_of_notMem h,
      Resolve.outcome_bind_of_ok (outcome_targetSchema env reference site trace),
      Resolve.bind_error_iff]
    simp only [Resolve.outcome_bind, Resolve.outcome_record, Resolve.outcome_pure, Prod.mk.injEq,
      reduceCtorEq, false_and, and_false, exists_false, or_false, h, not_false_eq_true, true_and,
      false_or]

/-- Following succeeds where the address is fresh and what stands there succeeds. -/
theorem followLayer_ok_iff {trace after : Trace} {mock : Mock} :
    (followLayer ask env membership reference site).outcome trace = (.ok mock, after) ↔
      (env.target reference).address ∉ env.chain ∧ ∃ made left,
        (makeLayer ask (env.inside reference) membership (env.followed reference site)).outcome
          (env.reported reference trace) = (.ok made, left) ∧
        (env.followed reference site).schema.typed made = mock ∧
        after = { left with
          events :=
            left.events ++ [.reference (Reference.read reference env.documentKey) mock] } := by
  by_cases h : (env.target reference).address ∈ env.chain
  · rw [followLayer_of_mem h, Resolve.outcome_throw]
    simp [h]
  · rw [followLayer_of_notMem h,
      Resolve.outcome_bind_of_ok (outcome_targetSchema env reference site trace),
      Resolve.bind_ok_iff]
    simp only [Resolve.outcome_bind, Resolve.outcome_record, Resolve.outcome_pure, Prod.mk.injEq,
      Except.ok.injEq, h, not_false_eq_true, true_and]
    constructor
    · rintro ⟨made, left, hmade, rfl, rfl⟩
      exact ⟨made, left, hmade, rfl, rfl⟩
    · rintro ⟨made, left, hmade, rfl, rfl⟩
      exact ⟨made, left, hmade, rfl, rfl⟩

/-- Following looks at its answers through the layer inside the target only. -/
theorem followLayer_congr
    (h : (env.target reference).address ∉ env.chain →
      makeLayer ask (env.inside reference) membership (env.followed reference site)
        = makeLayer ask' (env.inside reference) membership (env.followed reference site)) :
    followLayer ask env membership reference site
      = followLayer ask' env membership reference site := followBy_congr h

end Following

end SchemaMock
