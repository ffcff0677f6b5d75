/-
# Fewer addresses on the way

What is being resolved already can only make a resolution fail.  With fewer addresses on the way,
the same references are followed and the same schemas are made, so what succeeds with more of them
succeeds alike with fewer.

Alike can mean two things, with the events or without; the argument does not depend on which
(`resolver_freer`).  With the events it is `fewer_addresses_change_no_success`.
-/
import SchemaMock.Proofs.Cycles

namespace SchemaMock

/-- Environments that differ at most in the addresses that are being resolved: the second has none
that the first has not. -/
structure Environment.Freer (env env' : Environment) : Prop extends Environment.Alike env env' where
  store : env.store = env'.store
  chain : env'.chain ⊆ env.chain

theorem Environment.Freer.target_eq {env env' : Environment} (h : env.Freer env')
    (reference : String) : env.target reference = env'.target reference :=
  congrArg (Target.told reference) h.documentKey

theorem Environment.Freer.inside {env env' : Environment} (h : env.Freer env')
    (reference : String) : (env.inside reference).Freer (env'.inside reference) where
  documentKey := congrArg Target.documentKey (h.target_eq reference)
  settings := h.settings
  rules := h.rules
  store := h.store
  chain := by
    have hchain : (env'.inside reference).chain
        = env'.chain ++ [(env.target reference).address] := by
      rw [h.target_eq]
      rfl
    rw [hchain]
    exact List.append_subset.mpr ⟨List.subset_append_of_subset_left _ h.chain,
      List.subset_append_right _ _⟩

section Freer

variable {R : (α : Type) → Resolve α → Resolve α → Prop} (hR : CompatibleEvents R)
  (hthrow : ∀ (fault : MockFault) (y : Resolve Mock), R Mock (throw fault) y)

include hR

theorem targetSchema_freer {env env' : Environment} (h : env.Freer env') (reference : String)
    (target : Reference) (site : Site) :
    R _ (targetSchema env reference target site) (targetSchema env' reference target site) := by
  simp only [targetSchema, h.documentKey, h.store]
  split
  · exact hR.pure _
  · exact hR.bind (hR.record _) fun _ => hR.pure _

include hthrow

/-- What fails with more addresses on the way may do anything with fewer. -/
theorem followLayer_freer {ask ask' : Resolver} {env env' : Environment} (h : env.Freer env')
    {membership : Option Membership} {reference : String} {site : Site}
    (hmake : ∀ placed, R _ (makeLayer ask (env.inside reference) membership placed)
      (makeLayer ask' (env'.inside reference) membership placed)) :
    R _ (followLayer ask env membership reference site)
      (followLayer ask' env' membership reference site) := by
  by_cases hmem : (env.target reference).address ∈ env.chain
  · rw [followLayer_of_mem hmem]
    exact hthrow _ _
  · have hmem' : (env'.target reference).address ∉ env'.chain := by
      rw [← h.target_eq]
      exact fun hmem' => hmem (h.chain hmem')
    rw [followLayer_of_notMem hmem, followLayer_of_notMem hmem', h.documentKey]
    refine hR.bind (targetSchema_freer hR h _ _ _) fun placed => ?_
    refine hR.bind (hmake placed) fun mock => ?_
    exact hR.bind (hR.record _) fun _ => hR.pure _

/-- One layer more. -/
theorem resolveLayer_freer {ask ask' : Resolver}
    (hask : ∀ {env env' : Environment}, env.Freer env' → ∀ membership placed,
      R _ (ask env membership placed) (ask' env' membership placed))
    {env env' : Environment} (h : env.Freer env') (membership : Option Membership)
    (placed : PlacedSchema) :
    R _ (resolveLayer ask env membership placed) (resolveLayer ask' env' membership placed) := by
  have hmake : ∀ {env env' : Environment}, env.Freer env' → ∀ placed,
      R _ (makeLayer ask env membership placed) (makeLayer ask' env' membership placed) :=
    fun henv placed => makeLayer_compat hR.toCompatible henv.toAlike membership placed
      (fun _ => hask henv membership placed) fun _ _ _ _ => hask henv _ _
  obtain ⟨schema, site, definition⟩ := placed
  cases schema with
  | reference reference => exact followLayer_freer hR hthrow h (hmake (h.inside reference))
  | plain | array | object | combined => exact hR.map _ (hmake h _)

/-- **Fewer addresses on the way change no success.** -/
theorem resolver_freer {env env' : Environment} (h : env.Freer env')
    (membership : Option Membership) (placed : PlacedSchema) :
    R _ (resolver env membership placed) (resolver env' membership placed) := by
  have hdeepen : ∀ (layers : Nat) {env env' : Environment}, env.Freer env' →
      ∀ membership placed,
        R _ (deepen unanswered layers env membership placed)
          (deepen unanswered layers env' membership placed) := by
    intro layers
    induction layers with
    | zero => exact fun _ _ _ => hthrow _ _
    | succ layers ih => exact fun henv => resolveLayer_freer hR hthrow ih henv
  rw [resolver_eq_deepen unanswered, resolver_eq_deepen unanswered env', ← h.store]
  exact hdeepen _ h membership placed

end Freer

/-- What layers without answers below them come to, the resolution comes to as well. -/
theorem deepen_within_resolver (layers : Nat) {env env' : Environment} (h : env.Freer env')
    (membership : Option Membership) (placed : PlacedSchema) :
    (deepen unanswered layers env membership placed).Within
      (resolver env' membership placed) := by
  induction layers generalizing env env' membership placed with
  | zero => exact Resolve.Within.of_throw _ _
  | succ layers ih =>
    rw [resolver_eq_resolveLayer]
    exact resolveLayer_freer compatible_within Resolve.Within.of_throw ih h membership placed

/-- What succeeds with more addresses on the way leaves the same trace with fewer. -/
theorem resolver_within {env env' : Environment} (h : env.Freer env')
    (membership : Option Membership) (placed : PlacedSchema) :
    (resolver env membership placed).Within (resolver env' membership placed) :=
  resolver_freer compatible_within Resolve.Within.of_throw h membership placed

/-- What succeeds with more addresses on the way succeeds alike with fewer, from whatever other
events it begins with. -/
theorem resolver_withinEvents {env env' : Environment} (h : env.Freer env')
    (membership : Option Membership) (placed : PlacedSchema) :
    (resolver env membership placed).WithinEvents (resolver env' membership placed) :=
  resolver_freer compatible_withinEvents Resolve.WithinEvents.of_throw h membership placed

/-- **What is being resolved already changes no success.**  A schema that is resolved with some
addresses on the way is resolved with any of them alone, to the same mock, with the same imports
asked for and the same events in the same order. -/
theorem fewer_addresses_change_no_success (env : Environment) (fewer more : List String)
    (membership : Option Membership) (placed : PlacedSchema) (trace after : Trace) (mock : Mock)
    (hsubset : fewer ⊆ more)
    (hok : (placed.resolve mockResolver { env with chain := more } membership).outcome trace
      = (.ok mock, after)) :
    (placed.resolve mockResolver { env with chain := fewer } membership).outcome trace
      = (.ok mock, after) := by
  have hfreer : Environment.Freer { env with chain := more } { env with chain := fewer } :=
    { documentKey := rfl, settings := rfl, rules := rfl, store := rfl, chain := hsubset }
  exact resolver_within hfreer membership placed hok

/-- A node of a list that is being resolved leaves its labels as they are. -/
theorem fewer_addresses_change_no_success_list :
    ∃ mock after,
      (labelTwice.resolve mockResolver
        { listEnvironment with chain := ["api.json#/components/schemas/Node"] } none).outcome .empty
          = (.ok mock, after) ∧
      (labelTwice.resolve mockResolver { listEnvironment with chain := [] } none).outcome .empty
        = (.ok mock, after) := by
  have hok : (labelTwice.resolve mockResolver
      { listEnvironment with chain := ["api.json#/components/schemas/Node"] } none).outcome .empty
        = (.ok _, _) := rfl
  refine ⟨_, _, hok, ?_⟩
  exact fewer_addresses_change_no_success listEnvironment [] _ none labelTwice .empty _ _
    (List.nil_subset _) hok

end SchemaMock
