/-
# What a rule overrides

The first rule that selects a site, of all that hold, settles what is mocked there.  An inline
schema is not looked into.  A reference is followed first: whether `null` is a value too is said
where it ends, and a reference that leads into what is being resolved has no end.  So a rule does
not break a recursion, it only keeps one from being looked for in what stands at the end.
-/
import SchemaMock.Proofs.Cycles
import SchemaMock.Proofs.Hops

namespace SchemaMock

/-! ## 1. The rule that counts -/

/-- All rules that hold, in the order in which they are tried. -/
def ActiveRules.inOrder (rules : ActiveRules) : RuleTable :=
  rules.operation.getD [] ++ rules.tag ++ rules.global

/-- **The tables are tried as if they were one.** -/
theorem ActiveRules.mock?_eq (rules : ActiveRules) (placed : PlacedSchema) :
    rules.mock? placed
      = (rules.inOrder.first? placed.site).map fun rule => rule.mock placed := by
  simp only [ActiveRules.mock?, inOrder, RuleTable.mock?, RuleTable.first?, List.find?_append,
    Option.map_or]
  cases rules.operation with
  | none => rfl
  | some table => rfl

/-- A mock that a rule made at a site for a schema: its text, or `null` where the schema says that
this is a value too. -/
structure OverriddenBy (rule : Rule) (schema : Schema) (site : Site) (mock : Mock) : Prop where
  overridden : mock.overridden = true
  expression : mock.expression =
    if schema.nullable then .oneOf [.primitive rule.text, .null] else .primitive rule.text
  imports : mock.imports = []
  name : mock.name = site.name

theorem overriddenBy_mock (rule : Rule) (placed : PlacedSchema) :
    OverriddenBy rule placed.schema placed.site (placed.schema.typed (rule.mock placed)) := by
  obtain ⟨schema, site, definition⟩ := placed
  have hexpression : (rule.mock ⟨schema, site, definition⟩).expression =
      if schema.nullable then .oneOf [.primitive rule.text, .null] else .primitive rule.text := by
    rw [Rule.mock, Expression.orNull]
  cases schema with
  | reference | plain | array | object | combined => exact ⟨rfl, hexpression, rfl, rfl⟩

/-- A rule settles an inline schema, and leaves an event behind. -/
theorem outcome_makeLayer_of_first {ask : Resolver} {env : Environment}
    {membership : Option Membership} {placed : PlacedSchema} {rule : Rule}
    (hrule : env.rules.inOrder.first? placed.site = some rule)
    (hinline : placed.schema.reference? = none) (trace : Trace) :
    (makeLayer ask env membership placed).outcome trace
      = (.ok (rule.mock placed),
        { trace with events := trace.events ++ [.overridden placed.site (rule.mock placed)] }) := by
  have hmock : env.rules.mock? placed = some (rule.mock placed) := by
    rw [ActiveRules.mock?_eq, hrule]
    rfl
  obtain ⟨schema, site, definition⟩ := placed
  cases schema with
  | reference target => exact absurd hinline (Option.some_ne_none target)
  | plain | array | object | combined =>
    simp only [makeLayer, settledOr, hmock, Resolve.outcome_bind, Resolve.outcome_record,
      Resolve.outcome_pure]

/-! ## 2. Where it counts -/

/-- An inline schema whose site a rule selects. -/
theorem overridden_of_inline {env : Environment} {membership : Option Membership}
    {placed : PlacedSchema} {rule : Rule}
    (hrule : env.rules.inOrder.first? placed.site = some rule)
    (hinline : placed.schema.reference? = none) (trace : Trace) :
    ∃ mock after, (resolver env membership placed).outcome trace = (.ok mock, after) ∧
      OverriddenBy rule placed.schema placed.site mock ∧ after.imports = trace.imports := by
  refine ⟨placed.schema.typed (rule.mock placed),
    { trace with events := trace.events ++ [.overridden placed.site (rule.mock placed)] }, ?_,
    overriddenBy_mock rule placed, rfl⟩
  rw [resolver_of_inline env membership hinline, map_eq_pure_bind]
  exact Resolve.outcome_bind_of_ok (outcome_makeLayer_of_first hrule hinline trace)

/-- A reference whose site a rule selects, and which ends. -/
theorem overridden_of_follows {env : Environment} {membership : Option Membership}
    {reference : String} {site : Site} {definition : Option String} {rule : Rule}
    (hname : site.name ≠ "") (hrule : env.rules.inOrder.first? site = some rule)
    {hops : List Target} {last : Target}
    (hfollows : Follows env.store env.documentKey reference hops last)
    (hfresh : Fresh env.chain (hops ++ [last])) (trace : Trace) :
    ∃ mock after, (resolver env membership ⟨.reference reference, site, definition⟩).outcome trace
        = (.ok mock, after) ∧
      OverriddenBy rule (env.store.schemaAt last) site mock ∧ after.imports = trace.imports := by
  have hend : (env.along (hops ++ [last])).rules.inOrder.first? site = some rule := by
    rw [Environment.along_rules]
    exact hrule
  -- the name of the definition is not looked at by a rule
  have hmade : ∀ name start, ∃ left,
      (makeLayer resolver (env.along (hops ++ [last])) membership
        ⟨env.store.schemaAt last, site, some name⟩).outcome start
          = (.ok (rule.mock ⟨env.store.schemaAt last, site, definition⟩), left) ∧
      left.imports = start.imports :=
    fun name start =>
      ⟨_, outcome_makeLayer_of_first hend hfollows.reference?_eq_none start, rfl⟩
  obtain ⟨after, hok, himports⟩ := hfollows.ok rfl rfl hfresh hname hmade trace
  exact ⟨_, after, hok, overriddenBy_mock rule ⟨_, site, definition⟩, himports⟩

/-- **A rule wins wherever there is an end to win at.**  At a site with a name that a rule selects,
an inline schema is always overridden; a reference is, with what its end says about `null`, if it
has an end that can be entered, and otherwise it is a cyclic fault. -/
theorem override_wins_where_reference_ends (env : Environment) (membership : Option Membership)
    (placed : PlacedSchema) (rule : Rule) (trace : Trace) (hname : placed.site.name ≠ "")
    (hrule : env.rules.inOrder.first? placed.site = some rule) :
    (placed.schema.reference? = none →
      ∃ mock after,
        (placed.resolve mockResolver env membership).outcome trace = (.ok mock, after) ∧
        OverriddenBy rule placed.schema placed.site mock ∧ after.imports = trace.imports) ∧
    ∀ reference, placed.schema = .reference reference →
      (∀ hops last, Follows env.store env.documentKey reference hops last →
        Fresh env.chain (hops ++ [last]) →
        ∃ mock after,
          (placed.resolve mockResolver env membership).outcome trace = (.ok mock, after) ∧
          OverriddenBy rule (env.store.schemaAt last) placed.site mock ∧
          after.imports = trace.imports) ∧
      ((∀ hops last, Follows env.store env.documentKey reference hops last →
        ¬ Fresh env.chain (hops ++ [last])) →
        ∃ key chain after, (placed.resolve mockResolver env membership).outcome trace
          = (.error (.cyclic key chain), after)) := by
  obtain ⟨schema, site, definition⟩ := placed
  refine ⟨fun hinline => overridden_of_inline hrule hinline trace, ?_⟩
  rintro reference rfl
  refine ⟨fun hops last hfollows hfresh =>
    overridden_of_follows hname hrule hfollows hfresh trace, fun hnone => ?_⟩
  rcases h : (PlacedSchema.resolve mockResolver env membership
    ⟨.reference reference, site, definition⟩).outcome trace with ⟨fault | mock, after⟩
  · obtain ⟨entered, last, -, rfl⟩ := resolver_failsBack env membership _ h
    exact ⟨_, _, after, rfl⟩
  · obtain ⟨hops, last, hfollows, hfresh⟩ := follows_of_ok h
    exact absurd hfresh (hnone hops last hfollows)

/-- The list document at hand, with a rule for whatever is called `next`. -/
def overriddenListEnvironment : Environment :=
  { listEnvironment with rules := ⟨"", [], none, [], [⟨"next", none, "null"⟩]⟩ }

theorem override_wins_where_reference_ends_label :
    ∃ mock after,
      ((PlacedSchema.reference "#/components/schemas/Label" ⟨"next", some "#.next"⟩).resolve
        mockResolver overriddenListEnvironment none).outcome .empty = (.ok mock, after) ∧
      OverriddenBy ⟨"next", none, "null"⟩
        (overriddenListEnvironment.store.schemaAt (listTarget "Label")) ⟨"next", some "#.next"⟩
        mock ∧
      after.imports = [] := by
  have hfollows : Follows overriddenListEnvironment.store "api.json" "#/components/schemas/Label" []
      (listTarget "Label") := .stops rfl
  have hfresh : Fresh [] [listTarget "Label"] :=
    ⟨fun _ _ => List.not_mem_nil, List.nodup_singleton _⟩
  exact ((override_wins_where_reference_ends overriddenListEnvironment none
    (.reference "#/components/schemas/Label" ⟨"next", some "#.next"⟩) ⟨"next", none, "null"⟩ .empty
    (by decide) rfl).2 _ rfl).1 [] (listTarget "Label") hfollows hfresh

/-- A rule does not break a recursion: the next node of a node is a cyclic fault, although a rule
selects it. -/
theorem override_does_not_break_recursion :
    ¬ ∀ (env : Environment) (membership : Option Membership) (placed : PlacedSchema) (rule : Rule)
      (trace : Trace), placed.site.name ≠ "" →
      env.rules.inOrder.first? placed.site = some rule →
      ∃ mock after,
        (placed.resolve mockResolver env membership).outcome trace = (.ok mock, after) ∧
        mock.overridden = true := by
  intro h
  obtain ⟨mock, after, hok, -⟩ := h
    { overriddenListEnvironment with chain := ["api.json#/components/schemas/Node"] } none
    (.reference "#/components/schemas/Node" ⟨"next", some "#.next"⟩) ⟨"next", none, "null"⟩ .empty
    (by decide) rfl
  have hfault : ((PlacedSchema.reference "#/components/schemas/Node"
      ⟨"next", some "#.next"⟩).resolve mockResolver
      { overriddenListEnvironment with chain := ["api.json#/components/schemas/Node"] }
      none).outcome .empty
      = (.error (.cyclic "api.json#/components/schemas/Node"
        ["api.json#/components/schemas/Node", "api.json#/components/schemas/Node"]), .empty) := rfl
  rw [hfault] at hok
  cases hok

end SchemaMock
