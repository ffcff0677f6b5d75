/-
# What a resolution imports

Two lists of imports are kept while a schema is resolved.  The trace has whatever has been asked
for, from the beginning on and by whatever part; a mock has what its own expression needs.  The
first is handed from step to step, the second is put together from the parts.

They stay in step.  What a resolution adds to a trace does not depend on the trace
(`Resolve.Adds`), and what it adds is what its mock needs.  So `x.Adds base known` follows a chain
of steps with both lists at once: `base` is what the mock in the making needs before `x`, and
`known a` what it needs once `x` has come to `a`.
-/
import SchemaMock.Proofs.Expressions
import SchemaMock.Proofs.Overrides
import SchemaMock.Responses

namespace SchemaMock

/-! ## 1. Lists of imports -/

theorem withImports_append (base a b : List Import) :
    withImports base (a ++ b) = withImports (withImports base a) b :=
  List.foldl_append

theorem mem_withImport {imports : List Import} {new i : Import} :
    i ∈ withImport imports new ↔ i ∈ imports ∨ i = new := by
  unfold withImport
  split
  · next h =>
    constructor
    · exact Or.inl
    · rintro (hi | rfl)
      · exact hi
      · exact h
  · simp

theorem mem_withImports {base news : List Import} {i : Import} :
    i ∈ withImports base news ↔ i ∈ base ∨ i ∈ news := by
  induction news generalizing base with
  | nil => simp [withImports]
  | cons new rest ih =>
    have h : withImports base (new :: rest) = withImports (withImport base new) rest := rfl
    rw [h, ih, mem_withImport, List.mem_cons, or_assoc]

theorem prefix_withImport (imports : List Import) (new : Import) :
    imports <+: withImport imports new := by
  unfold withImport
  split
  · exact List.prefix_rfl
  · exact List.prefix_append _ _

theorem prefix_withImports (base news : List Import) : base <+: withImports base news := by
  induction news generalizing base with
  | nil => exact List.prefix_rfl
  | cons new rest ih => exact (prefix_withImport base new).trans (ih _)

theorem nodup_withImport {imports : List Import} (h : imports.Nodup) (new : Import) :
    (withImport imports new).Nodup := by
  unfold withImport
  split
  · exact h
  · next hnew => simpa using h.concat hnew

theorem nodup_withImports {base : List Import} (h : base.Nodup) (news : List Import) :
    (withImports base news).Nodup := by
  induction news generalizing base with
  | nil => exact h
  | cons new rest ih => exact ih (nodup_withImport h new)

/-- An import that is there already is not added again, and any other one goes to the end. -/
theorem withImports_withImport (base imports : List Import) (new : Import) :
    withImports base (withImport imports new) = withImport (withImports base imports) new := by
  by_cases h : new ∈ imports
  · have hbase : new ∈ withImports base imports := mem_withImports.mpr (Or.inr h)
    rw [withImport, if_pos h, withImport, if_pos hbase]
  · rw [withImport, if_neg h, withImports_append]
    rfl

/-- Imports that were put together on their own can be put behind others, all at once. -/
theorem withImports_withImports (base imports news : List Import) :
    withImports base (withImports imports news) = withImports (withImports base imports) news := by
  induction news generalizing imports with
  | nil => rfl
  | cons new rest ih =>
    calc withImports base (withImports imports (new :: rest))
        = withImports base (withImports (withImport imports new) rest) := rfl
      _ = withImports (withImports base (withImport imports new)) rest := ih _
      _ = withImports (withImport (withImports base imports) new) rest := by
          rw [withImports_withImport]

/-- Of a list without repetition, those imports are added that are not there yet. -/
theorem withImports_eq_append_filter {news : List Import} (h : news.Nodup) (base : List Import) :
    withImports base news = base ++ news.filter fun i => i ∉ base := by
  induction news generalizing base with
  | nil => simp [withImports]
  | cons new rest ih =>
    obtain ⟨hnew, hrest⟩ := List.nodup_cons.mp h
    have hstep : withImports base (new :: rest) = withImports (withImport base new) rest := rfl
    by_cases hmem : new ∈ base
    · rw [hstep, withImport, if_pos hmem, ih hrest]
      simp [hmem]
    · -- what comes behind `new` differs from it, so it is missing from `base` alike
      have hfilter : rest.filter (fun i => i ∉ base ++ [new]) = rest.filter fun i => i ∉ base := by
        refine List.filter_congr fun i hi => ?_
        have hne : i ≠ new := fun heq => hnew (heq ▸ hi)
        simp [hne]
      rw [hstep, withImport, if_neg hmem, ih hrest, hfilter]
      simp [hmem]

/-- The imports of several mocks, behind those of `base`. -/
def importsBehind (base : List Import) (mocks : List Mock) : List Import :=
  mocks.foldl (fun imports mock => withImports imports mock.imports) base

theorem mem_importsBehind {base : List Import} {mocks : List Mock} {i : Import} :
    i ∈ importsBehind base mocks ↔ i ∈ base ∨ ∃ mock ∈ mocks, i ∈ mock.imports := by
  induction mocks generalizing base with
  | nil => simp [importsBehind]
  | cons mock rest ih =>
    have h : importsBehind base (mock :: rest)
        = importsBehind (withImports base mock.imports) rest := rfl
    rw [h, ih, mem_withImports]
    simp [or_assoc]

/-! ## 2. What steps add -/

/-- A trace with more imports and events. -/
def Trace.more (trace : Trace) (imports : List Import) (events : List Event) : Trace :=
  ⟨withImports trace.imports imports, trace.events ++ events⟩

theorem Trace.more_nil (trace : Trace) : trace.more [] [] = trace := by
  simp [more, withImports]

theorem Trace.more_more (trace : Trace) (a b : List Import) (s t : List Event) :
    (trace.more a s).more b t = trace.more (a ++ b) (s ++ t) := by
  simp [more, withImports_append]

namespace Resolve

variable {α β : Type} {base : List Import} {known : α → List Import} {known' : β → List Import}

/-- Whatever the trace is, `x` comes to the same result and adds the same to the trace. -/
def Leaves (x : Resolve α) (result : Except MockFault α) (imports : List Import)
    (events : List Event) : Prop :=
  ∀ trace, x.outcome trace = (result, trace.more imports events)

theorem leaves_pure (a : α) : (pure a : Resolve α).Leaves (.ok a) [] [] := by
  intro trace
  rw [outcome_pure, Trace.more_nil]

theorem leaves_throw (fault : MockFault) :
    (throw fault : Resolve α).Leaves (.error fault) [] [] := by
  intro trace
  rw [outcome_throw, Trace.more_nil]

theorem leaves_record (event : Event) : (record event).Leaves (.ok ()) [] [event] := fun _ => rfl

theorem leaves_request (new : Import) : (request new).Leaves (.ok ()) [new] [] := by
  intro trace
  rw [outcome_request]
  simp [Trace.more, withImports]

namespace Leaves

variable {x : Resolve α} {f : α → Resolve β} {imports imports' : List Import}
  {events events' : List Event}

/-- A chain whose first step fails goes no further. -/
theorem bind_error {fault : MockFault} (hx : x.Leaves (.error fault) imports events) :
    (x >>= f).Leaves (.error fault) imports events := by
  intro trace
  rw [outcome_bind, hx]

theorem bind_ok {a : α} {result : Except MockFault β} (hx : x.Leaves (.ok a) imports events)
    (hf : (f a).Leaves result imports' events') :
    (x >>= f).Leaves result (imports ++ imports') (events ++ events') := by
  intro trace
  rw [outcome_bind_of_ok (hx trace), hf, Trace.more_more]

end Leaves

/-- Whatever the trace is, `x` comes to the same result and adds the same to the trace; and where
that result is `a`, what it adds makes `known a` of `base`. -/
def Adds (base : List Import) (known : α → List Import) (x : Resolve α) : Prop :=
  ∃ result news events, (∀ trace, x.outcome trace = (result, trace.more news events)) ∧
    ∀ a, result = .ok a → known a = withImports base news

namespace Adds

theorem of_pure {a : α} (h : known a = base) : Adds base known (pure a : Resolve α) := by
  refine ⟨.ok a, [], [], leaves_pure a, ?_⟩
  rintro _ ⟨⟩
  exact h

theorem of_throw (fault : MockFault) : Adds base known (throw fault : Resolve α) := by
  refine ⟨.error fault, [], [], leaves_throw fault, ?_⟩
  rintro _ ⟨⟩

theorem of_record (event : Event) : Adds base (fun _ => base) (record event) := by
  refine ⟨.ok (), [], [event], leaves_record event, ?_⟩
  rintro _ ⟨⟩
  rfl

theorem of_request (new : Import) : Adds base (fun _ => withImport base new) (request new) := by
  refine ⟨.ok (), [new], [], leaves_request new, ?_⟩
  rintro _ ⟨⟩
  rfl

theorem bind {x : Resolve α} {f : α → Resolve β} (hx : x.Adds base known)
    (hf : ∀ a, (f a).Adds (known a) known') : (x >>= f).Adds base known' := by
  obtain ⟨result, news, events, hout, hknown⟩ := hx
  cases result with
  | error fault =>
    refine ⟨.error fault, news, events, Leaves.bind_error hout, ?_⟩
    rintro _ ⟨⟩
  | ok a =>
    obtain ⟨result', news', events', hout', hknown'⟩ := hf a
    refine ⟨result', news ++ news', events ++ events', Leaves.bind_ok hout hout', fun b hb => ?_⟩
    rw [hknown' b hb, hknown a rfl, withImports_append]

theorem map {x : Resolve α} {f : α → β} (hx : x.Adds base known)
    (hf : ∀ a, known' (f a) = known a) : (f <$> x).Adds base known' := by
  rw [map_eq_pure_bind]
  exact hx.bind fun a => of_pure (hf a)

/-- What is made on its own can be made behind other imports. -/
theorem behind {x : Resolve α} (hx : x.Adds [] known) (base : List Import) :
    x.Adds base fun a => withImports base (known a) := by
  obtain ⟨result, news, events, hout, hknown⟩ := hx
  refine ⟨result, news, events, hout, fun a ha => ?_⟩
  calc withImports base (known a)
      = withImports base (withImports [] news) := by rw [hknown a ha]
    _ = withImports base news := withImports_withImports base [] news

end Adds

end Resolve

/-! ## 3. What layers add -/

open Resolve (Adds)

/-- All that is asked adds to a trace what its mock needs. -/
def AddsImports (ask : Resolver) : Prop :=
  ∀ env membership placed, (ask env membership placed).Adds [] Mock.imports

theorem imports_addMember (merge : Merge) (mock : Mock) :
    (merge.addMember mock).imports = withImports merge.imports mock.imports := by
  refine Merge.addMember_invariant
    (I := fun m => m.imports = withImports merge.imports mock.imports) rfl ?_ fun _ hm => hm
  intro properties _ property _ m hm
  rw [Merge.addProperty]
  split
  · exact hm
  · exact hm

theorem plainMock_adds (env : Environment) (placed : PlacedSchema) :
    (plainMock env placed).Adds [] Mock.imports := by
  simp only [plainMock, enumerationMock]
  split
  · split
    · exact (Adds.of_request _).bind fun _ => .of_pure rfl
    · exact .of_pure rfl
  · exact .of_pure rfl

/-- What settles a schema needs nothing. -/
theorem settledOr_adds (env : Environment) (placed : PlacedSchema) {made : Resolve Mock}
    (h : made.Adds [] Mock.imports) : (settledOr env placed made).Adds [] Mock.imports := by
  simp only [settledOr, ActiveRules.mock?_eq]
  cases env.rules.inOrder.first? placed.site with
  | some rule => exact (Adds.of_record _).bind fun _ => .of_pure rfl
  | none =>
    simp only [Option.map_none]
    split
    · exact .of_pure rfl
    · exact h

section Layers

variable {ask : Resolver} (hask : AddsImports ask)

include hask

theorem askProperties_adds (env : Environment) (emitted : List String) (site : Site) :
    ∀ (properties : List (String × Schema)) (base : List Import),
      (askProperties ask env emitted site properties).Adds base
        fun mocks => importsBehind base (mocks.map Prod.snd)
  | [], _ => .of_pure rfl
  | (key, schema) :: rest, base => by
    simp only [askProperties]
    split
    · exact askProperties_adds env emitted site rest base
    · refine ((hask _ _ _).behind base).bind fun mock => ?_
      exact (askProperties_adds env emitted site rest _).bind fun mocks => .of_pure rfl

theorem askMerged_adds (env : Environment) (site : Site) :
    ∀ (members : List Schema) (merge : Merge),
      (askMerged ask env site members merge).Adds merge.imports Merge.imports
  | [], _ => .of_pure rfl
  | member :: rest, merge => by
    simp only [askMerged]
    refine ((hask _ _ _).behind merge.imports).bind fun mock => ?_
    rw [← imports_addMember]
    exact askMerged_adds env site rest _

theorem askVariants_adds (env : Environment) (membership : Membership) (site : Site) :
    ∀ (members : List Schema) (base : List Import),
      (askVariants ask env membership site members).Adds base (importsBehind base)
  | [], _ => .of_pure rfl
  | member :: rest, base => by
    simp only [askVariants]
    refine ((hask _ _ _).behind base).bind fun mock => ?_
    exact (askVariants_adds env membership site rest _).bind fun mocks => .of_pure rfl

theorem askCombined_adds (env : Environment) (membership : Option Membership)
    (placed : PlacedSchema) (combinator : Combinator) (properties : List (String × Schema))
    (members : List Schema) :
    (askCombined ask env membership placed combinator properties members).Adds [] Mock.imports := by
  simp only [askCombined]
  refine (askProperties_adds hask env _ placed.site properties []).bind fun mocks => ?_
  cases combinator with
  | allOf => exact (askMerged_adds hask env placed.site members _).bind fun merge => .of_pure rfl
  | oneOf | anyOf =>
    exact (askVariants_adds hask env _ placed.site members _).bind fun variants => .of_pure rfl

theorem makeLayer_adds : AddsImports (makeLayer ask) := by
  intro env membership placed
  obtain ⟨schema, site, definition⟩ := placed
  cases schema with
  | reference target => exact hask env membership _
  | plain keywords => exact settledOr_adds env _ (plainMock_adds env _)
  | array keywords items =>
    exact settledOr_adds env _ ((hask _ _ _).bind fun item => .of_pure rfl)
  | object keywords properties =>
    refine settledOr_adds env _ ?_
    exact (askProperties_adds hask env _ site properties []).bind fun mocks => .of_pure rfl
  | combined keywords combinator properties members =>
    exact settledOr_adds env _ (askCombined_adds hask env membership _ _ _ _)

theorem followLayer_adds (env : Environment) (membership : Option Membership) (reference : String)
    (site : Site) : (followLayer ask env membership reference site).Adds [] Mock.imports := by
  by_cases hmem : (env.target reference).address ∈ env.chain
  · rw [followLayer_of_mem hmem]
    exact .of_throw _
  · rw [followLayer_of_notMem hmem]
    have htarget : ∀ target site, (targetSchema env reference target site).Adds [] fun _ => [] := by
      intro target site
      simp only [targetSchema]
      split
      · exact .of_pure rfl
      · exact (Adds.of_record _).bind fun _ => .of_pure rfl
    refine (htarget _ _).bind fun placed => ?_
    refine (makeLayer_adds hask _ membership placed).bind fun mock => ?_
    refine (Adds.of_record _).bind fun _ => .of_pure ?_
    cases placed.schema <;> rfl

theorem resolveLayer_adds : AddsImports (resolveLayer ask) := by
  intro env membership placed
  obtain ⟨schema, site, definition⟩ := placed
  cases schema with
  | reference reference => exact followLayer_adds hask env membership reference site
  | plain | array | object | combined =>
    exact (makeLayer_adds hask env membership _).map fun _ => rfl

end Layers

/-- **A resolution adds to a trace what its mock needs**, and nothing else. -/
theorem resolver_adds : AddsImports resolver := by
  refine resolver_of_layers (Q := fun _ _ _ x => x.Adds [] Mock.imports) ?_ resolveLayer_adds
  exact fun _ _ _ => .of_throw _

/-! ## 4. The law of imports -/

namespace Resolve

/-- What a resolution imports, told from the outside. -/
structure Accounts (x : Resolve Mock) : Prop where
  /-- What was there before does not matter for the result. -/
  result_eq : ∀ trace trace', (x.outcome trace).1 = (x.outcome trace').1
  nodup : ∀ {trace mock after}, x.outcome trace = (.ok mock, after) → mock.imports.Nodup
  imports_eq : ∀ {trace mock after}, x.outcome trace = (.ok mock, after) →
    after.imports = trace.imports ++ mock.imports.filter fun i => i ∉ trace.imports
  /-- From nothing, what has been asked for is what the mock needs. -/
  imports_eq_of_nil : ∀ {trace mock after}, x.outcome trace = (.ok mock, after) →
    trace.imports = [] → after.imports = mock.imports
  /-- A failure leaves what was there before. -/
  prefix_of_error : ∀ {trace fault after}, x.outcome trace = (.error fault, after) →
    trace.imports <+: after.imports

theorem Accounts.mem_imports {x : Resolve Mock} (h : x.Accounts) {trace after : Trace} {mock : Mock}
    (hok : x.outcome trace = (.ok mock, after)) (i : Import) :
    i ∈ after.imports ↔ i ∈ trace.imports ∨ i ∈ mock.imports := by
  rw [h.imports_eq hok, List.mem_append, List.mem_filter]
  by_cases hi : i ∈ trace.imports
  · simp [hi]
  · simp [hi]

theorem Adds.accounts {x : Resolve Mock} (h : x.Adds [] Mock.imports) : x.Accounts := by
  obtain ⟨result, news, events, hout, hknown⟩ := h
  have hok : ∀ {trace mock after}, x.outcome trace = (.ok mock, after) →
      mock.imports = withImports [] news ∧ after.imports = withImports trace.imports news := by
    intro trace mock after h
    rw [hout trace] at h
    obtain ⟨rfl, rfl⟩ := Prod.mk.inj h
    exact ⟨hknown mock rfl, rfl⟩
  have hnodup : ∀ {trace mock after}, x.outcome trace = (.ok mock, after) →
      mock.imports.Nodup := by
    intro trace mock after h
    rw [(hok h).1]
    exact nodup_withImports List.nodup_nil news
  have happend : ∀ {trace mock after}, x.outcome trace = (.ok mock, after) →
      after.imports = trace.imports ++ mock.imports.filter fun i => i ∉ trace.imports := by
    intro trace mock after h
    obtain ⟨hmock, hafter⟩ := hok h
    calc after.imports = withImports trace.imports news := hafter
      _ = withImports trace.imports mock.imports := by
          rw [hmock, withImports_withImports]
          rfl
      _ = trace.imports ++ mock.imports.filter fun i => i ∉ trace.imports :=
          withImports_eq_append_filter (hnodup h) _
  constructor
  case result_eq =>
    intro trace trace'
    rw [hout, hout]
  case nodup => exact hnodup
  case imports_eq => exact happend
  case imports_eq_of_nil =>
    intro trace mock after h hnil
    rw [happend h, hnil]
    simp
  case prefix_of_error =>
    intro trace fault after h
    rw [hout trace] at h
    obtain ⟨-, rfl⟩ := Prod.mk.inj h
    exact prefix_withImports _ _

end Resolve

namespace Workspace

/-- A mock of a workspace needs all that was asked for, since nothing was before. -/
theorem imports_mock {w : Workspace} {documentKey : String} {placed : PlacedSchema}
    {operationId : String} {tags : List String} {complete : CompleteMock}
    (h : (w.mock mockResolver documentKey placed operationId tags).1 = .ok complete) :
    complete.imports = complete.mock.imports := by
  simp only [mock] at h
  generalize henv : Environment.start documentKey w.store w.settings
    (w.settings.rules.activeFor operationId tags) = env at h
  rcases hout : (placed.resolve mockResolver env none).outcome .empty with ⟨fault | made, after⟩
  · have hrun : (placed.resolve mockResolver env none).run Trace.empty = (.error fault, after) :=
      hout
    rw [hrun] at h
    cases h
  · have hrun : (placed.resolve mockResolver env none).run Trace.empty = (.ok made, after) := hout
    rw [hrun] at h
    cases h
    exact (resolver_adds env none placed).accounts.imports_eq_of_nil hout rfl

/-- Every response of a walk that could be mocked needs all that was asked for. -/
def WalkAccounts (walk : Walk) : Prop :=
  ∀ response, Except.ok response ∈ walk.outcomes → response.imports = response.mock.imports

theorem visit_accounts (w : Workspace) {walk : Walk} (h : WalkAccounts walk) (finding : Finding) :
    WalkAccounts (w.visit mockResolver walk finding) := by
  cases finding with
  | dangling reference documentKey => exact h
  | body body =>
    intro response hresponse
    rcases List.mem_append.mp hresponse with hresponse | hresponse
    · exact h response hresponse
    · have heq := List.mem_singleton.mp hresponse
      split at heq
      · next complete hcomplete =>
        cases heq
        exact imports_mock hcomplete
      · cases heq

theorem walk_accounts (w : Workspace) : WalkAccounts (w.walk mockResolver) := by
  have hfold : ∀ (findings : List Finding) (walk : Walk), WalkAccounts walk →
      WalkAccounts (findings.foldl (w.visit mockResolver) walk) := by
    intro findings
    induction findings with
    | nil => exact fun _ h => h
    | cons finding rest ih => exact fun walk h => ih _ (w.visit_accounts h finding)
  exact hfold _ _ fun _ hresponse => absurd hresponse List.not_mem_nil

end Workspace

/-- **The two lists of imports stay in step.**  What a resolution comes to does not depend on what
was imported before.  The imports of its mock are without repetition, and what it leaves behind is
what was there before and then those of them that were not, in order; a failure leaves what was
there.  So a mock that is made from nothing, and that of every response, has exactly the imports
that were asked for. -/
theorem imports_stay_in_step :
    (∀ (env : Environment) (membership : Option Membership) (placed : PlacedSchema),
      (placed.resolve mockResolver env membership).Accounts) ∧
    ∀ w : Workspace,
      (∀ documentKey placed operationId tags complete,
        (w.mock mockResolver documentKey placed operationId tags).1 = .ok complete →
        complete.imports = complete.mock.imports) ∧
      ∀ response ∈ (w.walk mockResolver).mocks, response.imports = response.mock.imports := by
  refine ⟨fun env membership placed => (resolver_adds env membership placed).accounts,
    fun w => ⟨fun _ _ _ _ _ h => Workspace.imports_mock h, fun response hresponse => ?_⟩⟩
  obtain ⟨outcome, houtcome, hresult⟩ := List.mem_filterMap.mp hresponse
  cases outcome with
  | error failure => cases hresult
  | ok made =>
    cases hresult
    exact w.walk_accounts _ houtcome

/-- A document with an enumeration, which is the body of a response. -/
def statusDocument : Json :=
  .obj [("paths", .obj [("/status", .obj [("get", .obj [("operationId", .str "read"),
      ("responses", .obj [("200", .obj [("content", .obj [("json", .obj [("schema",
        referenceNode "#/components/schemas/Status")])])])])])])]),
    ("components", .obj [("schemas", .obj [
      ("Status", .obj [("enum", .arr [.str "on", .str "off"])])])])]

/-- The status document at hand. -/
def statusWorkspace : Workspace where
  store := .ofList [("api.json", statusDocument)]
  root := "api.json"
  settings := ⟨⟨[], [], []⟩, .empty, false, 0, 1, false⟩
  hasRoot := rfl

/-- The status, imported by its name. -/
def statusImport : Import := ⟨"Status", some "api.json", true⟩

/-- Two properties with the same status. -/
def statusTwice : PlacedSchema :=
  .ofJson (.obj [("properties", .obj [("first", referenceNode "#/components/schemas/Status"),
    ("second", referenceNode "#/components/schemas/Status")])]) ⟨"", none⟩

theorem imports_stay_in_step_status :
    (∃ mock after, (statusTwice.resolve mockResolver
        { listEnvironment with store := statusWorkspace.store } none).outcome
          ⟨[⟨"Size", none, true⟩], []⟩ = (.ok mock, after) ∧
      mock.imports = [statusImport] ∧ after.imports = [⟨"Size", none, true⟩, statusImport]) ∧
    (∃ complete, (statusWorkspace.mock mockResolver "api.json" statusTwice "" []).1 = .ok complete ∧
      complete.imports = complete.mock.imports) ∧
    ∃ response ∈ (statusWorkspace.walk mockResolver).mocks,
      response.imports = response.mock.imports := by
  refine ⟨?_, ?_, ?_⟩
  · have hok : (statusTwice.resolve mockResolver
        { listEnvironment with store := statusWorkspace.store } none).outcome
          ⟨[⟨"Size", none, true⟩], []⟩ = (.ok _, _) := rfl
    refine ⟨_, _, hok, rfl, ?_⟩
    exact (imports_stay_in_step.1 _ none statusTwice).imports_eq hok
  · have hok : (statusWorkspace.mock mockResolver "api.json" statusTwice "" []).1 = .ok _ := rfl
    exact ⟨_, hok, (imports_stay_in_step.2 statusWorkspace).1 _ _ _ _ _ hok⟩
  · have hmem : _ ∈ (statusWorkspace.walk mockResolver).mocks := List.mem_cons_self
    exact ⟨_, hmem, (imports_stay_in_step.2 statusWorkspace).2 _ hmem⟩

end SchemaMock
