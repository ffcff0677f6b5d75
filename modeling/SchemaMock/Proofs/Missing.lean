/-
# Targets that are missing

A reference whose target is not in the documents counts as one to a schema that says nothing.  It is
reported, and the report is all that is needed to know of it:

* without a report, more documents would have changed nothing (`AgreesUnreported`);
* the reports are those of the references that have been entered and whose target is missing, each
  once and in their order (`Accounted`);
* a reference with a missing target succeeds (`resolver_missing`).

To say which references a run enters, the run is made once more with a step that notes them
(`noting`).  It notes a reference when its target is entered, so after its address was found to be
fresh; without the notes it is the run.
-/
import SchemaMock.Proofs.Imports

namespace SchemaMock

open Resolve (Leaves leaves_pure leaves_throw leaves_record leaves_request)

/-! ## 1. Entrances -/

/-- A reference that is entered: where it stands, and what is being resolved there. -/
structure Entrance where
  reference : String
  documentKey : String
  chain : List String

namespace Entrance

/-- Where the reference leads. -/
def target (entrance : Entrance) : Target := .told entrance.reference entrance.documentKey

/-- Whether there is nothing at the target. -/
def isMissing (store : DocumentStore) (entrance : Entrance) : Bool :=
  (store.at? entrance.target.documentKey entrance.target.segments).isNone

/-- What is reported of a reference whose target is missing. -/
def report (entrance : Entrance) : Event :=
  .unresolved entrance.reference entrance.target.documentKey

end Entrance

namespace Event

/-- The reference whose entrance is noted. -/
def entrance? : Event → Option Entrance
  | .inspected ⟨.reference told, _, _⟩ _ documentKey chain => some ⟨told, documentKey, chain⟩
  | _ => none

/-- Whether a missing target is reported. -/
def isReport : Event → Bool
  | .unresolved _ _ => true
  | _ => false

end Event

/-- The references whose entrances are noted among some events. -/
def entrances (events : List Event) : List Entrance := events.filterMap Event.entrance?

/-- Some events without the notes of entrances. -/
def withoutNotes (events : List Event) : List Event :=
  events.filter fun event => event.entrance?.isNone

theorem entrances_append (events events' : List Event) :
    entrances (events ++ events') = entrances events ++ entrances events' :=
  List.filterMap_append

theorem withoutNotes_append (events events' : List Event) :
    withoutNotes (events ++ events') = withoutNotes events ++ withoutNotes events' :=
  List.filter_append events events'

/-- A note is no report. -/
theorem filter_isReport_withoutNotes (events : List Event) :
    (withoutNotes events).filter Event.isReport = events.filter Event.isReport := by
  rw [withoutNotes, List.filter_filter]
  refine List.filter_congr fun event _ => ?_
  cases event with
  | reference | unresolved | overridden => rfl
  | inspected => simp [Event.isReport]

/-! ## 2. What following leaves -/

/-- What is done at a target: what stands there is made, and told. -/
def tellMade (target : Reference) (schema : Schema) (made : Resolve Mock) : Resolve Mock := do
  let mock ← made
  Resolve.record (.reference target (schema.typed mock))
  pure (schema.typed mock)

theorem tellMade_bind {α : Type} (target : Reference) (schema : Schema) (x : Resolve α)
    (f : α → Resolve Mock) :
    tellMade target schema (x >>= f) = x >>= fun a => tellMade target schema (f a) := by
  simp only [tellMade, bind_assoc]

/-- Related resolutions at a target stay related when they have been told. -/
theorem tellMade_compat {R : (α : Type) → Resolve α → Resolve α → Prop} (hR : Compatible R)
    (hrecord : ∀ event, event.entrance? = none → event.isReport = false →
      R Unit (Resolve.record event) (Resolve.record event))
    (target : Reference) (schema : Schema) {x y : Resolve Mock} (h : R Mock x y) :
    R Mock (tellMade target schema x) (tellMade target schema y) :=
  hR.bind h fun _ => hR.bind (hrecord _ rfl rfl) fun _ => hR.pure _

namespace Environment

/-- The entrance of a reference. -/
def entrance (env : Environment) (reference : String) : Entrance :=
  ⟨reference, env.documentKey, env.chain⟩

/-- What is reported of a reference before its target is made. -/
def missed (env : Environment) (reference : String) : List Event :=
  if (env.entrance reference).isMissing env.store then [(env.entrance reference).report] else []

theorem reported_eq (env : Environment) (reference : String) (trace : Trace) :
    env.reported reference trace = trace.more [] (env.missed reference) := by
  rw [reported, missed]
  have hmissing : (env.entrance reference).isMissing env.store
      = (env.store.at? (env.target reference).documentKey
          (env.target reference).segments).isNone := rfl
  rw [hmissing]
  cases env.store.at? (env.target reference).documentKey (env.target reference).segments with
  | none => rfl
  | some value => exact trace.more_nil.symm

end Environment

section Following

variable {env : Environment} {membership : Option Membership} {reference : String} {site : Site}

/-- **Following leaves a report, if the target is missing, and then what is left at the target.** -/
theorem leaves_followBy {make : Resolver} (hfresh : (env.target reference).address ∉ env.chain)
    {result : Except MockFault Mock} {imports : List Import} {events : List Event}
    (h : (tellMade (.read reference env.documentKey) (env.followed reference site).schema
      (make (env.inside reference) membership (env.followed reference site))).Leaves result imports
        events) :
    (followBy make env membership reference site).Leaves result imports
      (env.missed reference ++ events) := by
  have htarget : (targetSchema env reference (.read reference env.documentKey)
      (site.named (Reference.read reference env.documentKey).name)).Leaves
        (.ok (env.followed reference site)) [] (env.missed reference) := by
    intro trace
    rw [outcome_targetSchema, env.reported_eq]
  rw [followBy_of_notMem hfresh]
  exact htarget.bind_ok h

end Following

/-! ## 3. More documents -/

/-- Every document of the first store is in the second, under its key. -/
def DocumentStore.IncludedIn (store store' : DocumentStore) : Prop :=
  ∀ key document, store.get? key = some document → store'.get? key = some document

theorem DocumentStore.IncludedIn.at? {store store' : DocumentStore} (h : store.IncludedIn store')
    {key : String} {segments : List String} {value : Json}
    (hat : store.at? key segments = some value) : store'.at? key segments = some value := by
  obtain ⟨document, hget, hvalue⟩ := Option.bind_eq_some_iff.mp hat
  exact Option.bind_eq_some_iff.mpr ⟨document, h key document hget, hvalue⟩

/-- The same with other documents. -/
def Environment.over (env : Environment) (store : DocumentStore) : Environment :=
  { env with store := store }

theorem Environment.alike_over (env : Environment) (store : DocumentStore) :
    env.Alike (env.over store) := ⟨rfl, rfl, rfl⟩

/-- The first resolution leaves the same whatever the trace is, and so does the second, unless the
first has reported something. -/
def AgreesUnreported {α : Type} (x y : Resolve α) : Prop :=
  ∃ result imports events, x.Leaves result imports events ∧
    ((∀ event ∈ events, event.isReport = false) → y.Leaves result imports events)

namespace AgreesUnreported

variable {α β : Type}

theorem of_leaves {x : Resolve α} {result : Except MockFault α} {imports : List Import}
    {events : List Event} (h : x.Leaves result imports events) : AgreesUnreported x x :=
  ⟨result, imports, events, h, fun _ => h⟩

/-- Once the first has reported something, nothing is said of the second. -/
theorem bind {x y : Resolve α} {f g : α → Resolve β} (hx : AgreesUnreported x y)
    (hf : ∀ a, AgreesUnreported (f a) (g a)) : AgreesUnreported (x >>= f) (y >>= g) := by
  obtain ⟨result, imports, events, hleft, hright⟩ := hx
  cases result with
  | error fault =>
    exact ⟨.error fault, imports, events, hleft.bind_error,
      fun hclean => (hright hclean).bind_error⟩
  | ok a =>
    obtain ⟨result', imports', events', hleft', hright'⟩ := hf a
    refine ⟨result', imports ++ imports', events ++ events', hleft.bind_ok hleft', fun hclean => ?_⟩
    obtain ⟨hfirst, hsecond⟩ := List.forall_mem_append.mp hclean
    exact (hright hfirst).bind_ok (hright' hsecond)

end AgreesUnreported

theorem compatible_agreesUnreported :
    CompatibleEvents fun _ x y => AgreesUnreported x y where
  pure := fun a => .of_leaves (leaves_pure a)
  record := fun event => .of_leaves (leaves_record event)
  request := fun new => .of_leaves (leaves_request new)
  bind := .bind

section MoreDocuments

variable {env : Environment} {store' : DocumentStore} (hstore : env.store.IncludedIn store')

include hstore

/-- A target that is there is the same among more documents. -/
theorem followed_over {reference : String} (site : Site)
    (hthere : (env.entrance reference).isMissing env.store = false) :
    (env.over store').followed reference site = env.followed reference site ∧
      (env.over store').missed reference = env.missed reference := by
  obtain ⟨value, hat⟩ := Option.isSome_iff_exists.mp (Option.isNone_eq_false_iff.mp hthere)
  have hat' := hstore.at? hat
  constructor
  · rw [Environment.followed, Environment.followed]
    have hsame : (env.over store').store.schemaAt ((env.over store').target reference)
        = env.store.schemaAt (env.target reference) :=
      (DocumentStore.schemaAt_of_some hat').trans (DocumentStore.schemaAt_of_some hat).symm
    rw [hsame]
    rfl
  · have hthere' : ((env.over store').entrance reference).isMissing (env.over store').store
        = false := Option.isNone_eq_false_iff.mpr (Option.isSome_iff_exists.mpr ⟨value, hat'⟩)
    rw [Environment.missed, Environment.missed, hthere, hthere']
    rfl

/-- A missing target is reported before anything else is done, so nothing has to be said of what
follows. -/
theorem followLayer_agrees {ask ask' : Resolver} {membership : Option Membership}
    {reference : String} {site : Site}
    (hmake : AgreesUnreported
      (makeLayer ask (env.inside reference) membership (env.followed reference site))
      (makeLayer ask' ((env.inside reference).over store') membership
        (env.followed reference site))) :
    AgreesUnreported (followLayer ask env membership reference site)
      (followLayer ask' (env.over store') membership reference site) := by
  by_cases hmem : (env.target reference).address ∈ env.chain
  · have hmem' : ((env.over store').target reference).address ∈ (env.over store').chain := hmem
    rw [followLayer_of_mem hmem, followLayer_of_mem hmem']
    exact .of_leaves (leaves_throw _)
  · obtain ⟨result, imports, events, hleft, hright⟩ :
        AgreesUnreported
          (tellMade (.read reference env.documentKey) (env.followed reference site).schema
            (makeLayer ask (env.inside reference) membership (env.followed reference site)))
          (tellMade (.read reference env.documentKey) (env.followed reference site).schema
            (makeLayer ask' ((env.inside reference).over store') membership
              (env.followed reference site))) :=
      tellMade_compat compatible_agreesUnreported.toCompatible
        (fun event _ _ => compatible_agreesUnreported.record event) _ _ hmake
    refine ⟨result, imports, _, leaves_followBy hmem hleft, fun hclean => ?_⟩
    obtain ⟨hmissed, hevents⟩ := List.forall_mem_append.mp hclean
    have hthere : (env.entrance reference).isMissing env.store = false := by
      by_contra hmissing
      rw [Environment.missed, if_pos (by simpa using hmissing)] at hmissed
      exact Bool.noConfusion (hmissed _ List.mem_cons_self)
    obtain ⟨hfollowed, hsame⟩ := followed_over hstore site hthere
    have hmem' : ((env.over store').target reference).address ∉ (env.over store').chain := hmem
    rw [← hsame]
    refine leaves_followBy hmem' ?_
    rw [hfollowed]
    exact hright hevents

theorem deepen_agrees (layers : Nat) (membership : Option Membership) (placed : PlacedSchema) :
    AgreesUnreported (deepen unanswered layers env membership placed)
      (deepen unanswered layers (env.over store') membership placed) := by
  induction layers generalizing env membership placed with
  | zero => exact .of_leaves (leaves_throw _)
  | succ layers ih =>
    have hmake : ∀ (env : Environment), env.store.IncludedIn store' → ∀ placed,
        AgreesUnreported (makeLayer (deepen unanswered layers) env membership placed)
          (makeLayer (deepen unanswered layers) (env.over store') membership placed) :=
      fun env hstore placed => makeLayer_compat compatible_agreesUnreported.toCompatible
        (env.alike_over store') membership placed
        (fun _ => ih hstore membership placed) fun _ _ _ _ => ih hstore _ _
    obtain ⟨schema, site, definition⟩ := placed
    cases schema with
    | reference reference => exact followLayer_agrees hstore (hmake (env.inside reference) hstore _)
    | plain | array | object | combined =>
      exact compatible_agreesUnreported.toCompatible.map _ (hmake env hstore _)

/-- **Without a report, more documents change nothing.** -/
theorem resolver_agrees (membership : Option Membership) (placed : PlacedSchema) :
    AgreesUnreported (resolver env membership placed)
      (resolver (env.over store') membership placed) := by
  have hlayers := deepen_agrees hstore
    (max (layersFor env.store placed.schema) (layersFor store' placed.schema)) membership placed
  have hmore : layersFor (env.over store').store placed.schema
      ≤ max (layersFor env.store placed.schema) (layersFor store' placed.schema) := le_max_right _ _
  rw [deepen_layersFor unanswered membership (le_max_left _ _),
    deepen_layersFor unanswered membership hmore] at hlayers
  exact hlayers

end MoreDocuments

/-! ## 4. Every report -/

/-- The note that a reference has been entered: as it stands, and where it stands. -/
def Environment.noteOf (env : Environment) (membership : Option Membership)
    (placed : PlacedSchema) : Event :=
  .inspected placed membership env.documentKey env.chain

/-- One layer of the resolution which notes, for a reference, that it has been entered. -/
def notingLayer (ask : Resolver) : Resolver := fun env membership placed =>
  match placed.schema with
  | .reference reference =>
    followBy (fun inside membership target => do
      Resolve.record (env.noteOf membership placed)
      makeLayer ask inside membership target) env membership reference placed.site
  | schema => schema.typed <$> makeLayer ask env membership placed

/-- A reference that is entered is noted, behind the report of a missing target and before all that
is done at the target. -/
theorem leaves_notingLayer {ask : Resolver} {env : Environment} {membership : Option Membership}
    {reference : String} {site : Site} {definition : Option String}
    (hfresh : (env.target reference).address ∉ env.chain) {result : Except MockFault Mock}
    {imports : List Import} {events : List Event}
    (h : (tellMade (.read reference env.documentKey) (env.followed reference site).schema
      (makeLayer ask (env.inside reference) membership (env.followed reference site))).Leaves result
        imports events) :
    (notingLayer ask env membership ⟨.reference reference, site, definition⟩).Leaves result imports
      (env.missed reference
        ++ ([env.noteOf membership ⟨.reference reference, site, definition⟩] ++ events)) := by
  refine leaves_followBy hfresh ?_
  rw [tellMade_bind]
  exact (leaves_record _).bind_ok h

/-- As many layers as are told that note every entrance. -/
def noting : (layers : Nat) → Resolver
  | 0 => unanswered
  | layers + 1 => notingLayer (noting layers)

/-- The reports among some events are those of the noted references whose target is missing, and
none of these references was being resolved when it was entered. -/
structure ReportsMissing (store : DocumentStore) (events : List Event) : Prop where
  reports : events.filter Event.isReport
    = ((entrances events).filter (Entrance.isMissing store)).map Entrance.report
  fresh : ∀ entrance ∈ entrances events, entrance.target.address ∉ entrance.chain

/-- The second resolution is the first without its notes, and the first reports what is missing. -/
def Accounted (store : DocumentStore) {α : Type} (noted x : Resolve α) : Prop :=
  ∃ result imports events, noted.Leaves result imports events ∧
    x.Leaves result imports (withoutNotes events) ∧ ReportsMissing store events

section Accounted

variable {store : DocumentStore}

theorem ReportsMissing.append {events events' : List Event} (h : ReportsMissing store events)
    (h' : ReportsMissing store events') : ReportsMissing store (events ++ events') where
  reports := by
    rw [List.filter_append, h.reports, h'.reports, entrances_append, List.filter_append,
      List.map_append]
  fresh := by
    rw [entrances_append]
    exact List.forall_mem_append.mpr ⟨h.fresh, h'.fresh⟩

/-- What neither notes nor reports is accounted for. -/
theorem Accounted.of_leaves {α : Type} {x : Resolve α} {result : Except MockFault α}
    {imports : List Import} {events : List Event} (h : x.Leaves result imports events)
    (hplain : ∀ event ∈ events, event.entrance? = none ∧ event.isReport = false) :
    Accounted store x x := by
  have hnone : entrances events = [] :=
    List.filterMap_eq_nil_iff.mpr fun event hevent => (hplain event hevent).1
  have hall : withoutNotes events = events :=
    List.filter_eq_self.mpr fun event hevent => by rw [(hplain event hevent).1]; rfl
  refine ⟨result, imports, events, h, hall.symm ▸ h, ?_, ?_⟩
  · rw [hnone]
    exact List.filter_eq_nil_iff.mpr fun event hevent => by simp [(hplain event hevent).2]
  · rw [hnone]
    exact List.forall_mem_nil _

theorem Accounted.of_silent {α : Type} {x : Resolve α} {result : Except MockFault α}
    {imports : List Import} (h : x.Leaves result imports []) : Accounted store x x :=
  .of_leaves h (List.forall_mem_nil _)

theorem Accounted.of_record {event : Event} (hentrance : event.entrance? = none)
    (hreport : event.isReport = false) :
    Accounted store (Resolve.record event) (Resolve.record event) :=
  .of_leaves (leaves_record event) (List.forall_mem_singleton.mpr ⟨hentrance, hreport⟩)

theorem Accounted.bind {α β : Type} {x y : Resolve α} {f g : α → Resolve β}
    (hx : Accounted store x y) (hf : ∀ a, Accounted store (f a) (g a)) :
    Accounted store (x >>= f) (y >>= g) := by
  obtain ⟨result, imports, events, hnoted, hleft, hreports⟩ := hx
  cases result with
  | error fault =>
    exact ⟨.error fault, imports, events, hnoted.bind_error, hleft.bind_error, hreports⟩
  | ok a =>
    obtain ⟨result', imports', events', hnoted', hleft', hreports'⟩ := hf a
    refine ⟨result', imports ++ imports', events ++ events', hnoted.bind_ok hnoted', ?_,
      hreports.append hreports'⟩
    rw [withoutNotes_append]
    exact hleft.bind_ok hleft'

theorem compatible_accounted (store : DocumentStore) :
    Compatible fun _ x y => Accounted store x y where
  pure := fun a => .of_silent (leaves_pure a)
  overridden := fun _ _ => .of_record rfl rfl
  request := fun new => .of_silent (leaves_request new)
  bind := .bind

theorem withoutNotes_missed (env : Environment) (reference : String) :
    withoutNotes (env.missed reference) = env.missed reference := by
  rw [Environment.missed]
  split
  · rfl
  · rfl

/-- Entering a reference reports it if its target is missing, and otherwise nothing. -/
theorem reportsMissing_entered {env : Environment} {reference : String}
    (membership : Option Membership) (site : Site) (definition : Option String)
    (hfresh : (env.target reference).address ∉ env.chain) :
    ReportsMissing env.store (env.missed reference
      ++ [env.noteOf membership ⟨.reference reference, site, definition⟩]) := by
  have hentrances : entrances (env.missed reference
      ++ [env.noteOf membership ⟨.reference reference, site, definition⟩])
        = [env.entrance reference] := by
    rw [entrances_append, Environment.missed]
    split
    · rfl
    · rfl
  constructor
  case reports =>
    rw [hentrances, Environment.missed]
    split
    · next hmissing =>
      rw [List.filter_cons_of_pos hmissing]
      rfl
    · next hthere =>
      rw [List.filter_cons_of_neg hthere]
      rfl
  case fresh =>
    rw [hentrances]
    exact List.forall_mem_singleton.mpr hfresh

/-- **A reference whose target is missing is reported, and another one is not**, each time it is
entered. -/
theorem notingLayer_accounted {ask ask' : Resolver}
    (hask : ∀ env membership placed, env.store = store →
      Accounted store (ask env membership placed) (ask' env membership placed))
    (env : Environment) (membership : Option Membership) (placed : PlacedSchema)
    (hstore : env.store = store) :
    Accounted store (notingLayer ask env membership placed)
      (resolveLayer ask' env membership placed) := by
  have hmake : ∀ (env : Environment) (placed : PlacedSchema), env.store = store →
      Accounted store (makeLayer ask env membership placed)
        (makeLayer ask' env membership placed) :=
    fun env placed hstore => makeLayer_compat (compatible_accounted store) (.refl env) membership
      placed (fun _ => hask env membership placed hstore) fun _ _ _ _ => hask env _ _ hstore
  obtain ⟨schema, site, definition⟩ := placed
  cases schema with
  | plain | array | object | combined =>
    exact (compatible_accounted store).map _ (hmake env _ hstore)
  | reference reference =>
    by_cases hmem : (env.target reference).address ∈ env.chain
    · simp only [resolveLayer, notingLayer]
      rw [followLayer_of_mem hmem, followBy_of_mem hmem]
      exact .of_silent (leaves_throw _)
    · obtain ⟨result, imports, events, hnoted, hleft, hreports⟩ :
          Accounted store
            (tellMade (.read reference env.documentKey) (env.followed reference site).schema
              (makeLayer ask (env.inside reference) membership (env.followed reference site)))
            (tellMade (.read reference env.documentKey) (env.followed reference site).schema
              (makeLayer ask' (env.inside reference) membership (env.followed reference site))) :=
        tellMade_compat (compatible_accounted store) (fun _ hentrance hreport =>
          .of_record hentrance hreport) _ _ (hmake (env.inside reference) _ hstore)
      refine ⟨result, imports, _, leaves_notingLayer hmem hnoted, ?_, ?_⟩
      · rw [withoutNotes_append, withoutNotes_append, withoutNotes_missed]
        exact leaves_followBy hmem hleft
      · rw [← List.append_assoc, ← hstore]
        rw [← hstore] at hreports
        exact (reportsMissing_entered membership site definition hmem).append hreports

/-- **The reports of a resolution are those of the missing targets it enters.** -/
theorem noting_accounted (layers : Nat) (env : Environment) (membership : Option Membership)
    (placed : PlacedSchema) (hstore : env.store = store) :
    Accounted store (noting layers env membership placed)
      (deepen unanswered layers env membership placed) := by
  induction layers generalizing env membership placed with
  | zero => exact .of_silent (leaves_throw _)
  | succ layers ih => exact notingLayer_accounted ih env membership placed hstore

/-- Two references to one missing target are reported one after the other. -/
example : ((PlacedSchema.resolve mockResolver listEnvironment none
    ⟨.object [] [("a", .reference "#/Lost"), ("b", .reference "#/Lost")], ⟨"", none⟩,
      none⟩).outcome .empty).2.events.filter Event.isReport
      = [.unresolved "#/Lost" "api.json", .unresolved "#/Lost" "api.json"] := rfl

end Accounted

/-! ## 5. After a report -/

/-- What settles a schema does not fail. -/
theorem settledOr_succeeds {env : Environment} {placed : PlacedSchema} {made : Resolve Mock}
    (h : ∃ mock imports events, made.Leaves (.ok mock) imports events) :
    ∃ mock imports events, (settledOr env placed made).Leaves (.ok mock) imports events := by
  simp only [settledOr]
  split
  · next mock _ => exact ⟨mock, _, _, (leaves_record _).bind_ok (leaves_pure mock)⟩
  · split
    · exact ⟨_, _, _, leaves_pure _⟩
    · exact h

/-- **A reference whose target is missing succeeds**: it is reported first, and then the schema that
says nothing is made in its place. -/
theorem resolver_missing {env : Environment} (membership : Option Membership) {reference : String}
    (site : Site) (definition : Option String)
    (hfresh : (env.target reference).address ∉ env.chain)
    (hmissing : (env.entrance reference).isMissing env.store = true) :
    ∃ mock imports events,
      (resolver env membership ⟨.reference reference, site, definition⟩).Leaves (.ok mock) imports
        ((env.entrance reference).report :: events) := by
  have hempty : (env.followed reference site).schema = .empty :=
    DocumentStore.schemaAt_of_none (Option.isNone_iff_eq_none.mp hmissing)
  obtain ⟨made, imports, events, hmade⟩ : ∃ mock imports events,
      (makeLayer resolver (env.inside reference) membership (env.followed reference site)).Leaves
        (.ok mock) imports events := by
    generalize env.followed reference site = placed at hempty ⊢
    obtain ⟨schema, site, definition⟩ := placed
    cases hempty
    exact settledOr_succeeds ⟨_, _, _, leaves_pure _⟩
  have htold : (tellMade (.read reference env.documentKey) (env.followed reference site).schema
      (makeLayer resolver (env.inside reference) membership (env.followed reference site))).Leaves
        _ _ _ := hmade.bind_ok ((leaves_record _).bind_ok (leaves_pure _))
  have hfollowed := leaves_followBy hfresh htold
  rw [Environment.missed, if_pos hmissing] at hfollowed
  rw [resolver_reference]
  exact ⟨_, _, _, hfollowed⟩

/-- **The reports of a resolution are a complete witness of missing targets.**  If nothing is
reported, the resolution is the same among more documents: its result, the imports that it asks for
and its events.  Whatever is reported is reported for a reference that has been entered and whose
target is missing, once for each and in their order, and is all there is.  And a reference with a
missing target, once it is entered, succeeds. -/
theorem reports_witness_missing_targets (env : Environment) (membership : Option Membership)
    (placed : PlacedSchema) :
    (∀ store', env.store.IncludedIn store' → ∀ (trace : Trace) (events : List Event),
      ((placed.resolve mockResolver env membership).outcome trace).2.events
        = trace.events ++ events →
      (∀ reference documentKey, .unresolved reference documentKey ∉ events) →
      (placed.resolve mockResolver { env with store := store' } membership).outcome trace
        = (placed.resolve mockResolver env membership).outcome trace) ∧
    (∀ layers, layersFor env.store placed.schema ≤ layers →
      ∃ result imports events,
        (noting layers env membership placed).Leaves result imports events ∧
        (placed.resolve mockResolver env membership).Leaves result imports (withoutNotes events) ∧
        (withoutNotes events).filter Event.isReport
          = ((entrances events).filter (Entrance.isMissing env.store)).map Entrance.report ∧
        ∀ entrance ∈ entrances events, entrance.target.address ∉ entrance.chain) ∧
    ∀ reference site definition, (env.target reference).address ∉ env.chain →
      env.store.at? (env.target reference).documentKey (env.target reference).segments = none →
      ∃ mock imports events,
        (PlacedSchema.resolve mockResolver env membership
          ⟨.reference reference, site, definition⟩).Leaves (.ok mock) imports
            (.unresolved reference (env.target reference).documentKey :: events) := by
  refine ⟨fun store' hstore trace events hevents hsilent => ?_, fun layers hlayers => ?_,
    fun reference site definition hfresh hmissing =>
      resolver_missing membership site definition hfresh (Option.isNone_iff_eq_none.mpr hmissing)⟩
  · obtain ⟨result, imports, left, hleft, hright⟩ := resolver_agrees hstore membership placed
    have hsame : trace.events ++ left = trace.events ++ events :=
      (congrArg (fun outcome => outcome.2.events) (hleft trace)).symm.trans hevents
    cases List.append_cancel_left hsame
    have hclean : ∀ event ∈ events, event.isReport = false := by
      intro event hevent
      cases event with
      | unresolved reference documentKey => exact absurd hevent (hsilent reference documentKey)
      | reference | overridden | inspected => rfl
    exact (hright hclean trace).trans (hleft trace).symm
  · have haccounted := noting_accounted layers env membership placed rfl
    rw [deepen_layersFor unanswered membership hlayers] at haccounted
    obtain ⟨result, imports, events, hnoted, hleft, hreports⟩ := haccounted
    refine ⟨result, imports, events, hnoted, hleft, ?_, hreports.fresh⟩
    rw [filter_isReport_withoutNotes, hreports.reports]

/-- The list document with an empty one beside it. -/
def listStoreAndMore : DocumentStore := listEnvironment.store.insert "other.json" (.obj [])

theorem listStore_includedIn_more : listEnvironment.store.IncludedIn listStoreAndMore := by
  intro key document hget
  have hne : key ≠ "other.json" := by
    rintro rfl
    cases hget
  exact (Entries.get?_put_of_ne hne).trans hget

theorem reports_witness_missing_targets_list :
    (labelTwice.resolve mockResolver
        { listEnvironment with store := listStoreAndMore } none).outcome .empty
      = (labelTwice.resolve mockResolver listEnvironment none).outcome .empty ∧
    ∃ mock imports events,
      (PlacedSchema.resolve mockResolver listEnvironment none
        ⟨.reference "other.json#/Label", ⟨"label", none⟩, none⟩).Leaves (.ok mock) imports
          (.unresolved "other.json#/Label" "other.json" :: events) := by
  constructor
  · have hevents : ((labelTwice.resolve mockResolver listEnvironment none).outcome .empty).2.events
        = [] ++ [.reference _ _, .reference _ _] := rfl
    refine (reports_witness_missing_targets listEnvironment none labelTwice).1 listStoreAndMore
      listStore_includedIn_more .empty _ hevents fun _ _ hmem => ?_
    simp at hmem
  · exact (reports_witness_missing_targets listEnvironment none labelTwice).2.2
      "other.json#/Label" ⟨"label", none⟩ none (by decide) rfl

end SchemaMock
