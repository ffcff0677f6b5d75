/-
# Walks are exact

The bodies that `Workspace.HasBody` speaks of, in the order of `Workspace.Before`, are what a walk
goes through: it has one outcome for each of them and nothing else, and an outcome is that of its
body as if there were no other.

The order is strict if no object of the documents names a member twice (`Workspace.Before.asymm`).
There is only one list of bodies in that order then, and no two of them have the same route, method
and status.

A walk may be asked for all mocks or for those that can be made.  Both are read off the outcomes:
mocks and failures are the outcomes taken apart (`TakenApart`), and what is asked of all of them is
answered by the mocks, or by the first failure.
-/
import SchemaMock.Proofs.Findings
import SchemaMock.Proofs.Imports

namespace SchemaMock

/-! ## 1. The order is strict -/

/-- Two names of a list without repetition stand in one order only. -/
theorem not_sublist_swap {names : List String} {a b : String} (h : names.Nodup)
    (hab : [a, b].Sublist names) : ¬ [b, a].Sublist names := by
  intro hba
  have hne : a ≠ b := by
    rintro rfl
    exact List.nodup_iff_sublist.mp h a hab
  induction names with
  | nil => cases hab
  | cons name rest ih =>
    obtain ⟨hname, hrest⟩ := List.nodup_cons.mp h
    cases hab with
    | cons _ hab =>
      cases hba with
      | cons _ hba => exact ih hrest hab hba
      | cons_cons _ _ => exact hname (hab.subset (by simp))
    | cons_cons _ _ =>
      cases hba with
      | cons _ hba => exact hname (hba.subset (by simp))
      | cons_cons _ _ => exact hne rfl

theorem Json.Distinct.get? {node value : Json} {key : String} (h : node.Distinct)
    (hget : node.get? key = some value) : value.Distinct := by
  cases node with
  | obj members =>
    have hmem : (key, value) ∈ members := Entries.mem_of_get? hget
    exact Json.distinct_of_mem_members (List.mem_map_of_mem hmem) h.2
  | null | bool | num | arr | str => cases hget

/-- What a node stands for names nothing twice. -/
theorem Located.StandsFor.distinct {store : DocumentStore} {place other : Located}
    (h : place.StandsFor store other) (hstore : store.Distinct) (hplace : place.value.Distinct) :
    other.value.Distinct := by
  cases h with
  | itself => exact hplace
  | target href hat =>
    obtain ⟨document, hdocument, hat⟩ := Option.bind_eq_some_iff.mp hat
    exact (hstore _ _ hdocument).at? hat
  | nowhere => exact hplace

namespace Workspace

variable {w : Workspace}

theorem HasRoutes.distinct {paths : Entries Json} (h : w.HasRoutes paths)
    (hstore : w.store.Distinct) : (Json.obj paths).Distinct := by
  obtain ⟨hroot, hpaths⟩ := h
  exact (hstore _ _ hroot).get? hpaths

theorem HasOperation.distinct {route method documentKey : String} {operation : Json}
    (h : w.HasOperation route method documentKey operation) (hstore : w.store.Distinct) :
    operation.Distinct := by
  obtain ⟨hpaths, hitem, hplace, -, hoperation⟩ := h
  have hvalue := Json.distinct_of_mem_members (List.mem_map_of_mem hitem) (hpaths.distinct hstore).2
  exact (hplace.distinct hstore hvalue).get? hoperation

/-- There is one operation for a method of a route. -/
theorem HasOperation.unique {route method documentKey documentKey' : String}
    {operation operation' : Json} (h : w.HasOperation route method documentKey operation)
    (h' : w.HasOperation route method documentKey' operation') (hstore : w.store.Distinct) :
    operation = operation' := by
  obtain ⟨hpaths, hitem, hplace, -, hoperation⟩ := h
  obtain ⟨hpaths', hitem', hplace', -, hoperation'⟩ := h'
  cases hpaths.unique hpaths'
  have hkeys := (hpaths.distinct hstore).1
  have hsame := (Entries.get?_of_mem hkeys hitem).symm.trans (Entries.get?_of_mem hkeys hitem')
  cases hsame
  cases hplace.target_eq.symm.trans hplace'.target_eq
  exact Option.some.inj (hoperation.symm.trans hoperation')

/-- **The order of responses is strict**, where no object names a member twice. -/
theorem Before.asymm {a b : String × String × String} (hstore : w.store.Distinct)
    (h : w.Before a b) : ¬ w.Before b a := by
  intro h'
  have hmethods : Finding.methodsInOrder.Nodup := by decide
  cases h with
  | route hpaths hroutes =>
    have hkeys := (hpaths.distinct hstore).1
    cases h' with
    | route hpaths' hroutes' =>
      cases hpaths.unique hpaths'
      exact not_sublist_swap hkeys hroutes hroutes'
    | method | status => exact List.nodup_iff_sublist.mp hkeys _ hroutes
  | method hmethod =>
    cases h' with
    | route hpaths hroutes => exact List.nodup_iff_sublist.mp (hpaths.distinct hstore).1 _ hroutes
    | method hmethod' => exact not_sublist_swap hmethods hmethod hmethod'
    | status => exact List.nodup_iff_sublist.mp hmethods _ hmethod
  | status hoperation hresponses hstatus =>
    have hkeys := ((hoperation.distinct hstore).get? hresponses).1
    cases h' with
    | route hpaths hroutes => exact List.nodup_iff_sublist.mp (hpaths.distinct hstore).1 _ hroutes
    | method hmethod => exact List.nodup_iff_sublist.mp hmethods _ hmethod
    | status hoperation' hresponses' hstatus' =>
      cases hoperation.unique hoperation' hstore
      cases hresponses.symm.trans hresponses'
      exact not_sublist_swap hkeys hstatus hstatus'

/-! ## 2. The bodies that are found -/

/-- The bodies that a walk finds. -/
def bodies (w : Workspace) : List ResponseBody := w.findings.filterMap Finding.body?

theorem mem_bodies_iff {body : ResponseBody} : body ∈ w.bodies ↔ w.HasBody body := by
  rw [← body_mem_findings_iff, bodies, List.mem_filterMap]
  constructor
  · rintro ⟨finding, hfinding, hbody⟩
    cases finding with
    | dangling => cases hbody
    | body found =>
      cases hbody
      exact hfinding
  · exact fun h => ⟨_, h, rfl⟩

theorem pairwise_bodies (w : Workspace) :
    (w.bodies.map fun body => body.site.triple).Pairwise w.Before := by
  rw [bodies, List.pairwise_map, List.pairwise_filterMap]
  refine w.pairwise_findings.imp ?_
  intro first second h a ha b hb
  cases first with
  | dangling => cases ha
  | body found =>
    cases second with
    | dangling => cases hb
    | body found' =>
      cases ha
      cases hb
      exact h _ rfl _ rfl

/-- What is in order does not repeat. -/
theorem nodup_of_pairwise {triples : List (String × String × String)} (hstore : w.store.Distinct)
    (h : triples.Pairwise w.Before) : triples.Nodup := by
  refine h.imp ?_
  rintro a _ hbefore rfl
  exact hbefore.asymm hstore hbefore

end Workspace

/-! ## 3. What a walk comes to -/

namespace Walk

/-- The response that an outcome is for. -/
def site : Except ResponseFailure ResponseMock → ResponseSite
  | .ok mock => mock.site
  | .error failure => failure.site

/-- What the outcomes of a walk are for. -/
def triples (walk : Walk) : List (String × String × String) :=
  walk.outcomes.map fun outcome => (site outcome).triple

end Walk

namespace Workspace

variable {w : Workspace}

variable {resolver : SchemaResolver}

/-- What can be seen of a finding. -/
def seen (w : Workspace) (resolver : SchemaResolver) : Finding → List Event
  | .dangling reference documentKey => [.unresolved reference documentKey]
  | .body body =>
    (w.mock resolver body.documentKey body.placed body.site.operationId body.site.tags).2

/-- What a walk makes of a body. -/
def outcome (w : Workspace) (resolver : SchemaResolver) (body : ResponseBody) :
    Except ResponseFailure ResponseMock :=
  match (w.mock resolver body.documentKey body.placed body.site.operationId body.site.tags).1 with
  | .ok m => .ok ⟨body.site, body.mediaType, m.mock, m.imports⟩
  | .error fault => .error ⟨body.site, fault⟩

/-- **What a walk makes of a body is what the body comes to.** -/
theorem answers_outcome (w : Workspace) (resolver : SchemaResolver) (body : ResponseBody) :
    w.Answers resolver body (w.outcome resolver body) := by
  obtain ⟨name, hname⟩ := body.exists_nameOf
  rw [outcome, ResponseBody.placed_eq hname]
  split
  · next m h => exact .mock hname h
  · next fault h => exact .failure hname h

theorem visit_eq (w : Workspace) (resolver : SchemaResolver) (walk : Walk) (finding : Finding) :
    w.visit resolver walk finding
      = ⟨walk.outcomes ++ finding.body?.toList.map (w.outcome resolver),
          walk.events ++ w.seen resolver finding⟩ := by
  cases finding with
  | dangling reference documentKey => simp [visit, Finding.body?, seen]
  | body body => rfl

theorem foldl_visit_eq (w : Workspace) (resolver : SchemaResolver) (findings : List Finding) :
    ∀ walk : Walk, findings.foldl (w.visit resolver) walk
      = ⟨walk.outcomes ++ (findings.filterMap Finding.body?).map (w.outcome resolver),
          walk.events ++ findings.flatMap (w.seen resolver)⟩ := by
  induction findings with
  | nil => simp
  | cons finding rest ih =>
    intro walk
    rw [List.foldl_cons, ih, visit_eq]
    cases h : finding.body? <;> simp [h]

/-- **A walk comes to what its bodies come to**, one by one. -/
theorem outcomes_walk (w : Workspace) (resolver : SchemaResolver) :
    (w.walk resolver).outcomes = w.bodies.map (w.outcome resolver) := by
  rw [walk, foldl_visit_eq, bodies, List.nil_append]

/-- All that can be seen of a walk is what can be seen of its findings. -/
theorem events_walk (w : Workspace) (resolver : SchemaResolver) :
    (w.walk resolver).events = w.findings.flatMap (w.seen resolver) := by
  rw [walk, foldl_visit_eq]
  rfl

theorem site_outcome (w : Workspace) (resolver : SchemaResolver) (body : ResponseBody) :
    Walk.site (w.outcome resolver body) = body.site := by
  rw [outcome]
  split <;> rfl

end Workspace

/-! ## 4. Mocks and failures -/

/-- Outcomes taken apart: every outcome is on one side, and both sides keep their order. -/
inductive TakenApart {α ε : Type} : List (Except ε α) → List α → List ε → Prop
  | nil : TakenApart [] [] []
  | ok {outcomes : List (Except ε α)} {mocks : List α} {failures : List ε} (mock : α)
      (h : TakenApart outcomes mocks failures) :
      TakenApart (.ok mock :: outcomes) (mock :: mocks) failures
  | error {outcomes : List (Except ε α)} {mocks : List α} {failures : List ε} (failure : ε)
      (h : TakenApart outcomes mocks failures) :
      TakenApart (.error failure :: outcomes) mocks (failure :: failures)

namespace Walk

/-- The mocks of a walk and its failures are its outcomes taken apart. -/
theorem takenApart (walk : Walk) : TakenApart walk.outcomes walk.mocks walk.failures := by
  obtain ⟨outcomes, events⟩ := walk
  simp only [mocks, failures]
  induction outcomes with
  | nil => exact .nil
  | cons outcome rest ih =>
    cases outcome with
    | ok mock => exact .ok mock ih
    | error failure => exact .error failure ih

/-- **Asked for all mocks**, a walk without failures answers with its mocks, and another one with
the fault of its first failure. -/
theorem all_eq (walk : Walk) :
    walk.all = match walk.failures with
      | [] => .ok walk.mocks
      | failure :: _ => .error failure.fault := by
  have h := walk.takenApart
  rw [all]
  generalize walk.outcomes = outcomes at h ⊢
  generalize walk.mocks = mocks at h ⊢
  generalize walk.failures = failures at h ⊢
  induction h with
  | nil => rfl
  | error failure _ _ => rfl
  | @ok outcomes mocks failures mock _ ih =>
    rw [List.mapM_cons, ih]
    cases failures with
    | nil => rfl
    | cons failure rest => rfl

end Walk

/-- **A walk is exact.**  There is a list of the bodies that are to be mocked, and of nothing else,
and a walk has one outcome for each of them, which is that of the body by itself: the mock of its
schema, made from nothing in the document where the body stands, with the identifier and the tags
that its operation tells.  The outcomes are in the order of routes, methods and statuses, and no two
are for the same response if no object of the documents names a member twice.  The mocks and the
failures are the outcomes taken apart; asked for all mocks, the walk answers with the mocks or with
the first failure. -/
theorem walks_are_exact (w : Workspace) (resolver : SchemaResolver) :
    (∃ bodies : List ResponseBody, (∀ body, body ∈ bodies ↔ w.HasBody body) ∧
      List.Forall₂ (w.Answers resolver) bodies (w.walk resolver).outcomes ∧
      (w.walk resolver).triples = bodies.map fun body => body.site.triple) ∧
    (w.walk resolver).triples.Pairwise w.Before ∧
    (w.store.Distinct → (w.walk resolver).triples.Nodup) ∧
    Finding.methodsInOrder
      = ["get", "put", "post", "delete", "options", "head", "patch", "trace"] ∧
    TakenApart (w.walk resolver).outcomes (w.walk resolver).mocks (w.walk resolver).failures ∧
    (w.walk resolver).all = match (w.walk resolver).failures with
      | [] => .ok (w.walk resolver).mocks
      | failure :: _ => .error failure.fault := by
  have htriples : (w.walk resolver).triples = w.bodies.map fun body => body.site.triple := by
    rw [Walk.triples, w.outcomes_walk, List.map_map]
    exact List.map_congr_left fun body _ => congrArg _ (w.site_outcome resolver body)
  have horder : (w.walk resolver).triples.Pairwise w.Before := htriples ▸ w.pairwise_bodies
  have hanswers : List.Forall₂ (w.Answers resolver) w.bodies (w.walk resolver).outcomes := by
    rw [w.outcomes_walk, List.forall₂_map_right_iff, List.forall₂_same]
    exact fun body _ => w.answers_outcome resolver body
  refine ⟨⟨w.bodies, fun _ => Workspace.mem_bodies_iff, hanswers, htriples⟩, horder,
    fun hstore => Workspace.nodup_of_pairwise hstore horder, rfl, Walk.takenApart _, Walk.all_eq _⟩

/-- The root document of a kennel: one route stands in another document, and one is written here. -/
def kennelDocument : Json :=
  .obj [("paths", .obj [("/dogs", referenceNode "shared.json#/dogs"),
    ("/bark", .obj [("post", .obj [("responses", .obj [("404", referenceNode "#/none"),
      ("default", .obj [("content", .obj [("text/plain", .null),
        ("application/json", .obj [("schema", .obj [("type", .str "string")])])])])])])])])]

/-- What the kennel shares: a route, a response, and a schema that leads back to itself. -/
def sharedDocument : Json :=
  .obj [("dogs", .obj [("put", .obj [("operationId", .str "keepDog"),
        ("tags", .arr [.str "pets", .null, .str "dogs"]),
        ("responses", .obj [("200", .obj [("content",
          .obj [("json", .obj [("schema", .obj [("type", .str "boolean")])])])])])]),
      ("get", .obj [("responses", .obj [("2XX", referenceNode "#/found")])])]),
    ("found", .obj [("content", .obj [("json", .obj [("schema", referenceNode "#/Loop")])])]),
    ("Loop", .obj [("allOf", .arr [referenceNode "#/Loop"])])]

/-- The kennel at hand, with a rule for what is tagged as dogs. -/
def kennelWorkspace : Workspace where
  store := .ofList [("api.json", kennelDocument), ("shared.json", sharedDocument)]
  root := "api.json"
  settings := ⟨⟨[], [], [("dogs", [⟨"KeepDogResponse200", none, "kept"⟩])]⟩, .empty, false, 0, 1,
    false⟩
  hasRoot := rfl

theorem walks_are_exact_kennel :
    (kennelWorkspace.walk mockResolver).outcomes.map Walk.site
        = [⟨"getDogs", [], "get", "/dogs", "2XX"⟩,
          ⟨"keepDog", ["pets", "dogs"], "put", "/dogs", "200"⟩,
          ⟨"postBark", [], "post", "/bark", "default"⟩] ∧
      (kennelWorkspace.walk mockResolver).triples.Nodup ∧
      (kennelWorkspace.walk mockResolver).mocks.map
          (fun made => (made.mock.name, made.mock.expression.render, made.mock.overridden))
        = [("KeepDogResponse200", "kept", true),
          ("PostBarkResponseDefault", "faker.word.sample()", false)] ∧
      (kennelWorkspace.walk mockResolver).all = .error (.cyclic "shared.json#/Loop"
        ["shared.json#/Loop", "shared.json#/Loop"]) := by
  have hstore : kennelWorkspace.store.Distinct := by
    refine .ofList (List.forall_mem_cons.mpr ⟨?_, List.forall_mem_singleton.mpr ?_⟩)
    · simp [kennelDocument, referenceNode, Json.Distinct, Json.DistinctMembers, Entries.keys]
    · simp [sharedDocument, referenceNode, Json.Distinct, Json.DistinctMembers,
        Json.DistinctItems, Entries.keys]
  obtain ⟨-, -, hnodup, -, -, hall⟩ := walks_are_exact kennelWorkspace mockResolver
  exact ⟨rfl, hnodup hstore, rfl, hall⟩

end SchemaMock
