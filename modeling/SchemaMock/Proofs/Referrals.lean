/-
# Referrals

A route or a response may be written elsewhere: in its place stands a reference.  Where the
reference leads there may stand a reference again, and so on; the places that are passed and the one
where this ends are said by `Located.ComesTo`.

A walk does not go to the end.  It goes one step, and reads what stands there
(`ComesTo.target_eq`).  With one reference that is the end; with more of them it is a reference
again, which has nothing to be read, so what stands at the end is lost (`ComesTo.readThrough_iff`).
It is lost without a report, because every single reference leads to something.
-/
import SchemaMock.Proofs.Walks

namespace SchemaMock

/-! ## 1. Ways along references -/

/-- From a place one comes along references, by way of the places `passed`, to the place `last`,
where no reference is. -/
inductive Located.ComesTo (store : DocumentStore) : Located → (passed : List Located) →
    (last : Located) → Prop
  | ends {place : Located} (hinline : ∀ text, place.value.get? "$ref" ≠ some (.str text)) :
      ComesTo store place [] place
  | goesOn {place last : Located} {passed : List Located} {text : String} {value : Json}
      (href : place.value.get? "$ref" = some (.str text))
      (hat : store.at? (Target.told text place.documentKey).documentKey
        (Target.told text place.documentKey).segments = some value)
      (h : ComesTo store ⟨(Target.told text place.documentKey).documentKey, value⟩ passed last) :
      ComesTo store place (place :: passed) last

namespace Located

/-- There is a reference in this place and nothing beside it. -/
def IsReferral (place : Located) : Prop := ∃ text, place.value = .obj [("$ref", .str text)]

/-- What is read of a place by way of what it stands for. -/
def readThrough (store : DocumentStore) (read : Located → List Finding) (place : Located) :
    List Finding :=
  (place.target store).1 ++ read (place.target store).2

variable {store : DocumentStore} {place last : Located} {passed : List Located}

theorem ComesTo.head_eq (h : ComesTo store place passed last) :
    passed.headD last = place := by
  cases h with
  | ends => rfl
  | goesOn => rfl

/-- **What a place stands for is one step on the way.** -/
theorem ComesTo.target_eq (h : ComesTo store place passed last) :
    place.target store = ([], passed.tail.headD last) := by
  cases h with
  | ends hinline => exact target_of_inline hinline
  | goesOn href hat h => rw [target_of_some href hat, List.tail_cons, h.head_eq]

theorem ComesTo.readThrough_eq (h : ComesTo store place passed last)
    (read : Located → List Finding) :
    readThrough store read place = read (passed.tail.headD last) := by
  rw [readThrough, h.target_eq, List.nil_append]

/-- **What stands at the end is read exactly if it is not further than one step**, or there is
nothing to be read: of a mere reference, nothing is. -/
theorem ComesTo.readThrough_iff {α : Type} (h : ComesTo store place passed last)
    {read : Located → List Finding} (view : List Finding → List α) (hview : view [] = [])
    (hread : ∀ place : Located, place.IsReferral → read place = [])
    (hreferrals : ∀ place ∈ passed, place.IsReferral) :
    view (readThrough store read place) = view (read last) ↔
      passed.length ≤ 1 ∨ view (read last) = [] := by
  rw [h.readThrough_eq]
  match passed with
  | [] | [_] => simp
  | _ :: second :: rest =>
    have hnone : read second = [] :=
      hread second (hreferrals second (List.mem_cons_of_mem _ List.mem_cons_self))
    simp only [List.tail_cons, List.headD_cons, hnone, hview, List.length_cons]
    constructor
    · exact fun hlost => .inr hlost.symm
    · rintro (hnear | hlost)
      · omega
      · exact hlost.symm

end Located

/-! ## 2. What is read -/

namespace Finding

/-- What is found at a route, if it is written in this place. -/
def ofItem (store : DocumentStore) (route : String) (place : Located) : List Finding :=
  methodsInOrder.flatMap fun method =>
    match place.value.get? method with
    | some operation => ofOperation store place.documentKey route method operation
    | none => []

/-- What is found at a response of success, if it is written in this place. -/
def ofBody (site : ResponseSite) (place : Located) : List Finding :=
  match firstJson? place.value with
  | some (mediaType, schema) => [.body ⟨site, mediaType, place.documentKey, schema⟩]
  | none => []

variable {store : DocumentStore}

theorem ofRoute_eq (documentKey route : String) (item : Json) :
    ofRoute store documentKey route item
      = Located.readThrough store (ofItem store route) ⟨documentKey, item⟩ := rfl

theorem ofResponse_eq {site : ResponseSite} (hsuccess : isSuccess site.status = true)
    (documentKey : String) (response : Json) :
    ofResponse store documentKey site response
      = Located.readThrough store (ofBody site) ⟨documentKey, response⟩ := by
  rw [ofResponse, if_pos hsuccess, Located.readThrough]
  dsimp only
  split
  · next mediaType schema hjson => simp only [ofBody, hjson]
  · next hjson => simp only [ofBody, hjson, List.append_nil]

/-- A mere reference has no methods. -/
theorem ofItem_referral {place : Located} (h : place.IsReferral) (route : String) :
    ofItem store route place = [] := by
  obtain ⟨text, hvalue⟩ := h
  refine List.flatMap_eq_nil_iff.mpr fun method hmethod => ?_
  have hne : "$ref" ≠ method := by
    rintro rfl
    exact absurd hmethod (by decide)
  have hget : place.value.get? method = none := by
    rw [hvalue]
    exact if_neg hne
  rw [hget]

/-- A mere reference has no content. -/
theorem ofBody_referral {place : Located} (h : place.IsReferral) (site : ResponseSite) :
    ofBody site place = [] := by
  obtain ⟨text, hvalue⟩ := h
  have hjson : firstJson? place.value = none := by
    rw [hvalue]
    rfl
  simp only [ofBody, hjson]

end Finding

/-! ## 3. What a walk makes of it -/

namespace Workspace

/-- The routes of the root document, as they are written there. -/
def routes (w : Workspace) : Entries Json :=
  ((w.store.get? w.root).bind fun d => (d.get? "paths").bind Json.members?).getD []

/-- What the bodies among some findings come to. -/
def outcomesOf (w : Workspace) (resolver : SchemaResolver) (found : List Finding) :
    List (Except ResponseFailure ResponseMock) :=
  (found.filterMap Finding.body?).map (w.outcome resolver)

/-- A walk comes to what is found at its routes, one after another. -/
theorem outcomes_walk_routes (w : Workspace) (resolver : SchemaResolver) :
    (w.walk resolver).outcomes
      = w.routes.flatMap fun e =>
          w.outcomesOf resolver (Finding.ofRoute w.store w.root e.1 e.2) := by
  have hfindings : w.findings
      = w.routes.flatMap fun e => Finding.ofRoute w.store w.root e.1 e.2 := rfl
  rw [outcomes_walk, bodies, hfindings, List.filterMap_flatMap, List.map_flatMap]
  rfl

end Workspace

/-- What is found by way of references, read with `read` where nothing is a reference. -/
structure FollowedOnce (w : Workspace) (resolver : SchemaResolver) (read : Located → List Finding)
    (found : List Finding) (passed : List Located) (last : Located) : Prop where
  /-- It is read one step on the way. -/
  step : found = read (passed.tail.headD last)
  /-- One reference is followed to the end. -/
  near : passed.length ≤ 1 → found = read last
  /-- Behind more of them, all that would be mocked at the end is lost. -/
  far : (∀ place ∈ passed, place.IsReferral) →
    (w.outcomesOf resolver found = w.outcomesOf resolver (read last) ↔
      passed.length ≤ 1 ∨ w.outcomesOf resolver (read last) = [])

theorem Located.ComesTo.followedOnce {w : Workspace} {place last : Located} {passed : List Located}
    (h : place.ComesTo w.store passed last) (resolver : SchemaResolver)
    {read : Located → List Finding}
    (hread : ∀ place : Located, place.IsReferral → read place = []) :
    FollowedOnce w resolver read (place.readThrough w.store read) passed last where
  step := h.readThrough_eq read
  near := by
    intro hnear
    rw [h.readThrough_eq]
    match passed with
    | [] | [_] => rfl
  far := h.readThrough_iff (w.outcomesOf resolver) rfl hread

/-- **References in the place of routes and of responses are followed once.**  A walk comes to what
is found at its routes.  What is found at a route or at a response of success that is written
elsewhere is what is read one step on the way there.  So a single reference is as good as what it
leads to, in the document where that stands, and behind a longer chain of mere references nothing
that would be mocked there is found. -/
theorem referrals_are_followed_once (w : Workspace) (resolver : SchemaResolver) :
    (w.walk resolver).outcomes
        = (w.routes.flatMap fun e =>
            w.outcomesOf resolver (Finding.ofRoute w.store w.root e.1 e.2)) ∧
      ∀ place passed last, Located.ComesTo w.store place passed last →
        (∀ route, FollowedOnce w resolver (Finding.ofItem w.store route)
          (Finding.ofRoute w.store place.documentKey route place.value) passed last) ∧
        ∀ site, Finding.isSuccess site.status = true →
          FollowedOnce w resolver (Finding.ofBody site)
            (Finding.ofResponse w.store place.documentKey site place.value) passed last := by
  refine ⟨w.outcomes_walk_routes resolver, fun place passed last h => ⟨fun route => ?_, ?_⟩⟩
  · rw [Finding.ofRoute_eq]
    exact h.followedOnce resolver fun _ hreferral => Finding.ofItem_referral hreferral route
  · intro site hsuccess
    rw [Finding.ofResponse_eq hsuccess]
    exact h.followedOnce resolver fun _ hreferral => Finding.ofBody_referral hreferral site

/-- A document with an operation whose response is a reference to a reference to a list. -/
def petsDocument : Json :=
  .obj [("paths", .obj [("/pets", .obj [("get", .obj [("operationId", .str "listPets"),
      ("responses", .obj [("200", referenceNode "#/components/responses/Pets")])])])]),
    ("components", .obj [("responses", .obj [
      ("Pets", referenceNode "#/components/responses/PetList"),
      ("PetList", .obj [("content", .obj [("application/json", .obj [("schema",
        .obj [("type", .str "integer")])])])])])])]

/-- The pets document at hand. -/
def petsWorkspace : Workspace where
  store := .ofList [("api.json", petsDocument)]
  root := "api.json"
  settings := ⟨⟨[], [], []⟩, .empty, false, 0, 1, false⟩
  hasRoot := rfl

/-- The response of the operation. -/
def petsSite : ResponseSite := ⟨"listPets", [], "get", "/pets", "200"⟩

/-- A reference to a response of the pets document, in the place of a response. -/
def petsReferral (name : String) : Located :=
  ⟨"api.json", referenceNode ("#/components/responses/" ++ name)⟩

/-- The list, where it is written. -/
def petList : Located :=
  ⟨"api.json", .obj [("content", .obj [("application/json", .obj [("schema",
    .obj [("type", .str "integer")])])])]⟩

theorem petList_comesTo : petList.ComesTo petsWorkspace.store [] petList :=
  .ends fun _ => nofun

theorem petsReferral_comesTo_list :
    (petsReferral "PetList").ComesTo petsWorkspace.store [petsReferral "PetList"] petList :=
  .goesOn rfl rfl petList_comesTo

theorem petsReferral_comesTo_referral :
    (petsReferral "Pets").ComesTo petsWorkspace.store
      [petsReferral "Pets", petsReferral "PetList"] petList :=
  .goesOn rfl rfl petsReferral_comesTo_list

/-- One reference to the list is as good as the list, and a reference to that one is not. -/
theorem referrals_are_followed_once_pets :
    Finding.ofResponse petsWorkspace.store "api.json" petsSite (petsReferral "PetList").value
        = Finding.ofBody petsSite petList ∧
      petsWorkspace.outcomesOf mockResolver (Finding.ofResponse petsWorkspace.store "api.json"
          petsSite (petsReferral "Pets").value)
        ≠ petsWorkspace.outcomesOf mockResolver (Finding.ofBody petsSite petList) := by
  obtain ⟨-, hfollowed⟩ := referrals_are_followed_once petsWorkspace mockResolver
  have hnear := ((hfollowed _ _ _ petsReferral_comesTo_list).2 petsSite rfl).near
  have hfar := ((hfollowed _ _ _ petsReferral_comesTo_referral).2 petsSite rfl).far
  have hreferrals : ∀ place ∈ [petsReferral "Pets", petsReferral "PetList"],
      place.IsReferral :=
    List.forall_mem_cons.mpr ⟨⟨_, rfl⟩, List.forall_mem_singleton.mpr ⟨_, rfl⟩⟩
  refine ⟨hnear (Nat.le_refl 1), fun hsame => ?_⟩
  rcases (hfar hreferrals).mp hsame with hlength | hnone
  · exact absurd hlength (by decide)
  · cases hnone

/-- **A response that is a reference to a reference is lost**: what it comes to would be mocked, and
the walk has neither a mock nor a failure nor a report of it. -/
theorem referral_to_referral_is_lost :
    (petsReferral "Pets").ComesTo petsWorkspace.store
        [petsReferral "Pets", petsReferral "PetList"] petList ∧
      petsWorkspace.outcomesOf mockResolver (Finding.ofBody petsSite petList) ≠ [] ∧
      petsWorkspace.walk mockResolver = ⟨[], []⟩ :=
  ⟨petsReferral_comesTo_referral, List.cons_ne_nil _ _, rfl⟩

end SchemaMock
