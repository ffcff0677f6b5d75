/-
# What a walk comes to

A walk over a document finds the bodies of responses, in three loops with a reference to be followed
in two of them.  What it is to find is said here without loops.

* `Workspace.HasBody` says that the root document, at a route, a method and a status, has a body
  that is to be mocked, and where it stands.  A reference in the place of a route or of a response
  stands for what it leads to, by one step (`Located.StandsFor`).
* The identifier and the tags of an operation are what it tells (`IdentifierOf`, `TagsOf`), and a
  body has a name of its own unless it is a reference (`ResponseBody.NameOf`).
* `Workspace.Before` is the order: routes as the root document has them, then methods in their fixed
  order, then statuses as the operation has them.

A walk has one outcome for each body, in that order, and an outcome depends on its body alone: it is
what `Workspace.Answers` says.
-/
import SchemaMock.Proofs.Lookup
import SchemaMock.Proofs.Names
import SchemaMock.Responses

namespace SchemaMock

/-! ## 1. Questions to nodes -/

namespace Json

variable {found : Option Json}

theorem bind_text?_eq_some_iff {text : String} :
    found.bind text? = some text ↔ found = some (.str text) := by
  constructor
  · intro h
    obtain ⟨node, rfl, htext⟩ := Option.bind_eq_some_iff.mp h
    cases node with
    | str s =>
      cases htext
      rfl
    | null | bool | num | arr | obj => cases htext
  · rintro rfl
    rfl

theorem bind_items?_eq_some_iff {items : List Json} :
    found.bind items? = some items ↔ found = some (.arr items) := by
  constructor
  · intro h
    obtain ⟨node, rfl, hitems⟩ := Option.bind_eq_some_iff.mp h
    cases node with
    | arr nodes =>
      cases hitems
      rfl
    | null | bool | num | str | obj => cases hitems
  · rintro rfl
    rfl

theorem bind_members?_eq_some_iff {members : Entries Json} :
    found.bind members? = some members ↔ found = some (.obj members) := by
  constructor
  · intro h
    obtain ⟨node, rfl, hmembers⟩ := Option.bind_eq_some_iff.mp h
    cases node with
    | obj entries =>
      cases hmembers
      rfl
    | null | bool | num | arr | str => cases hmembers
  · rintro rfl
    rfl

/-- Where there is no object there are no members. -/
theorem mem_members_getD_iff {e : String × Json} :
    e ∈ (found.bind members?).getD [] ↔ ∃ members, found = some (.obj members) ∧ e ∈ members := by
  cases h : found.bind members? with
  | none =>
    simp only [Option.getD_none, List.not_mem_nil, false_iff]
    rintro ⟨members, hfound, -⟩
    rw [bind_members?_eq_some_iff.mpr hfound] at h
    cases h
  | some members =>
    have hfound := bind_members?_eq_some_iff.mp h
    constructor
    · exact fun he => ⟨members, hfound, he⟩
    · rintro ⟨members', hfound', he⟩
      rw [hfound] at hfound'
      cases hfound'
      exact he

end Json

theorem Text.occursIn_iff {piece : List Char} : ∀ {cs : List Char},
    Text.occursIn piece cs = true ↔ piece <:+: cs
  | [] => by simp [Text.occursIn]
  | c :: rest => by
    have hstart : (Text.after? piece (c :: rest)).isSome = true ↔ piece <+: c :: rest := by
      rw [Option.isSome_iff_exists]
      simp only [Text.after?_eq_some_iff]
      exact ⟨fun ⟨behind, h⟩ => ⟨behind, h.symm⟩, fun ⟨behind, h⟩ => ⟨behind, h.symm⟩⟩
    rw [Text.occursIn, Bool.or_eq_true, hstart, Text.occursIn_iff, List.infix_cons_iff]

/-! ## 2. What is to be found -/

/-- What a node in the place of a route or a response stands for: itself, or what the reference
leads to that it is.  A reference that leads to nothing stands for itself. -/
inductive Located.StandsFor (store : DocumentStore) (place : Located) : Located → Prop
  | itself (hinline : ∀ text, place.value.get? "$ref" ≠ some (.str text)) :
      StandsFor store place place
  | target {text : String} {value : Json} (href : place.value.get? "$ref" = some (.str text))
      (hat : store.at? (Target.told text place.documentKey).documentKey
        (Target.told text place.documentKey).segments = some value) :
      StandsFor store place ⟨(Target.told text place.documentKey).documentKey, value⟩
  | nowhere {text : String} (href : place.value.get? "$ref" = some (.str text))
      (hat : store.at? (Target.told text place.documentKey).documentKey
        (Target.told text place.documentKey).segments = none) :
      StandsFor store place place

/-- The texts among some nodes, in order. -/
inductive TextsOf : List Json → List String → Prop
  | nil : TextsOf [] []
  | text {items : List Json} {texts : List String} (text : String) (h : TextsOf items texts) :
      TextsOf (.str text :: items) (text :: texts)
  | other {items : List Json} {texts : List String} {item : Json}
      (hitem : ∀ text, item ≠ .str text) (h : TextsOf items texts) : TextsOf (item :: items) texts

/-- The identifier of an operation: what it tells, or else the words of its method and its route. -/
inductive IdentifierOf (method route : String) (operation : Json) : String → Prop
  | told {text : String} (h : operation.get? "operationId" = some (.str text)) :
      IdentifierOf method route operation text
  | untold (h : ∀ text, operation.get? "operationId" ≠ some (.str text)) :
      IdentifierOf method route operation (Text.lowerCamel (method ++ " " ++ route))

/-- The tags of an operation: the texts in the list that it tells. -/
inductive TagsOf (operation : Json) : List String → Prop
  | told {items : List Json} {tags : List String} (h : operation.get? "tags" = some (.arr items))
      (htags : TextsOf items tags) : TagsOf operation tags
  | untold (h : ∀ items, operation.get? "tags" ≠ some (.arr items)) : TagsOf operation []

/-- The name of the body of a response: that of its operation and its status, unless the body is a
reference, which has a name already. -/
inductive ResponseBody.NameOf (body : ResponseBody) : String → Prop
  | reference {target : Json} (h : body.schema.get? "$ref" = some target) : NameOf body ""
  | inline (h : body.schema.get? "$ref" = none) :
      NameOf body
        (Text.upperCamel body.site.operationId ++ "Response" ++ Text.upperCamel body.site.status)

/-- What tells a response from others. -/
def ResponseSite.triple (site : ResponseSite) : String × String × String :=
  (site.route, site.method, site.status)

/-- The first of several media types that is JSON. -/
def IsFirstJson (content : Entries Json) (mediaType : String) (media : Json) : Prop :=
  ∃ before behind, content = before ++ (mediaType, media) :: behind ∧
    "json".toList <:+: mediaType.toList ∧ ∀ e ∈ before, ¬ "json".toList <:+: e.1.toList

namespace Workspace

/-- The routes of the root document. -/
inductive HasRoutes (w : Workspace) (paths : Entries Json) : Prop
  | mk {root : Json} (hroot : w.store.get? w.root = some root)
      (hpaths : root.get? "paths" = some (.obj paths))

/-- An operation of the root document, which stands in the document of a key. -/
inductive HasOperation (w : Workspace) (route method documentKey : String) (operation : Json) : Prop
  | mk {paths : Entries Json} {item value : Json} (hpaths : w.HasRoutes paths)
      (hitem : (route, item) ∈ paths)
      (hplace : Located.StandsFor w.store ⟨w.root, item⟩ ⟨documentKey, value⟩)
      (hmethod : method ∈ Finding.methodsInOrder) (hoperation : value.get? method = some operation)

/-- A body that is to be mocked: that of a response of success which has a schema for its first
media type that is JSON. -/
inductive HasBody (w : Workspace) : ResponseBody → Prop
  | mk {route method status operationKey documentKey mediaType : String}
      {operation response value media schema : Json} {responses content : Entries Json}
      {operationId : String} {tags : List String}
      (hoperation : w.HasOperation route method operationKey operation)
      (hid : IdentifierOf method route operation operationId) (htags : TagsOf operation tags)
      (hresponses : operation.get? "responses" = some (.obj responses))
      (hresponse : (status, response) ∈ responses)
      (hsuccess : ['2'] <+: status.toList ∨ status = "default")
      (hplace : Located.StandsFor w.store ⟨operationKey, response⟩ ⟨documentKey, value⟩)
      (hcontent : value.get? "content" = some (.obj content))
      (hmedia : IsFirstJson content mediaType media)
      (hschema : media.get? "schema" = some schema) :
      HasBody w ⟨⟨operationId, tags, method, route, status⟩, mediaType, documentKey, schema⟩

/-- The order of responses, each told by its route, its method and its status. -/
inductive Before (w : Workspace) : String × String × String → String × String × String → Prop
  | route {paths : Entries Json} {route method status route' method' status' : String}
      (hpaths : w.HasRoutes paths) (h : [route, route'].Sublist (Entries.keys paths)) :
      Before w (route, method, status) (route', method', status')
  | method {route method status method' status' : String}
      (h : [method, method'].Sublist Finding.methodsInOrder) :
      Before w (route, method, status) (route, method', status')
  | status {route method status status' documentKey : String} {operation : Json}
      {responses : Entries Json} (hoperation : w.HasOperation route method documentKey operation)
      (hresponses : operation.get? "responses" = some (.obj responses))
      (h : [status, status'].Sublist (Entries.keys responses)) :
      Before w (route, method, status) (route, method, status')

/-- What a body comes to: the mock of its schema, under its name, in the document where it stands,
made for its operation with the tags of that, from nothing. -/
inductive Answers (w : Workspace) (resolver : SchemaResolver) (body : ResponseBody) :
    Except ResponseFailure ResponseMock → Prop
  | mock {name : String} {m : CompleteMock} (hname : body.NameOf name)
      (h : (w.mock resolver body.documentKey (.ofJson body.schema ⟨name, none⟩)
        body.site.operationId body.site.tags).1 = .ok m) :
      Answers w resolver body (.ok ⟨body.site, body.mediaType, m.mock, m.imports⟩)
  | failure {name : String} {fault : MockFault} (hname : body.NameOf name)
      (h : (w.mock resolver body.documentKey (.ofJson body.schema ⟨name, none⟩)
        body.site.operationId body.site.tags).1 = .error fault) :
      Answers w resolver body (.error ⟨body.site, fault⟩)

end Workspace

/-! ## 3. What is found -/

/-- The texts among some nodes are picked out. -/
theorem textsOf_iff {items : List Json} {texts : List String} :
    TextsOf items texts ↔ items.filterMap Json.text? = texts := by
  have hpicked : ∀ items : List Json, TextsOf items (items.filterMap Json.text?) := by
    intro items
    induction items with
    | nil => exact .nil
    | cons item rest ih =>
      cases item with
      | str text => exact .text text ih
      | null | bool | num | arr | obj => exact .other nofun ih
  constructor
  · intro h
    induction h with
    | nil => rfl
    | text text _ ih => exact congrArg (text :: ·) ih
    | @other items texts item hitem _ ih =>
      cases item with
      | str text => exact absurd rfl (hitem text)
      | null | bool | num | arr | obj => exact ih
  · rintro rfl
    exact hpicked items

namespace Finding

theorem identifierOf_iff {method route operationId' : String} {operation : Json} :
    IdentifierOf method route operation operationId'
      ↔ operationId method route operation = operationId' := by
  rw [operationId]
  cases h : (operation.get? "operationId").bind Json.text? with
  | some text =>
    have htext := Json.bind_text?_eq_some_iff.mp h
    constructor
    · rintro (htext' | hnone)
      · exact Json.str.inj (Option.some.inj (htext.symm.trans htext'))
      · exact absurd htext (hnone text)
    · rintro rfl
      exact .told htext
  | none =>
    have hnone : ∀ text, operation.get? "operationId" ≠ some (.str text) := fun text htext => by
      rw [Json.bind_text?_eq_some_iff.mpr htext] at h
      cases h
    constructor
    · rintro (htext | -)
      · exact absurd htext (hnone _)
      · rfl
    · rintro rfl
      exact .untold hnone

theorem tagsOf_iff {operation : Json} {tags : List String} :
    TagsOf operation tags ↔ operationTags operation = tags := by
  rw [operationTags]
  cases h : (operation.get? "tags").bind Json.items? with
  | some items =>
    have hitems := Json.bind_items?_eq_some_iff.mp h
    constructor
    · rintro (⟨hitems', htags⟩ | hnone)
      · cases hitems.symm.trans hitems'
        exact textsOf_iff.mp htags
      · exact absurd hitems (hnone items)
    · exact fun htags => .told hitems (textsOf_iff.mpr htags)
  | none =>
    have hnone : ∀ items, operation.get? "tags" ≠ some (.arr items) := fun items hitems => by
      rw [Json.bind_items?_eq_some_iff.mpr hitems] at h
      cases h
    constructor
    · rintro (⟨hitems, -⟩ | -)
      · exact absurd hitems (hnone _)
      · rfl
    · rintro rfl
      exact .untold hnone

end Finding

/-- A body is mocked under its name. -/
theorem ResponseBody.placed_eq {body : ResponseBody} {name : String} (h : body.NameOf name) :
    body.placed = .ofJson body.schema ⟨name, none⟩ := by
  cases h with
  | reference h => simp [placed, h]
  | inline h => simp [placed, h]

theorem ResponseBody.exists_nameOf (body : ResponseBody) : ∃ name, body.NameOf name := by
  cases h : body.schema.get? "$ref" with
  | none => exact ⟨_, .inline h⟩
  | some target => exact ⟨_, .reference h⟩

namespace Located

variable {store : DocumentStore} {place other : Located} {text : String}

theorem target_of_inline (hinline : ∀ text, place.value.get? "$ref" ≠ some (.str text)) :
    place.target store = ([], place) := by
  have href : (place.value.get? "$ref").bind Json.text? = none := by
    by_contra h
    obtain ⟨text, htext⟩ := Option.ne_none_iff_exists'.mp h
    exact hinline text (Json.bind_text?_eq_some_iff.mp htext)
  rw [target, href]

theorem target_of_some {value : Json} (href : place.value.get? "$ref" = some (.str text))
    (hat : store.at? (Target.told text place.documentKey).documentKey
      (Target.told text place.documentKey).segments = some value) :
    place.target store = ([], ⟨(Target.told text place.documentKey).documentKey, value⟩) := by
  simp only [Target.told] at hat
  simp only [target, Json.bind_text?_eq_some_iff.mpr href, hat]
  rfl

theorem target_of_none (href : place.value.get? "$ref" = some (.str text))
    (hat : store.at? (Target.told text place.documentKey).documentKey
      (Target.told text place.documentKey).segments = none) :
    place.target store
      = ([.dangling text (Target.told text place.documentKey).documentKey], place) := by
  simp only [Target.told] at hat
  simp only [target, Json.bind_text?_eq_some_iff.mpr href, hat]
  rfl

/-- Every node stands for something. -/
theorem exists_standsFor (store : DocumentStore) (place : Located) :
    ∃ other, place.StandsFor store other := by
  by_cases hinline : ∀ text, place.value.get? "$ref" ≠ some (.str text)
  · exact ⟨place, .itself hinline⟩
  · obtain ⟨text, href⟩ := not_forall_not.mp hinline
    cases hat : store.at? (Target.told text place.documentKey).documentKey
        (Target.told text place.documentKey).segments with
    | some value => exact ⟨_, .target href hat⟩
    | none => exact ⟨place, .nowhere href hat⟩

/-- What a node stands for is found. -/
theorem StandsFor.target_eq (h : place.StandsFor store other) : (place.target store).2 = other := by
  cases h with
  | itself hinline => rw [target_of_inline hinline]
  | target href hat => rw [target_of_some href hat]
  | nowhere href hat => rw [target_of_none href hat]

/-- A node stands for what is found. -/
theorem standsFor_target (store : DocumentStore) (place : Located) :
    place.StandsFor store (place.target store).2 := by
  obtain ⟨other, hother⟩ := exists_standsFor store place
  rw [hother.target_eq]
  exact hother

/-- A reference is reported if it leads to nothing, and nothing else is. -/
theorem mem_target_iff {finding : Finding} :
    finding ∈ (place.target store).1 ↔ ∃ text, place.value.get? "$ref" = some (.str text) ∧
      store.at? (Target.told text place.documentKey).documentKey
        (Target.told text place.documentKey).segments = none ∧
      finding = .dangling text (Target.told text place.documentKey).documentKey := by
  constructor
  · intro h
    obtain ⟨other, hother⟩ := exists_standsFor store place
    cases hother with
    | itself hinline =>
      rw [target_of_inline hinline] at h
      exact absurd h List.not_mem_nil
    | target href hat =>
      rw [target_of_some href hat] at h
      exact absurd h List.not_mem_nil
    | nowhere href hat =>
      rw [target_of_none href hat] at h
      exact ⟨_, href, hat, List.mem_singleton.mp h⟩
  · rintro ⟨text, href, hat, rfl⟩
    rw [target_of_none href hat]
    exact List.mem_singleton_self _

end Located

namespace Finding

/-- The first media type that is JSON is found, if it has a schema. -/
theorem firstJson?_eq_some_iff {response schema : Json} {mediaType : String} :
    firstJson? response = some (mediaType, schema) ↔
      ∃ content media, response.get? "content" = some (.obj content) ∧
        IsFirstJson content mediaType media ∧ media.get? "schema" = some schema := by
  have hjson : ∀ {content : Entries Json} {media : Json},
      content.find? (fun e => Text.occursIn "json".toList e.1.toList) = some (mediaType, media) ↔
        IsFirstJson content mediaType media := by
    intro content media
    simp only [List.find?_eq_some_iff_append, IsFirstJson, Text.occursIn_iff, Bool.not_eq_true',
      ← Bool.not_eq_true]
    constructor
    · rintro ⟨hfits, before, behind, heq, hbefore⟩
      exact ⟨before, behind, heq, hfits, hbefore⟩
    · rintro ⟨before, behind, heq, hfits, hbefore⟩
      exact ⟨hfits, before, behind, heq, hbefore⟩
  constructor
  · intro h
    obtain ⟨content, hcontent, h⟩ := Option.bind_eq_some_iff.mp h
    obtain ⟨⟨found, media⟩, hfind, h⟩ := Option.bind_eq_some_iff.mp h
    obtain ⟨told, hschema, h⟩ := Option.bind_eq_some_iff.mp h
    cases h
    exact ⟨content, media, Json.bind_members?_eq_some_iff.mp hcontent, hjson.mp hfind, hschema⟩
  · rintro ⟨content, media, hcontent, hmedia, hschema⟩
    refine Option.bind_eq_some_iff.mpr ⟨content, Json.bind_members?_eq_some_iff.mpr hcontent, ?_⟩
    refine Option.bind_eq_some_iff.mpr ⟨_, hjson.mpr hmedia, ?_⟩
    exact Option.bind_eq_some_iff.mpr ⟨schema, hschema, rfl⟩

theorem isSuccess_iff {status : String} :
    isSuccess status = true ↔ ['2'] <+: status.toList ∨ status = "default" := by
  have hdigit : (status.toList.head? == some '2') = true ↔ ['2'] <+: status.toList := by
    rw [beq_iff_eq]
    cases status.toList with
    | nil => simp
    | cons c rest =>
      rw [List.head?_cons, Option.some.injEq, List.cons_prefix_cons]
      exact ⟨fun h => ⟨h.symm, List.nil_prefix⟩, fun h => h.1.symm⟩
  rw [isSuccess, Bool.or_eq_true, hdigit, beq_iff_eq]

variable {store : DocumentStore} {finding : Finding}

theorem mem_ofResponse_iff {documentKey : String} {site : ResponseSite} {response : Json} :
    finding ∈ ofResponse store documentKey site response ↔
      isSuccess site.status = true ∧
        (finding ∈ (Located.target store ⟨documentKey, response⟩).1 ∨
          ∃ place mediaType schema, Located.StandsFor store ⟨documentKey, response⟩ place ∧
            firstJson? place.value = some (mediaType, schema) ∧
            finding = .body ⟨site, mediaType, place.documentKey, schema⟩) := by
  simp only [ofResponse]
  split
  · next hsuccess =>
    simp only [hsuccess, true_and]
    have hplace := Located.standsFor_target store ⟨documentKey, response⟩
    split
    · next mediaType schema hjson =>
      rw [List.mem_append, List.mem_singleton]
      refine or_congr Iff.rfl ⟨fun h => ⟨_, _, _, hplace, hjson, h⟩, ?_⟩
      rintro ⟨place, mediaType', schema', hplace', hjson', h⟩
      rw [← hplace'.target_eq] at hjson' h
      cases hjson.symm.trans hjson'
      exact h
    · next hjson =>
      refine ⟨Or.inl, ?_⟩
      rintro (h | ⟨place, mediaType, schema, hplace', hjson', -⟩)
      · exact h
      · rw [← hplace'.target_eq] at hjson'
        cases hjson.symm.trans hjson'
  · next hsuccess => simp [hsuccess]

theorem mem_ofOperation_iff {documentKey route method : String} {operation : Json} :
    finding ∈ ofOperation store documentKey route method operation ↔
      ∃ responses status response, operation.get? "responses" = some (.obj responses) ∧
        (status, response) ∈ responses ∧
        finding ∈ ofResponse store documentKey
          ⟨operationId method route operation, operationTags operation, method, route, status⟩
          response := by
  simp only [ofOperation, List.mem_flatMap, Json.mem_members_getD_iff]
  constructor
  · rintro ⟨⟨status, response⟩, ⟨responses, hresponses, hmem⟩, h⟩
    exact ⟨responses, status, response, hresponses, hmem, h⟩
  · rintro ⟨responses, status, response, hresponses, hmem, h⟩
    exact ⟨(status, response), ⟨responses, hresponses, hmem⟩, h⟩

theorem mem_ofRoute_iff {root route : String} {item : Json} :
    finding ∈ ofRoute store root route item ↔
      finding ∈ (Located.target store ⟨root, item⟩).1 ∨
        ∃ place method operation, Located.StandsFor store ⟨root, item⟩ place ∧
          method ∈ methodsInOrder ∧ place.value.get? method = some operation ∧
          finding ∈ ofOperation store place.documentKey route method operation := by
  simp only [ofRoute, List.mem_append, List.mem_flatMap]
  refine or_congr Iff.rfl ⟨?_, ?_⟩
  · rintro ⟨method, hmethod, h⟩
    split at h
    · next operation hoperation =>
      exact ⟨_, method, operation, Located.standsFor_target _ _, hmethod, hoperation, h⟩
    · exact absurd h List.not_mem_nil
  · rintro ⟨place, method, operation, hplace, hmethod, hoperation, h⟩
    rw [← hplace.target_eq] at hoperation h
    refine ⟨method, hmethod, ?_⟩
    rw [hoperation]
    exact h

end Finding

namespace Workspace

variable {w : Workspace} {finding : Finding}

theorem hasRoutes_iff {paths : Entries Json} :
    w.HasRoutes paths ↔
      (w.store.get? w.root).bind (fun d => d.get? "paths") = some (.obj paths) := by
  constructor
  · rintro ⟨hroot, hpaths⟩
    exact Option.bind_eq_some_iff.mpr ⟨_, hroot, hpaths⟩
  · intro h
    obtain ⟨root, hroot, hpaths⟩ := Option.bind_eq_some_iff.mp h
    exact ⟨hroot, hpaths⟩

theorem routes_eq (w : Workspace) :
    ((w.store.get? w.root).bind fun d => (d.get? "paths").bind Json.members?)
      = ((w.store.get? w.root).bind fun d => d.get? "paths").bind Json.members? :=
  (Option.bind_assoc _ _ _).symm

theorem mem_findings_iff :
    finding ∈ w.findings ↔ ∃ paths route item, w.HasRoutes paths ∧ (route, item) ∈ paths ∧
      finding ∈ Finding.ofRoute w.store w.root route item := by
  simp only [findings, routes_eq, List.mem_flatMap, Json.mem_members_getD_iff, ← hasRoutes_iff]
  constructor
  · rintro ⟨⟨route, item⟩, ⟨paths, hpaths, hmem⟩, h⟩
    exact ⟨paths, route, item, hpaths, hmem, h⟩
  · rintro ⟨paths, route, item, hpaths, hmem, h⟩
    exact ⟨(route, item), ⟨paths, hpaths, hmem⟩, h⟩

/-- Nothing but references is reported on the way to what a node stands for. -/
theorem body_notMem_target {store : DocumentStore} {place : Located} {body : ResponseBody} :
    Finding.body body ∉ (place.target store).1 := by
  intro h
  obtain ⟨_, _, _, heq⟩ := Located.mem_target_iff.mp h
  cases heq

/-- **The bodies that are found are those that are to be mocked.** -/
theorem body_mem_findings_iff {body : ResponseBody} :
    Finding.body body ∈ w.findings ↔ w.HasBody body := by
  constructor
  · intro h
    obtain ⟨paths, route, item, hpaths, hitem, h⟩ := mem_findings_iff.mp h
    rcases Finding.mem_ofRoute_iff.mp h with h | ⟨place, method, operation, hplace, hmethod,
      hoperation, h⟩
    · exact absurd h body_notMem_target
    obtain ⟨responses, status, response, hresponses, hresponse, h⟩ :=
      Finding.mem_ofOperation_iff.mp h
    obtain ⟨hsuccess, h | ⟨place', mediaType, schema, hplace', hjson, heq⟩⟩ :=
      Finding.mem_ofResponse_iff.mp h
    · exact absurd h body_notMem_target
    obtain ⟨content, media, hcontent, hmedia, hschema⟩ := Finding.firstJson?_eq_some_iff.mp hjson
    cases heq
    exact .mk (.mk hpaths hitem hplace hmethod hoperation) (Finding.identifierOf_iff.mpr rfl)
      (Finding.tagsOf_iff.mpr rfl) hresponses hresponse (Finding.isSuccess_iff.mp hsuccess) hplace'
      hcontent hmedia hschema
  · rintro ⟨⟨hpaths, hitem, hplace, hmethod, hoperation⟩, hid, htags, hresponses, hresponse,
      hsuccess, hplace', hcontent, hmedia, hschema⟩
    cases Finding.identifierOf_iff.mp hid
    cases Finding.tagsOf_iff.mp htags
    refine mem_findings_iff.mpr ⟨_, _, _, hpaths, hitem, Finding.mem_ofRoute_iff.mpr (Or.inr ?_)⟩
    refine ⟨_, _, _, hplace, hmethod, hoperation, Finding.mem_ofOperation_iff.mpr ?_⟩
    refine ⟨_, _, _, hresponses, hresponse, Finding.mem_ofResponse_iff.mpr ?_⟩
    refine ⟨Finding.isSuccess_iff.mpr hsuccess, Or.inr ⟨_, _, _, hplace', ?_, rfl⟩⟩
    exact Finding.firstJson?_eq_some_iff.mpr ⟨_, _, hcontent, hmedia, hschema⟩

end Workspace

/-! ## 4. The order -/

namespace Finding

/-- The body that has been found. -/
def body? : Finding → Option ResponseBody
  | .dangling _ _ => none
  | .body found => some found

variable {store : DocumentStore} {body : ResponseBody}

/-- What is found at a response is found for it. -/
theorem site_of_mem_ofResponse {documentKey : String} {site : ResponseSite} {response : Json}
    (h : .body body ∈ ofResponse store documentKey site response) : body.site = site := by
  obtain ⟨-, h | ⟨_, _, _, -, -, heq⟩⟩ := mem_ofResponse_iff.mp h
  · exact absurd h Workspace.body_notMem_target
  · cases heq
    rfl

theorem site_of_mem_ofOperation {documentKey route method : String} {operation : Json}
    (h : .body body ∈ ofOperation store documentKey route method operation) :
    body.site.route = route ∧ body.site.method = method := by
  obtain ⟨_, _, _, -, -, h⟩ := mem_ofOperation_iff.mp h
  rw [site_of_mem_ofResponse h]
  exact ⟨rfl, rfl⟩

theorem route_of_mem_ofRoute {root route : String} {item : Json}
    (h : .body body ∈ ofRoute store root route item) : body.site.route = route := by
  rcases mem_ofRoute_iff.mp h with h | ⟨_, _, _, -, -, -, h⟩
  · exact absurd h Workspace.body_notMem_target
  · exact (site_of_mem_ofOperation h).1

end Finding

namespace Workspace

variable {w : Workspace}

/-- Bodies that have been found are in order; references that lead to nothing may stand anywhere. -/
def InOrder (w : Workspace) (first second : Finding) : Prop :=
  ∀ a, first = .body a → ∀ b, second = .body b → w.Before a.site.triple b.site.triple

theorem inOrder_of_mem_target {store : DocumentStore} {place : Located} {first second : Finding}
    (h : first ∈ (place.target store).1) : w.InOrder first second := by
  rintro a rfl
  exact absurd h body_notMem_target

/-- Parts of a walk that are in order one by one, each in itself and before the next, are in order
as a whole. -/
theorem pairwise_flatMap_of_sublist {α : Type} {items : List α} {found : α → List Finding}
    (hitem : ∀ a ∈ items, (found a).Pairwise w.InOrder)
    (hitems : ∀ {a b : α}, [a, b].Sublist items →
      ∀ first ∈ found a, ∀ second ∈ found b, w.InOrder first second) :
    (items.flatMap found).Pairwise w.InOrder :=
  List.pairwise_flatMap.mpr ⟨hitem, List.pairwise_iff_forall_sublist.mpr hitems⟩

theorem pairwise_ofResponse (w : Workspace) (documentKey : String) (site : ResponseSite)
    (response : Json) :
    (Finding.ofResponse w.store documentKey site response).Pairwise w.InOrder := by
  have hfound : (Located.target w.store ⟨documentKey, response⟩).1.Pairwise w.InOrder :=
    List.pairwise_of_forall_mem_list fun _ h _ _ => inOrder_of_mem_target h
  rw [Finding.ofResponse]
  split
  · dsimp only
    split
    · refine List.pairwise_append.mpr ⟨hfound, List.pairwise_singleton _ _, ?_⟩
      exact fun _ h _ _ => inOrder_of_mem_target h
    · exact hfound
  · exact List.Pairwise.nil

/-- The responses of an operation are found in the order of the operation. -/
theorem pairwise_ofOperation {route method documentKey : String} {operation : Json}
    (hoperation : w.HasOperation route method documentKey operation) :
    (Finding.ofOperation w.store documentKey route method operation).Pairwise w.InOrder := by
  refine pairwise_flatMap_of_sublist (fun _ _ => pairwise_ofResponse w _ _ _) ?_
  intro e e' hsublist first hfirst second hsecond a ha b hb
  subst ha hb
  have hmem : e ∈ ((operation.get? "responses").bind Json.members?).getD [] :=
    hsublist.subset List.mem_cons_self
  obtain ⟨responses, hresponses, -⟩ := Json.mem_members_getD_iff.mp hmem
  rw [Json.bind_members?_eq_some_iff.mpr hresponses, Option.getD_some] at hsublist
  have hkeys := hsublist.map Prod.fst
  have hsite := Finding.site_of_mem_ofResponse hfirst
  have hsite' := Finding.site_of_mem_ofResponse hsecond
  rw [ResponseSite.triple, ResponseSite.triple, hsite, hsite']
  exact .status hoperation hresponses hkeys

/-- The operations of a route are found in the order of their methods. -/
theorem pairwise_ofRoute {paths : Entries Json} {route : String} {item : Json}
    (hpaths : w.HasRoutes paths) (hitem : (route, item) ∈ paths) :
    (Finding.ofRoute w.store w.root route item).Pairwise w.InOrder := by
  have hplace := Located.standsFor_target w.store ⟨w.root, item⟩
  rw [Finding.ofRoute]
  refine List.pairwise_append.mpr ⟨?_, ?_, fun _ h _ _ => inOrder_of_mem_target h⟩
  · exact List.pairwise_of_forall_mem_list fun _ h _ _ => inOrder_of_mem_target h
  · refine pairwise_flatMap_of_sublist (fun method hmethod => ?_) ?_
    · split
      · next operation hoperation =>
        exact pairwise_ofOperation (.mk hpaths hitem hplace hmethod hoperation)
      · exact List.Pairwise.nil
    · intro method method' hsublist first hfirst second hsecond a ha b hb
      subst ha hb
      split at hfirst
      · split at hsecond
        · obtain ⟨hroute, hmethod⟩ := Finding.site_of_mem_ofOperation hfirst
          obtain ⟨hroute', hmethod'⟩ := Finding.site_of_mem_ofOperation hsecond
          rw [ResponseSite.triple, ResponseSite.triple, hroute, hroute', hmethod, hmethod']
          exact .method hsublist
        · exact absurd hsecond List.not_mem_nil
      · exact absurd hfirst List.not_mem_nil

/-- **Bodies are found in order.** -/
theorem pairwise_findings (w : Workspace) : w.findings.Pairwise w.InOrder := by
  rw [findings, routes_eq]
  refine pairwise_flatMap_of_sublist ?_ ?_
  · rintro ⟨route, item⟩ he
    obtain ⟨paths, hpaths, hitem⟩ := Json.mem_members_getD_iff.mp he
    exact pairwise_ofRoute (hasRoutes_iff.mpr hpaths) hitem
  · intro e e' hsublist first hfirst second hsecond a ha b hb
    subst ha hb
    obtain ⟨paths, hpaths, -⟩ :=
      Json.mem_members_getD_iff.mp (hsublist.subset (a := e) List.mem_cons_self)
    rw [Json.bind_members?_eq_some_iff.mpr hpaths, Option.getD_some] at hsublist
    have hkeys := hsublist.map Prod.fst
    have hroute := Finding.route_of_mem_ofRoute hfirst
    have hroute' := Finding.route_of_mem_ofRoute hsecond
    rw [ResponseSite.triple, ResponseSite.triple, hroute, hroute']
    exact .route (hasRoutes_iff.mpr hpaths) hkeys

/-- A workspace has one table of routes. -/
theorem HasRoutes.unique {paths paths' : Entries Json} (h : w.HasRoutes paths)
    (h' : w.HasRoutes paths') : paths = paths' := by
  have heq := (hasRoutes_iff.mp h).symm.trans (hasRoutes_iff.mp h')
  cases heq
  rfl

end Workspace

end SchemaMock
