/-
# Mocks of responses

A workspace mocks the bodies of all responses that tell of success and are told as JSON.

The responses are found by a walk over the root document alone: over the routes in the order of the
document, the methods of a route in a fixed order, and the responses in the order of the document.
A route or a response may be a reference to another one, which is followed once; one that leads to
nothing is reported on the way.
-/
import SchemaMock.Workspace

namespace SchemaMock

/-! ## 1. What is found -/

/-- The response of an operation. -/
structure ResponseSite where
  operationId : String
  tags : List String
  method : String
  route : String
  status : String
  deriving DecidableEq, Repr

/-- The body of a response: where its schema stands. -/
structure ResponseBody where
  site : ResponseSite
  mediaType : String
  /-- The key of the document that the schema stands in. -/
  documentKey : String
  schema : Json

/-- What the walk over a document finds. -/
inductive Finding where
  /-- A reference in the place of a route or a response leads to nothing. -/
  | dangling (reference documentKey : String)
  | body (body : ResponseBody)

/-! ## 2. The walk -/

/-- A node in the place of a route or a response, with the key of its document. -/
structure Located where
  documentKey : String
  value : Json

/-- What stands in a place: the node itself, or the one that it is a reference to.  A reference that
leads to nothing stands for itself. -/
def Located.target (store : DocumentStore) (place : Located) : List Finding × Located :=
  match (place.value.get? "$ref").bind Json.text? with
  | none => ([], place)
  | some text =>
    let target := Reference.read text place.documentKey
    let documentKey := target.document place.documentKey
    match store.at? documentKey target.segments with
    | some value => ([], ⟨documentKey, value⟩)
    | none => ([.dangling text documentKey], place)

namespace Finding

/-- The methods of a route, in the order in which they are mocked. -/
def methodsInOrder : List String :=
  ["get", "put", "post", "delete", "options", "head", "patch", "trace"]

/-- The first media type of a response that is JSON, with its schema if it has one. -/
def firstJson? (response : Json) : Option (String × Json) := do
  let content ← (response.get? "content").bind Json.members?
  let (mediaType, media) ←
    content.find? fun e => Text.occursIn "json".toList e.1.toList
  some (mediaType, ← media.get? "schema")

/-- Whether a response tells of success. -/
def isSuccess (status : String) : Bool :=
  status.toList.head? == some '2' || status == "default"

/-- The identifier of an operation; one without takes the words of its method and route. -/
def operationId (method route : String) (operation : Json) : String :=
  ((operation.get? "operationId").bind Json.text?).getD
    (Text.lowerCamel (method ++ " " ++ route))

/-- The tags of an operation. -/
def operationTags (operation : Json) : List String :=
  (((operation.get? "tags").bind Json.items?).getD []).filterMap Json.text?

/-- What is found at one response. -/
def ofResponse (store : DocumentStore) (documentKey : String) (site : ResponseSite)
    (response : Json) : List Finding :=
  if isSuccess site.status then
    let (found, place) := Located.target store ⟨documentKey, response⟩
    match firstJson? place.value with
    | some (mediaType, schema) => found ++ [.body ⟨site, mediaType, place.documentKey, schema⟩]
    | none => found
  else []

/-- What is found at one operation. -/
def ofOperation (store : DocumentStore) (documentKey route method : String) (operation : Json) :
    List Finding :=
  let responses := ((operation.get? "responses").bind Json.members?).getD []
  responses.flatMap fun (status, response) =>
    ofResponse store documentKey
      ⟨operationId method route operation, operationTags operation, method, route, status⟩ response

/-- What is found at one route. -/
def ofRoute (store : DocumentStore) (root route : String) (item : Json) : List Finding :=
  let (found, place) := Located.target store ⟨root, item⟩
  found ++ methodsInOrder.flatMap fun method =>
    match place.value.get? method with
    | some operation => ofOperation store place.documentKey route method operation
    | none => []

end Finding

/-- What is found in the root document. -/
def Workspace.findings (w : Workspace) : List Finding :=
  let paths := ((w.store.get? w.root).bind fun d => (d.get? "paths").bind Json.members?).getD []
  paths.flatMap fun (route, item) => Finding.ofRoute w.store w.root route item

/-! ## 3. Mocks of what is found -/

/-- The mock of the body of a response. -/
structure ResponseMock where
  site : ResponseSite
  mediaType : String
  mock : Mock
  imports : List Import

/-- A response whose body cannot be mocked. -/
structure ResponseFailure where
  site : ResponseSite
  fault : MockFault

/-- The mock of a response as a document. -/
def ResponseMock.toJson (m : ResponseMock) : Json :=
  .obj [("operationId", .str m.site.operationId), ("method", .str m.site.method),
    ("route", .str m.site.route), ("status", .str m.site.status),
    ("mediaType", .str m.mediaType), ("definition", m.mock.toJson),
    ("imports", .arr (m.imports.map Import.toJson))]

/-- The schema of the body of a response at its site.  A body that is no reference is named after
the operation and the status. -/
def ResponseBody.placed (body : ResponseBody) : PlacedSchema :=
  let name :=
    if (body.schema.get? "$ref").isSome then ""
    else Text.upperCamel body.site.operationId ++ "Response" ++ Text.upperCamel body.site.status
  .ofJson body.schema ⟨name, none⟩

/-- What comes of the walk: mocks and failures in order, and all that could be seen. -/
structure Walk where
  outcomes : List (Except ResponseFailure ResponseMock)
  events : List Event

namespace Walk

/-- The mocks of the responses that can be mocked. -/
def mocks (walk : Walk) : List ResponseMock :=
  walk.outcomes.filterMap fun outcome => outcome.toOption

/-- The failures of the responses that cannot. -/
def failures (walk : Walk) : List ResponseFailure :=
  walk.outcomes.filterMap fun outcome =>
    match outcome with
    | .ok _ => none
    | .error failure => some failure

/-- The mocks of all responses, or the fault of the first that cannot be mocked. -/
def all (walk : Walk) : Except MockFault (List ResponseMock) :=
  walk.outcomes.mapM fun outcome => outcome.mapError ResponseFailure.fault

end Walk

namespace Workspace

/-- The walk with one finding more. -/
def visit (w : Workspace) (resolver : SchemaResolver) (walk : Walk) : Finding → Walk
  | .dangling reference documentKey =>
    { walk with events := walk.events ++ [.unresolved reference documentKey] }
  | .body body =>
    let (result, events) :=
      w.mock resolver body.documentKey body.placed body.site.operationId body.site.tags
    let outcome : Except ResponseFailure ResponseMock :=
      match result with
      | .ok m => .ok ⟨body.site, body.mediaType, m.mock, m.imports⟩
      | .error fault => .error ⟨body.site, fault⟩
    ⟨walk.outcomes ++ [outcome], walk.events ++ events⟩

/-- All responses, one after another. -/
def walk (w : Workspace) (resolver : SchemaResolver) : Walk :=
  w.findings.foldl (w.visit resolver) ⟨[], []⟩

end Workspace

end SchemaMock
