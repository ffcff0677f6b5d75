/-
# Workspaces

A workspace has documents, one of which is the root, and settings.  Whatever can be mocked is
mocked in it; nothing in it changes.
-/
import SchemaMock.Mock.Codec
import SchemaMock.Resolution.Following

namespace SchemaMock

/-- Documents with a root, and settings. -/
structure Workspace where
  store : DocumentStore
  root : String
  settings : Settings
  /-- The root is one of the documents. -/
  hasRoot : store.contains root = true

/-- A mock with all imports that making it has asked for. -/
structure CompleteMock where
  mock : Mock
  imports : List Import

/-- A complete mock as a document. -/
def CompleteMock.toJson (m : CompleteMock) : Json :=
  .obj [("definition", m.mock.toJson), ("imports", .arr (m.imports.map Import.toJson))]

namespace Workspace

/-- The workspace of documents and options.  The options are looked at before the root. -/
def ofOptions (engine : PatternEngine) (store : DocumentStore) (root : String)
    (options : Options) : Except MockFault Workspace := do
  let settings ← Settings.ofOptions engine options
  if h : store.contains root then .ok ⟨store, root, settings, h⟩
  else .error (.unknownDocument root)

/-- The mock of a schema in the document of a key for an operation, and what could be seen of making
it. -/
def mock (w : Workspace) (resolver : SchemaResolver) (documentKey : String)
    (placed : PlacedSchema) (operationId : String) (tags : List String) :
    Except MockFault CompleteMock × List Event :=
  let rules := w.settings.rules.activeFor operationId tags
  let env := Environment.start documentKey w.store w.settings rules
  let (result, trace) := (placed.resolve resolver env none).run Trace.empty
  (result.map fun mock => ⟨mock, trace.imports⟩, trace.events)

/-- A pointer with its mark. -/
def marked (pointer : String) : String :=
  if pointer.toList.head? = some '#' then pointer else "#" ++ pointer

/-- The mock of the schema at a pointer into the root document. -/
def mockAt (w : Workspace) (resolver : SchemaResolver)
    (operationId pointer name : String) (tags : List String) :
    Except MockFault CompleteMock × List Event :=
  let pointer := marked pointer
  match w.store.at? w.root (Pointer.split pointer) with
  | none => (.error (.missing pointer), [])
  | some _ => w.mock resolver w.root (.reference pointer ⟨name, none⟩) operationId tags

end Workspace

end SchemaMock
