/-
# What a resolution leaves behind

A resolution leaves a trace, also when it fails: the imports that it has asked for, and the events
that somebody may want to watch.
-/
import SchemaMock.Fault
import SchemaMock.Mock.Basic
import SchemaMock.Reference
import SchemaMock.Schema.Site

namespace SchemaMock

/-! ## 1. Traces -/

/-- What can be seen of a resolution. -/
inductive Event where
  /-- A reference has been followed, and its target resolved. -/
  | reference (target : Reference) (mock : Mock)
  /-- A reference leads to nothing in the document of this key. -/
  | unresolved (reference documentKey : String)
  /-- A rule has replaced the expression at a site. -/
  | overridden (site : Site) (mock : Mock)
  /-- A schema has been handed over by an inspection, in the document of this key. -/
  | inspected (placed : PlacedSchema) (membership : Option Membership) (documentKey : String)
      (chain : List String)

/-- What a resolution leaves behind. -/
structure Trace where
  /-- The imports that have been asked for. -/
  imports : List Import
  /-- What has been seen, in order. -/
  events : List Event

/-- The trace of nothing. -/
def Trace.empty : Trace := ⟨[], []⟩

/-! ## 2. Steps -/

/-- A step of a resolution: it may fail, and it adds to the trace in either case. -/
abbrev Resolve := ExceptT MockFault (StateM Trace)

namespace Resolve

/-- Something has been seen. -/
def record (event : Event) : Resolve Unit :=
  modify fun trace => { trace with events := trace.events ++ [event] }

/-- An import is asked for. -/
def request (new : Import) : Resolve Unit :=
  modify fun trace => { trace with imports := withImport trace.imports new }

/-- A result that is known. -/
def ofExcept {α : Type} (result : Except MockFault α) : Resolve α :=
  match result with
  | .ok a => pure a
  | .error e => throw e

end Resolve

end SchemaMock
