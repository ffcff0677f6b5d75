/-
# Ways that lead back

The only fault of a resolution is a reference whose address is being resolved already.  What such a
fault reports is more than a guess: the targets that were entered, one inside another, are a walk in
the graph of references, and the walk ends at a target that it has passed, or that was being
resolved before it began.

* `LeadsBack env schema entered last` says what a resolution does to fail: it enters the targets
  `entered` and comes to `last`.  It follows the recursion of the resolution, and knows nothing of
  faults.
* `resolver_failsBack` says that this is the only way to fail, and that the fault reports it.
* Everything that is known about the report is then an induction on `LeadsBack`.
-/
import Mathlib.Logic.Relation
import SchemaMock.Proofs.Addresses
import SchemaMock.Proofs.Depth

namespace SchemaMock

/-! ## 1. Walks -/

namespace DocumentStore

/-- The schema that stands at `a` mentions a reference to `b`. -/
def Leads (store : DocumentStore) (a b : Target) : Prop :=
  ∃ node, store.at? a.documentKey a.segments = some node ∧
    ∃ reference, (Schema.ofJson node).Mentions reference ∧ b = .told reference a.documentKey

/-- A target that is not there leads nowhere, so what the schema at a target mentions is led to. -/
theorem leads_of_mentions {store : DocumentStore} {a : Target} {reference : String}
    (h : (store.schemaAt a).Mentions reference) :
    store.Leads a (.told reference a.documentKey) := by
  cases hat : store.at? a.documentKey a.segments with
  | none =>
    rw [schemaAt_of_none hat] at h
    exact absurd h (Schema.not_mentions_empty reference)
  | some node =>
    rw [schemaAt_of_some hat] at h
    exact ⟨node, hat, reference, h, rfl⟩

end DocumentStore

/-- From a schema one comes through the targets `entered`, of which none was being resolved, to
`last`, which is being resolved by then. -/
inductive LeadsBack : Environment → Schema → (entered : List Target) → (last : Target) → Prop
  | closes {env : Environment} {schema : Schema} {reference : String}
      (hmentions : schema.Mentions reference)
      (hmem : (env.target reference).address ∈ env.chain) :
      LeadsBack env schema [] (env.target reference)
  | enters {env : Environment} {schema : Schema} {reference : String} {entered : List Target}
      {last : Target} (hmentions : schema.Mentions reference)
      (hfresh : (env.target reference).address ∉ env.chain)
      (h : LeadsBack (env.inside reference) (env.store.schemaAt (env.target reference)) entered
        last) :
      LeadsBack env schema (env.target reference :: entered) last

namespace LeadsBack

variable {env : Environment} {schema : Schema} {entered : List Target} {last : Target}

/-- A way from a part is a way from the whole. -/
theorem of_part {part : Schema} (hpart : part ∈ schema.parts)
    (h : LeadsBack env part entered last) : LeadsBack env schema entered last := by
  cases h with
  | closes hmentions hmem => exact .closes (.inside hpart hmentions) hmem
  | enters hmentions hfresh h => exact .enters (.inside hpart hmentions) hfresh h

/-- The last target is being resolved: it was before, or it has been entered. -/
theorem mem_chain (h : LeadsBack env schema entered last) :
    last.address ∈ env.chain ++ entered.map Target.address := by
  induction h with
  | closes _ hmem => exact List.mem_append_left _ hmem
  | enters _ _ _ ih =>
    rw [Environment.inside, List.append_assoc] at ih
    exact ih

/-- No address is entered twice. -/
theorem nodup (h : LeadsBack env schema entered last) (hchain : env.chain.Nodup) :
    (env.chain ++ entered.map Target.address).Nodup := by
  induction h with
  | closes => simpa using hchain
  | @enters env schema reference _ _ _ hfresh _ ih =>
    have hinside : (env.inside reference).chain.Nodup := by
      refine List.nodup_append.mpr ⟨hchain, List.nodup_singleton _, ?_⟩
      rintro a ha b hb rfl
      exact hfresh (List.mem_singleton.mp hb ▸ ha)
    have hrest := ih hinside
    rw [Environment.inside, List.append_assoc] at hrest
    exact hrest

/-- The way begins with a reference that the schema mentions, and goes along references. -/
theorem walk (h : LeadsBack env schema entered last) :
    ∃ mentioned rest, schema.Mentions mentioned ∧ entered ++ [last] = env.target mentioned :: rest ∧
      (env.target mentioned :: rest).IsChain env.store.Leads := by
  induction h with
  | @closes env schema reference hmentions _ =>
    exact ⟨reference, [], hmentions, rfl, .singleton _⟩
  | @enters env schema reference entered last hmentions _ _ ih =>
    obtain ⟨mentioned, rest, hm, heq, hwalk⟩ := ih
    refine ⟨reference, entered ++ [last], hmentions, rfl, ?_⟩
    rw [heq]
    exact .cons_cons (DocumentStore.leads_of_mentions hm) hwalk

/-- From the first target one comes to every target of the way, and from every target that is
entered to the last one. -/
theorem reaches (h : LeadsBack env schema entered last) :
    ∃ mentioned, schema.Mentions mentioned ∧
      Relation.ReflTransGen env.store.Leads (env.target mentioned) last ∧
      ∀ target ∈ entered, Relation.ReflTransGen env.store.Leads (env.target mentioned) target ∧
        Relation.TransGen env.store.Leads target last := by
  induction h with
  | @closes env schema reference hmentions _ =>
    exact ⟨reference, hmentions, .refl, by simp⟩
  | @enters env schema reference entered last hmentions _ _ ih =>
    obtain ⟨mentioned, hm, hlast, hentered⟩ := ih
    have hedge : env.store.Leads (env.target reference) ((env.inside reference).target mentioned) :=
      DocumentStore.leads_of_mentions hm
    refine ⟨reference, hmentions, .head hedge hlast, fun target htarget => ?_⟩
    rcases List.mem_cons.mp htarget with rfl | htarget
    · exact ⟨.refl, .head' hedge hlast⟩
    · exact ⟨.head hedge (hentered target htarget).1, (hentered target htarget).2⟩

/-- All of the way is in unmarked documents, if it begins in one. -/
theorem unmarked (h : LeadsBack env schema entered last) (hkey : '#' ∉ env.documentKey.toList) :
    ∀ target ∈ entered ++ [last], target.Unmarked := by
  induction h with
  | closes =>
    intro target htarget
    rw [List.mem_singleton.mp htarget]
    exact Target.unmarked_told _ hkey
  | enters _ _ _ ih =>
    intro target htarget
    rcases List.mem_cons.mp htarget with rfl | htarget
    · exact Target.unmarked_told _ hkey
    · exact ih (Target.unmarked_told _ hkey) target htarget

end LeadsBack

/-! ## 2. Faults -/

/-- What a fault reports is a way that leads back. -/
def ComesBack (env : Environment) (schema : Schema) (fault : MockFault) : Prop :=
  ∃ entered last, LeadsBack env schema entered last ∧
    fault = .cyclic last.address (env.chain ++ (entered ++ [last]).map Target.address)

theorem ComesBack.of_part {env : Environment} {schema part : Schema} {fault : MockFault}
    (hpart : part ∈ schema.parts) (h : ComesBack env part fault) : ComesBack env schema fault := by
  obtain ⟨entered, last, hback, heq⟩ := h
  exact ⟨entered, last, hback.of_part hpart, heq⟩

/-- All that is asked fails with ways that lead back only. -/
def FailsBack (ask : Resolver) : Prop :=
  ∀ env membership placed, (ask env membership placed).FailsOnly (ComesBack env placed.schema)

theorem makeLayer_failsOnly {ask : Resolver} (hask : FailsBack ask) (env : Environment)
    (membership : Option Membership) (placed : PlacedSchema) :
    (makeLayer ask env membership placed).FailsOnly (ComesBack env placed.schema) := by
  refine @makeLayer_compat _ (compatible_failsOnly _) ask ask env env (.refl env) membership placed
    (fun _ => hask env membership placed) fun part hpart membership' site => ?_
  exact (hask env membership' ⟨part, site, none⟩).mono fun fault h => h.of_part hpart

/-- One layer adds the entering of one target. -/
theorem resolveLayer_failsBack {ask : Resolver} (hask : FailsBack ask) :
    FailsBack (resolveLayer ask) := by
  intro env membership placed
  obtain ⟨schema, site, definition⟩ := placed
  cases schema with
  | reference reference =>
    intro trace after fault h
    rcases followLayer_error_iff.mp h with ⟨hmem, rfl, -⟩ | ⟨hfresh, h⟩
    · exact ⟨[], env.target reference, .closes (.here reference) hmem, rfl⟩
    · obtain ⟨entered, last, hback, rfl⟩ := makeLayer_failsOnly hask _ _ _ h
      refine ⟨env.target reference :: entered, last, .enters (.here reference) hfresh hback, ?_⟩
      simp [Environment.inside]
  | plain | array | object | combined =>
    exact (makeLayer_failsOnly hask env membership _).map _

theorem deepen_failsBack {beyond : Resolver} (hbeyond : FailsBack beyond) (layers : Nat) :
    FailsBack (deepen beyond layers) := by
  induction layers with
  | zero => exact hbeyond
  | succ layers ih => exact resolveLayer_failsBack ih

/-- **A resolution fails only where references lead back, and says how.** -/
theorem resolver_failsBack : FailsBack resolver := by
  intro env membership placed
  have hbeyond : FailsBack fun _ _ placed => pure (.ofExpression .null placed.site.name) :=
    fun _ _ _ => .of_pure _
  rw [resolver_eq_deepen]
  exact deepen_failsBack hbeyond _ env membership placed

/-- **Resolution ends.**  However often the documents refer to themselves and to one another, and
whatever is being resolved already, the recursion goes no deeper than the number of layers that is
told from the schema and the documents: what lies below them is never asked.  What it comes to is a
mock or a cyclic reference. -/
theorem resolution_ends (env : Environment) (membership : Option Membership)
    (placed : PlacedSchema) :
    (∀ (beyond : Resolver) (more : Nat),
      deepen beyond (layersFor env.store placed.schema + more) env membership placed
        = placed.resolve mockResolver env membership) ∧
      ∀ trace, ∃ after,
        (∃ mock, (placed.resolve mockResolver env membership).outcome trace = (.ok mock, after)) ∨
          ∃ reference chain, (placed.resolve mockResolver env membership).outcome trace
            = (.error (.cyclic reference chain), after) := by
  constructor
  · intro beyond more
    exact deepen_layersFor beyond membership (Nat.le_add_right _ _)
  · intro trace
    rcases h : (placed.resolve mockResolver env membership).outcome trace with ⟨fault | mock, after⟩
    · obtain ⟨entered, last, -, rfl⟩ := resolver_failsBack env membership placed h
      exact ⟨after, Or.inr ⟨_, _, rfl⟩⟩
    · exact ⟨after, Or.inl ⟨mock, rfl⟩⟩

/-! ## 3. Reports -/

/-- What a cyclic fault says about references: `walk` are the targets behind those that were being
resolved before. -/
structure CycleReport (env : Environment) (schema : Schema) (reference : String)
    (chain : List String) (walk : List Target) : Prop where
  chain_eq : chain = env.chain ++ walk.map Target.address
  getLast_eq : chain.getLast? = some reference
  comesBack : reference ∈ chain.dropLast
  nodup : chain.dropLast.Nodup
  begins : ∃ mentioned, schema.Mentions mentioned ∧ walk.head? = some (env.target mentioned)
  edges : walk.IsChain env.store.Leads
  /-- An address stands for one target of the walk, so the walk has no gap where the chain has
  none. -/
  apart : ∀ a ∈ walk, ∀ b ∈ walk, a.address = b.address → a = b

theorem LeadsBack.report {env : Environment} {schema : Schema} {entered : List Target}
    {last : Target} (h : LeadsBack env schema entered last)
    (hkey : '#' ∉ env.documentKey.toList) (hchain : env.chain.Nodup) :
    CycleReport env schema last.address
      (env.chain ++ (entered ++ [last]).map Target.address) (entered ++ [last]) := by
  have hsplit : env.chain ++ (entered ++ [last]).map Target.address
      = (env.chain ++ entered.map Target.address) ++ [last.address] := by
    rw [List.map_append, List.append_assoc]
    rfl
  have hdrop : (env.chain ++ (entered ++ [last]).map Target.address).dropLast
      = env.chain ++ entered.map Target.address := by
    rw [hsplit, List.dropLast_concat]
  obtain ⟨mentioned, rest, hmentions, hwalk, hedges⟩ := h.walk
  have hunmarked := h.unmarked hkey
  constructor
  case chain_eq => rfl
  case getLast_eq => rw [hsplit, List.getLast?_concat]
  case comesBack =>
    rw [hdrop]
    exact h.mem_chain
  case nodup =>
    rw [hdrop]
    exact h.nodup hchain
  case begins =>
    rw [hwalk]
    exact ⟨mentioned, hmentions, rfl⟩
  case edges =>
    rw [hwalk]
    exact hedges
  case apart =>
    intro a ha b hb heq
    exact Target.address_injective (hunmarked a ha) (hunmarked b hb) heq

/-- A way that began with nothing being resolved has passed its last target, so that target comes
back to itself. -/
theorem LeadsBack.cycle {env : Environment} {schema : Schema} {entered : List Target}
    {last : Target} (h : LeadsBack env schema entered last)
    (hkey : '#' ∉ env.documentKey.toList) (hchain : env.chain = []) :
    ∃ mentioned, schema.Mentions mentioned ∧
      Relation.ReflTransGen env.store.Leads (env.target mentioned) last ∧
      Relation.TransGen env.store.Leads last last := by
  have hmem := h.mem_chain
  rw [hchain, List.nil_append] at hmem
  obtain ⟨target, htarget, haddress⟩ := List.mem_map.mp hmem
  have hunmarked := h.unmarked hkey
  have heq : target = last :=
    Target.address_injective (hunmarked target (List.mem_append_left _ htarget))
      (hunmarked last (List.mem_append_right _ (List.mem_singleton_self last))) haddress
  obtain ⟨mentioned, hmentions, hreach, hentered⟩ := h.reaches
  refine ⟨mentioned, hmentions, hreach, ?_⟩
  have hback := (hentered target htarget).2
  rw [heq] at hback
  exact hback

/-- **A cyclic fault is a cycle of references.**  In a document whose key has no mark, the chain of
the fault is a walk along references behind what was being resolved before, it enters nothing twice,
and it ends where it has been.  So from nothing being resolved, a schema from which no cycle of
references can be reached is always resolved. -/
theorem cyclic_fault_is_cycle (env : Environment) (membership : Option Membership)
    (placed : PlacedSchema) (hkey : '#' ∉ env.documentKey.toList) (hchain : env.chain.Nodup) :
    (∀ trace after reference chain,
      (placed.resolve mockResolver env membership).outcome trace
        = (.error (.cyclic reference chain), after) →
      ∃ walk, CycleReport env placed.schema reference chain walk) ∧
    (env.chain = [] →
      (∀ mentioned target, placed.schema.Mentions mentioned →
        Relation.ReflTransGen env.store.Leads (env.target mentioned) target →
        ¬ Relation.TransGen env.store.Leads target target) →
      ∀ trace, ∃ mock after,
        (placed.resolve mockResolver env membership).outcome trace = (.ok mock, after)) := by
  constructor
  · intro trace after reference chain h
    obtain ⟨entered, last, hback, heq⟩ := resolver_failsBack env membership placed h
    cases heq
    exact ⟨entered ++ [last], hback.report hkey hchain⟩
  · intro hnil hacyclic trace
    rcases h : (placed.resolve mockResolver env membership).outcome trace with ⟨fault | mock, after⟩
    · obtain ⟨entered, last, hback, -⟩ := resolver_failsBack env membership placed h
      obtain ⟨mentioned, hmentions, hreach, hcycle⟩ := hback.cycle hkey hnil
      exact absurd hcycle (hacyclic mentioned last hmentions hreach)
    · exact ⟨mock, after, rfl⟩

/-- A node that tells a reference. -/
def referenceNode (reference : String) : Json := .obj [("$ref", .str reference)]

/-- A document with a list, whose nodes have a next node, and with a label. -/
def listDocument : Json :=
  .obj [("components", .obj [("schemas", .obj [
    ("Node", .obj [("properties", .obj [("next", referenceNode "#/components/schemas/Node")])]),
    ("Label", .obj [("type", .str "string")])])])]

/-- The list document at hand, and nothing else said. -/
def listEnvironment : Environment :=
  .start "api.json" (.ofList [("api.json", listDocument)])
    ⟨⟨[], [], []⟩, .empty, false, 0, 1, false⟩ ⟨"", [], none, [], []⟩

/-- The target of a schema of the list document. -/
def listTarget (name : String) : Target := ⟨"api.json", ["components", "schemas", name]⟩

theorem listTarget_label_leads_nowhere (b : Target) :
    ¬ listEnvironment.store.Leads (listTarget "Label") b := by
  rintro ⟨node, hnode, reference, hmentions, -⟩
  have hplain : Schema.ofJson node = .plain [("type", .str "string")] := by
    have h : some (.obj [("type", .str "string")]) = some node := hnode
    cases h
    rfl
  rw [hplain] at hmentions
  cases hmentions with
  | inside hpart => exact absurd hpart List.not_mem_nil

/-- Two properties with the same label. -/
def labelTwice : PlacedSchema :=
  .ofJson (.obj [("properties", .obj [("first", referenceNode "#/components/schemas/Label"),
    ("second", referenceNode "#/components/schemas/Label")])]) ⟨"", none⟩

theorem labelTwice_mentions {mentioned : String} (h : labelTwice.schema.Mentions mentioned) :
    mentioned = "#/components/schemas/Label" := by
  cases h with
  | inside hpart h =>
    have hpart : _ ∈ List.replicate 2 (Schema.reference "#/components/schemas/Label") := hpart
    rw [List.eq_of_mem_replicate hpart] at h
    cases h with
    | here => rfl
    | inside hpart _ => exact absurd hpart List.not_mem_nil

theorem cyclic_fault_is_cycle_list :
    (∃ walk, CycleReport listEnvironment (.reference "#/components/schemas/Node")
      "api.json#/components/schemas/Node"
      ["api.json#/components/schemas/Node", "api.json#/components/schemas/Node"] walk) ∧
    ∀ trace, ∃ mock after,
      (labelTwice.resolve mockResolver listEnvironment none).outcome trace = (.ok mock, after) := by
  have hkey : '#' ∉ listEnvironment.documentKey.toList := by decide
  have hchain : listEnvironment.chain.Nodup := List.nodup_nil
  constructor
  · exact (cyclic_fault_is_cycle listEnvironment none
      (.reference "#/components/schemas/Node" ⟨"", none⟩) hkey hchain).1 .empty .empty _ _ rfl
  · refine (cyclic_fault_is_cycle listEnvironment none labelTwice hkey hchain).2 rfl ?_
    intro mentioned target hmentions hreach hcycle
    have hlabel : listEnvironment.target mentioned = listTarget "Label" := by
      rw [labelTwice_mentions hmentions]
      rfl
    rw [hlabel] at hreach
    rcases Relation.ReflTransGen.cases_head hreach with rfl | ⟨b, hb, -⟩
    · obtain ⟨b, hb, -⟩ := Relation.TransGen.head'_iff.mp hcycle
      exact listTarget_label_leads_nowhere b hb
    · exact listTarget_label_leads_nowhere b hb

end SchemaMock
