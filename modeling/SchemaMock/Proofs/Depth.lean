/-
# How deep a resolution goes

References lead out of the tree of a schema, so neither the tree nor the number of addresses on the
way gets smaller with every step.  What gets smaller is the two together.

* **A budget of addresses.**  A schema that was found in a document mentions only references that
  this document tells (`tells_inside`), so every address that it leads to is one of finitely many,
  and entering one leaves one less to enter (`openAddresses_inside`).  A budget *suffices* for a
  schema if it is larger than what is left behind any of its references; it then suffices, less one,
  for what stands there (`Suffices.inside`).
* **A descent between two addresses.**  Until the next reference is followed, every question is
  about a part of the schema before, and parts are less deep than wholes.

The first alone shows that the budget of following changes nothing once it suffices
(`followWithin_eq`), so a resolution is a layer on top of itself (`resolver_eq_resolveLayer`).  With
the second it shows that a number of layers that can be told beforehand is enough, whatever lies
below them (`deepen_eq_resolver`).
-/
import Mathlib.Data.Finset.Card
import SchemaMock.Proofs.Exchange
import SchemaMock.Proofs.Targets

namespace SchemaMock

/-! ## 1. What the documents tell -/

namespace DocumentStore

/-- Every reference of every document, with the key of the document that tells it. -/
def tellings (store : DocumentStore) : List (String × String) :=
  store.documents.entries.flatMap fun e => e.2.references.map fun reference => (e.1, reference)

/-- The number of different pairs of a document and a reference that it tells. -/
def tellingCount (store : DocumentStore) : Nat := store.tellings.toFinset.card

/-- How many nodes of a document stand inside one another at most. -/
def depth (store : DocumentStore) : Nat :=
  Json.depthOfMembers store.documents.entries

theorem mem_tellings {store : DocumentStore} {key reference : String} :
    (key, reference) ∈ store.tellings ↔
      ∃ document, (key, document) ∈ store.documents.entries ∧ reference ∈ document.references := by
  simp only [tellings, List.mem_flatMap, List.mem_map, Prod.mk.injEq]
  constructor
  · rintro ⟨e, he, r, hr, rfl, rfl⟩
    exact ⟨e.2, he, hr⟩
  · rintro ⟨document, hdocument, hreference⟩
    exact ⟨(key, document), hdocument, reference, hreference, rfl, rfl⟩

/-- The budget of following is larger than the number of tellings. -/
theorem tellingCount_lt_longestBranch (store : DocumentStore) :
    store.tellingCount < store.longestBranch := by
  have hcard : store.tellingCount ≤ store.tellings.length := List.toFinset_card_le _
  have hlength : store.tellings.length = store.references.length := by
    simp [tellings, references, List.length_flatMap]
  have hle : store.references.length ≤ store.keys.length * store.references.length := by
    rcases Nat.eq_zero_or_pos store.keys.length with h | h
    · have hnil : store.documents.entries = [] := by
        simpa [keys, OrderedMap.keys, Entries.keys] using h
      simp [references, hnil]
    · exact Nat.le_mul_of_pos_left _ h
  rw [longestBranch]
  omega

end DocumentStore

namespace Json

theorem child?_mem_children {segment : String} {node child : Json}
    (h : node.child? segment = some child) : child ∈ node.children := by
  cases node with
  | obj members => exact List.mem_map.mpr ⟨_, Entries.mem_of_get? h, rfl⟩
  | arr items =>
    obtain ⟨i, -, hi⟩ := Option.bind_eq_some_iff.mp h
    exact List.mem_of_getElem? hi
  | null | bool | num | str => simp [child?] at h

/-- What stands in a node is no deeper, and tells no other references. -/
theorem at?_inside {document node : Json} {segments : List String}
    (h : document.at? segments = some node) :
    node.depth ≤ document.depth ∧ node.references ⊆ document.references := by
  induction segments generalizing document with
  | nil =>
    cases h
    exact ⟨Nat.le_refl _, List.Subset.refl _⟩
  | cons segment rest ih =>
    obtain ⟨child, hchild, hrest⟩ := Option.bind_eq_some_iff.mp h
    have hinside := inside_of_mem_children (child?_mem_children hchild)
    obtain ⟨hdepth, hreferences⟩ := ih hrest
    exact ⟨Nat.le_of_lt (Nat.lt_of_le_of_lt hdepth hinside.depth_lt),
      List.Subset.trans hreferences hinside.references_subset⟩

end Json

namespace DocumentStore

/-- What stands at a target is no deeper than the documents, or is nothing. -/
theorem depth_schemaAt_le (store : DocumentStore) (target : Target) :
    (store.schemaAt target).depth ≤ max 1 store.depth := by
  cases hat : store.at? target.documentKey target.segments with
  | none =>
    rw [schemaAt_of_none hat]
    exact Nat.le_max_left _ _
  | some node =>
    obtain ⟨document, hget, hnode⟩ := Option.bind_eq_some_iff.mp hat
    have hmem : document ∈ store.documents.entries.map Prod.snd :=
      List.mem_map.mpr ⟨_, Entries.mem_of_get? hget, rfl⟩
    rw [schemaAt_of_some hat]
    calc (Schema.ofJson node).depth ≤ node.depth := Schema.depth_ofJson_le node
      _ ≤ document.depth := (Json.at?_inside hnode).1
      _ ≤ store.depth := Json.depth_le_depthOfMembers hmem
      _ ≤ max 1 store.depth := Nat.le_max_right _ _

end DocumentStore

/-! ## 2. The addresses that can be entered -/

namespace Environment

/-- The addresses that documents tell and that are not being resolved. -/
def openAddresses (env : Environment) : Finset String :=
  (env.store.tellings.toFinset.image fun e => (Target.told e.2 e.1).address) \ env.chain.toFinset

/-- Every reference that a schema mentions is told by the document at hand. -/
def Tells (env : Environment) (schema : Schema) : Prop :=
  ∀ ⦃reference : String⦄, schema.Mentions reference →
    (env.documentKey, reference) ∈ env.store.tellings

/-- What was found in a document mentions only what this document tells. -/
theorem tells_inside (env : Environment) (reference : String) :
    (env.inside reference).Tells (env.store.schemaAt (env.target reference)) := by
  intro mentioned h
  cases hat : env.store.at? (env.target reference).documentKey (env.target reference).segments with
  | none =>
    rw [DocumentStore.schemaAt_of_none hat] at h
    exact absurd h (Schema.not_mentions_empty mentioned)
  | some node =>
    obtain ⟨document, hget, hnode⟩ := Option.bind_eq_some_iff.mp hat
    rw [DocumentStore.schemaAt_of_some hat] at h
    exact DocumentStore.mem_tellings.mpr ⟨document, Entries.mem_of_get? hget,
      (Json.at?_inside hnode).2 (Schema.mem_references_of_mentions h rfl)⟩

theorem card_openAddresses_le (env : Environment) :
    env.openAddresses.card ≤ env.store.tellingCount :=
  (Finset.card_le_card Finset.sdiff_subset).trans Finset.card_image_le

/-- Entering an address closes it. -/
theorem openAddresses_inside (env : Environment) (reference : String) :
    (env.inside reference).openAddresses
      = env.openAddresses.erase (env.target reference).address := by
  ext address
  simp only [openAddresses, inside, Finset.mem_sdiff, List.mem_toFinset, List.mem_append,
    List.mem_singleton, Finset.mem_erase]
  tauto

theorem mem_openAddresses {env : Environment} {reference : String}
    (htold : (env.documentKey, reference) ∈ env.store.tellings)
    (hfresh : (env.target reference).address ∉ env.chain) :
    (env.target reference).address ∈ env.openAddresses := by
  refine Finset.mem_sdiff.mpr ⟨Finset.mem_image.mpr ⟨_, List.mem_toFinset.mpr htold, rfl⟩, ?_⟩
  exact fun h => hfresh (List.mem_toFinset.mp h)

/-- A budget that is larger than what is left behind any reference of a schema. -/
def Suffices (env : Environment) (schema : Schema) (budget : Nat) : Prop :=
  ∀ ⦃reference : String⦄, schema.Mentions reference →
    (env.target reference).address ∉ env.chain →
    (env.inside reference).openAddresses.card < budget

theorem suffices_of_tells {env : Environment} {schema : Schema} {budget : Nat}
    (htells : env.Tells schema) (h : env.openAddresses.card ≤ budget) :
    env.Suffices schema budget := by
  intro reference hmentions hfresh
  rw [openAddresses_inside]
  have := Finset.card_erase_lt_of_mem (mem_openAddresses (htells hmentions) hfresh)
  omega

/-- One more than all tellings suffices for every schema, wherever it comes from. -/
theorem suffices_of_tellingCount_lt {env : Environment} {schema : Schema} {budget : Nat}
    (h : env.store.tellingCount < budget) : env.Suffices schema budget := by
  intro reference _ _
  have := card_openAddresses_le (env.inside reference)
  rw [store_inside] at this
  omega

/-- A budget that suffices for a schema suffices, less one, behind each of its references. -/
theorem Suffices.inside {env : Environment} {schema : Schema} {budget : Nat} {reference : String}
    (h : env.Suffices schema (budget + 1)) (hmentions : schema.Mentions reference)
    (hfresh : (env.target reference).address ∉ env.chain) :
    (env.inside reference).Suffices (env.store.schemaAt (env.target reference)) budget :=
  suffices_of_tells (tells_inside env reference) (Nat.le_of_lt_succ (h hmentions hfresh))

theorem Suffices.part {env : Environment} {schema part : Schema} {budget : Nat}
    (h : env.Suffices schema budget) (hpart : part ∈ schema.parts) : env.Suffices part budget :=
  fun _ hmentions => h (.inside hpart hmentions)

theorem Suffices.of_mentions {env : Environment} {schema : Schema} {budget : Nat}
    {reference : String} (h : env.Suffices schema budget) (hmentions : schema.Mentions reference) :
    env.Suffices (.reference reference) budget := by
  intro mentioned hm
  cases hm with
  | here => exact h hmentions
  | inside hpart _ => simp [Schema.parts] at hpart

end Environment

/-! ## 3. The budget of following changes nothing -/

/-- Making is the same with any two ways of following that agree on the references of the schema. -/
theorem makeAsk_congr {follow follow' : Follow} {env : Environment} {schema : Schema}
    (h : ∀ reference, schema.Mentions reference → ∀ membership site,
      follow env membership reference site = follow' env membership reference site) :
    ∀ membership site definition,
      makeAsk follow env membership ⟨schema, site, definition⟩
        = makeAsk follow' env membership ⟨schema, site, definition⟩ := by
  induction schema using Schema.partsInduction with
  | step schema ih =>
    intro membership site definition
    rw [make_eq_makeLayer follow, make_eq_makeLayer follow']
    refine makeLayer_compat compatible_eq (.refl env) membership _ ?_ ?_
    · cases schema with
      | reference target => exact fun _ => h target (.here target) membership site
      | plain | array | object | combined => intro hsome; simp [Schema.reference?] at hsome
    · intro part hpart membership' site'
      exact ih part hpart (fun reference hmentions => h reference (.inside hpart hmentions)) _ _ _

/-- **Any two budgets that suffice for a reference follow it alike.** -/
theorem followWithin_eq {budget budget' : Nat} {env : Environment} {reference : String}
    (h : env.Suffices (.reference reference) budget)
    (h' : env.Suffices (.reference reference) budget') (membership : Option Membership)
    (site : Site) :
    followWithin mockResolver budget env membership reference site
      = followWithin mockResolver budget' env membership reference site := by
  induction budget generalizing budget' env reference membership site with
  | zero =>
    have hmem : (env.target reference).address ∈ env.chain := by
      by_contra hfresh
      exact absurd (h (.here reference) hfresh) (Nat.not_lt_zero _)
    cases budget' with
    | zero => rfl
    | succ budget' =>
      rw [followWithin_succ, followLayer_of_mem hmem]
      rfl
  | succ budget ih =>
    cases budget' with
    | zero =>
      have hmem : (env.target reference).address ∈ env.chain := by
        by_contra hfresh
        exact absurd (h' (.here reference) hfresh) (Nat.not_lt_zero _)
      rw [followWithin_succ, followLayer_of_mem hmem]
      rfl
    | succ budget' =>
      rw [followWithin_succ, followWithin_succ]
      refine followLayer_congr fun hfresh => ?_
      have hin := h.inside (.here reference) hfresh
      have hin' := h'.inside (.here reference) hfresh
      rw [← make_eq_makeLayer, ← make_eq_makeLayer]
      exact makeAsk_congr (fun mentioned hmentions =>
        ih (hin.of_mentions hmentions) (hin'.of_mentions hmentions)) _ _ _

/-- The longest branch of references suffices everywhere. -/
theorem suffices_longestBranch (env : Environment) (schema : Schema) :
    env.Suffices schema env.store.longestBranch :=
  Environment.suffices_of_tellingCount_lt
    (DocumentStore.tellingCount_lt_longestBranch env.store)

/-- **A resolution is a layer on top of itself.** -/
theorem resolver_eq_resolveLayer : resolver = resolveLayer resolver := by
  funext env membership placed
  have hlayer : ∀ (env : Environment) (membership : Option Membership) (placed : PlacedSchema),
      makeLayer resolver env membership placed
        = makeAsk (followWithin mockResolver env.store.longestBranch) env membership placed := by
    intro env membership placed
    rw [make_eq_makeLayer,
      ← makeLayer_typed (makeAsk (followWithin mockResolver env.store.longestBranch))]
    exact makeLayer_compat compatible_eq (.refl env) membership placed
      (fun _ => resolve_eq_typedAsk env membership placed)
      (fun part _ membership' site => resolve_eq_typedAsk env membership' ⟨part, site, none⟩)
  obtain ⟨schema, site, definition⟩ := placed
  cases schema with
  | reference target =>
    have hpos : env.store.longestBranch ≠ 0 :=
      Nat.ne_zero_of_lt (DocumentStore.tellingCount_lt_longestBranch env.store)
    obtain ⟨budget, hbudget⟩ := Nat.exists_eq_succ_of_ne_zero hpos
    have hresolver : resolver env membership ⟨.reference target, site, definition⟩
        = followWithin mockResolver env.store.longestBranch env membership target site := rfl
    rw [hresolver, hbudget, followWithin_succ]
    refine followLayer_congr fun hfresh => ?_
    have hin := suffices_longestBranch env (.reference target)
    rw [hbudget] at hin
    rw [← make_eq_makeLayer, hlayer]
    exact makeAsk_congr (fun mentioned hmentions =>
      followWithin_eq ((hin.inside (.here target) hfresh).of_mentions hmentions)
        (suffices_longestBranch (env.inside target) _)) _ _ _
  | plain | array | object | combined =>
    rw [resolveLayer, hlayer]
    exact resolve_eq_typedAsk env membership _

/-- A reference is resolved by following it. -/
theorem resolver_reference (env : Environment) (membership : Option Membership)
    (reference : String) (site : Site) (definition : Option String) :
    resolver env membership ⟨.reference reference, site, definition⟩
      = followLayer resolver env membership reference site :=
  congrFun (congrFun (congrFun resolver_eq_resolveLayer env) membership) _

/-- An inline schema is resolved by making it. -/
theorem resolver_of_inline (env : Environment) (membership : Option Membership)
    {placed : PlacedSchema} (hinline : placed.schema.reference? = none) :
    resolver env membership placed
      = placed.schema.typed <$> makeLayer resolver env membership placed :=
  (congrFun (congrFun (congrFun resolver_eq_resolveLayer env) membership) placed).trans
    (resolveLayer_of_inline resolver env membership hinline)

/-! ## 4. The number of layers -/

/-- **As many layers as a schema and a budget that suffices for it can need are all of the
resolution**: between two references there are no more of them than nodes stand inside one another
in a document. -/
theorem deepen_eq_resolver (beyond : Resolver) {layers budget : Nat} {env : Environment}
    {placed : PlacedSchema} (membership : Option Membership)
    (hsuffices : env.Suffices placed.schema budget)
    (hlayers : placed.schema.depth + budget * max 1 env.store.depth ≤ layers) :
    deepen beyond layers env membership placed = resolver env membership placed := by
  induction layers generalizing budget env placed membership with
  | zero =>
    have := placed.schema.one_le_depth
    omega
  | succ layers ih =>
    rw [resolver_eq_resolveLayer, deepen]
    obtain ⟨schema, site, definition⟩ := placed
    cases schema with
    | reference target =>
      refine followLayer_congr fun hfresh => ?_
      obtain ⟨rest, rfl⟩ := Nat.exists_eq_succ_of_ne_zero
        (Nat.ne_zero_of_lt (hsuffices (.here target) hfresh))
      -- what stands at the target has the rest of the budget, and a whole document for its depth
      have hin := hsuffices.inside (.here target) hfresh
      have hdepth := env.store.depth_schemaAt_le (env.target target)
      have hmul := Nat.succ_mul rest (max 1 env.store.depth)
      simp only [Schema.depth] at hlayers
      refine makeLayer_compat compatible_eq (.refl _) membership _ (fun _ => ?_)
        fun part hpart membership' site' => ?_
      · refine ih membership hin ?_
        simp only [Environment.store_inside, Environment.followed]
        omega
      · refine ih membership' (hin.part hpart) ?_
        have hlt := Schema.depth_lt_of_mem_parts hpart
        simp only [Environment.store_inside, Environment.followed] at hlt ⊢
        omega
    | plain | array | object | combined =>
      refine congrArg (Schema.typed _ <$> ·) ?_
      refine makeLayer_compat compatible_eq (.refl env) membership _
        (fun hsome => by simp [Schema.reference?] at hsome) fun part hpart membership' site' => ?_
      have hlt := Schema.depth_lt_of_mem_parts hpart
      refine ih membership' (hsuffices.part hpart) ?_
      simp only at hlt hlayers ⊢
      omega

/-- The number of layers that are enough for a schema, told from the schema and the documents. -/
def layersFor (store : DocumentStore) (schema : Schema) : Nat :=
  schema.depth + (1 + store.tellingCount) * max 1 store.depth

/-- **The number that is told beforehand is enough**, in every environment. -/
theorem deepen_layersFor (beyond : Resolver) {layers : Nat} {env : Environment}
    {placed : PlacedSchema} (membership : Option Membership)
    (h : layersFor env.store placed.schema ≤ layers) :
    deepen beyond layers env membership placed = resolver env membership placed :=
  deepen_eq_resolver beyond membership
    (Environment.suffices_of_tellingCount_lt (Nat.lt_one_add_iff.mpr (Nat.le_refl _))) h

/-- A resolution is a row of layers, whatever lies below them. -/
theorem resolver_eq_deepen (beyond : Resolver) (env : Environment)
    (membership : Option Membership) (placed : PlacedSchema) :
    resolver env membership placed
      = deepen beyond (layersFor env.store placed.schema) env membership placed :=
  (deepen_layersFor beyond membership (Nat.le_refl _)).symm

/-- **What holds below all layers, and is kept by each of them, holds of the resolution.** -/
theorem resolver_of_layers
    {Q : Environment → Option Membership → PlacedSchema → Resolve Mock → Prop}
    (hbelow : ∀ env membership placed, Q env membership placed (unanswered env membership placed))
    (hlayer : ∀ {ask : Resolver},
      (∀ env membership placed, Q env membership placed (ask env membership placed)) →
        ∀ env membership placed, Q env membership placed (resolveLayer ask env membership placed))
    (env : Environment) (membership : Option Membership) (placed : PlacedSchema) :
    Q env membership placed (resolver env membership placed) := by
  have hdeepen : ∀ layers env membership placed,
      Q env membership placed (deepen unanswered layers env membership placed) := by
    intro layers
    induction layers with
    | zero => exact hbelow
    | succ layers ih => exact hlayer ih
  rw [resolver_eq_deepen unanswered]
  exact hdeepen _ env membership placed

end SchemaMock
